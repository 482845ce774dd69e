import AprsWx.Daemon

/-!
# The stored reports

What the store and the arrays hold in every run, over all connections.

* `main_store`: after an aggregation the store has the last report of every station that is at
  most 90 minutes old, and nothing but a weather packet changes it.
* `main_located`: every stored report can be aggregated, and every aggregate can be printed.
-/

namespace AprsWx

open Double Prog Trace

variable {F : Type} [CDouble F]

/-! ## The store -/

/-- The clock does not go back. -/
def SteadyClock (script : List Ext) : Prop := (script.filterMap Ext.asNow).Pairwise (· ≤ ·)

instance (script : List Ext) : Decidable (SteadyClock script) :=
  inferInstanceAs (Decidable (List.Pairwise _ _))

omit [CDouble F] in
theorem WeatherAggregator.Filled.getElem? {s : WeatherAggregator F} (filled : s.Filled)
    (name : List Char) : s.reports[name]? = (reportOf s name).map some := by
  unfold reportOf
  cases found : s.reports[name]? with
  | none => rfl
  | some entry =>
    obtain ⟨wx, rfl, -⟩ := filled name entry found
    rfl

/-- The readings of a history are in the order of the clock. -/
theorem Main.Tells.steady {config : Config F} {script : List Ext} {whole : Bool} {s : Main F}
    (tells : s.Tells config (script.filterMap Ext.asNow) whole) (steady : SteadyClock script) :
    (readings s.history).Pairwise (· ≤ ·) :=
  steady.sublist ((List.sublist_append_left _ _).trans tells.times)

/-- Right after an aggregation at `now` the store has, for each name, the last weather report
of that name that was received in the run, if that is at most 90 minutes old. And the store
and the arrays are always those that the last weather packet has left, unless one is being
processed. -/
theorem main_store (format : F → List Char) (config : Config F) (script : List Ext)
    (steady : SteadyClock script) :
    let s := Main.after format config script
    (∀ pre now t post, s.history = pre ++ .aggregated now t :: post → ∀ name,
      t.reports[name]? =
        ((lastReport pre name).filter fun wx => now - wx.mTimePoint ≤ maxAge).map some) ∧
    (∀ t, settled s.history = some t → s.weatherAggregator = t) := by
  intro s
  obtain ⟨whole, tells⟩ := main_tells format config script
  change s.Tells config (script.filterMap Ext.asNow) whole at tells
  refine ⟨?_, ?_⟩
  · intro pre now t post split name
    obtain ⟨before, story, rfl⟩ := tells.story.made pre _ post split
    have order := tells.steady steady
    rw [split] at order
    have late : ∀ r ∈ readings pre, r ≤ now := (readings_before order).2 now rfl
    rw [(story.filled.aggregated now).getElem? name, reportOf_aggregated, story.live late]
    rfl
  · intro t last
    rw [tells.story.settled] at last
    cases whole with
    | true => exact Option.some.inj last
    | false => cases last

/-! ### A run -/

noncomputable def sampleConfig : Config ExReal where
  callsign := some "CALL".toList
  passCode := some "12345".toList
  qthLatitude := some (ofRat 45)
  qthLongitude := some (ofRat (-75))
  filterRadius := some 100
  influxRepeats := some true
  influxHost := some "host".toList
  influxPort := some 8086
  influxDb := some "wx".toList

/-- The answers with which a line is received. -/
def lineAnswers (line : List Char) : List Ext := line.flatMap fun c => [.select 1, .read (.byte c)]

/-- A connection with a temperature at 0 s, a line of the server whose push is made at 6000 s,
and the temperature of another station at 7000 s. -/
def sampleScript : List Ext :=
  [.running true, .now 0, .getaddrinfo (some [⟨afInet, 1, 6, []⟩]), .socket (some 5),
    .bindConnect true] ++ lineAnswers "#\n".toList ++ [.write 1] ++ lineAnswers "#\n".toList ++
  lineAnswers "W>A:!4500.00N/07500.00W_000/000t077\n".toList ++
  [.now 0, .now 0, .perform 0 true] ++ lineAnswers "# aprsc\n".toList ++
  [.perform 6000000000000 true] ++
  lineAnswers "V>A:!4500.00N/07500.00W_000/000t077\n".toList ++
  [.now 7000000000000, .now 7000000000000, .perform 7000000000000 true]

noncomputable def sampleRun : Main ExReal := Main.after (fun _ => []) sampleConfig sampleScript

theorem main_store_sampleRun :
    sampleRun.history.map Obs.reading =
      [some 0, some 0, none, none, some 7000000000000, some 7000000000000, none] ∧
    (∀ pre now t post, sampleRun.history = pre ++ .aggregated now t :: post → ∀ name,
      t.reports[name]? =
        ((lastReport pre name).filter fun wx => now - wx.mTimePoint ≤ maxAge).map some) ∧
    (∀ t, settled sampleRun.history = some t → sampleRun.weatherAggregator = t) :=
  ⟨by decide +kernel, main_store (fun _ => []) sampleConfig sampleScript (by decide +kernel)⟩

/-! ## The optionals -/

/-- At every moment of every run, every entry of the store is a report of its name with a place,
a distance and a weight. After every aggregation a value has a sum and a weight or neither,
and has them exactly when a stored report has the value. So no `.value()` of `aggregateData`
and none of `printInfluxFormat` ever throws. -/
theorem main_located (format : F → List Char) (config : Config F) (script : List Ext) :
    let r := (mainTry format config).run (.start script)
    let s := final r
    (∀ name entry, s.weatherAggregator.reports[name]? = some entry →
      ∃ wx : AprsWxReport F, entry = some wx ∧ wx.mName = name ∧ wx.mLat.isSome ∧ wx.mLon.isSome ∧
        wx.mDistance.isSome ∧ wx.mHannValue.isSome) ∧
    (∀ now t, .aggregated now t ∈ s.history → ∀ i,
      ((t.mValueAggregate i).isSome ↔ (t.mHannAggregate i).isSome) ∧
      ((t.mValueAggregate i).isSome ↔ ∃ (name : List Char) (wx : AprsWxReport F),
        t.reports[name]? = some (some wx) ∧ (wx.mWeatherValue i).isSome)) ∧
    (∀ e t, r = .error e t → e ≠ .thrown (.badOptionalAccess .aggregateData) ∧
      e ≠ .thrown (.badOptionalAccess .printInfluxFormat)) := by
  intro r s
  have told := mainTry_told format config script
  obtain ⟨whole, tells⟩ : ∃ whole, s.Tells config (script.filterMap Ext.asNow) whole :=
    Ends.final (I := fun s : Main F => ∃ whole, s.Tells config (script.filterMap Ext.asNow) whole)
      (told.mono (fun _ _ tells => ⟨true, tells⟩) (fun _ _ stopped => stopped.1))
  refine ⟨?_, ?_, ?_⟩
  · intro name entry found
    obtain ⟨wx, rfl, located⟩ := tells.story.filled name entry found
    exact ⟨wx, rfl, located.mName, located.mLat, located.mLon, located.mDistance, located.mHannValue⟩
  · intro now t mem i
    obtain ⟨pre, post, split⟩ := List.append_of_mem mem
    obtain ⟨before, story, rfl⟩ := tells.story.made pre _ post split
    have after : Story config true _ (before.aggregated now) := story.aggregated
    obtain ⟨sum, weight⟩ := after.setAt i
    refine ⟨sum.trans weight.symm, sum.trans ?_⟩
    constructor
    · rintro ⟨wx, stored, set⟩
      obtain ⟨name, found⟩ := mem_stored.mp stored
      exact ⟨name, wx, found, set⟩
    · rintro ⟨name, wx, found, set⟩
      exact ⟨wx, mem_stored.mpr ⟨name, found⟩, set⟩
  · intro e t stopped
    exact (told.of_error stopped).2

end AprsWx
