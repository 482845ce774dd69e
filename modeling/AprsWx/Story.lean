import AprsWx.Lib.Expiry
import AprsWx.Lib.Trace
import AprsWx.Main

/-!
# What the daemon can have done

The histories that the daemon can make, and what they say about the aggregator. `Story` says
once what a step can do; the invariants are inductions over it.

* `Story.filled`, `Story.sums`: what the store and the arrays hold.
* `Story.live`: from now on, the store has the same live reports as the whole history.
* `Story.store`: after an aggregation the store is what is live of the history.
-/

namespace AprsWx

open Double Prog Trace

variable {F : Type}

/-! ## Histories -/

/-- The clock's reading that an entry is made with. -/
def Obs.reading : Obs F → Option Int
  | .received wx => some wx.mTimePoint
  | .aggregated now _ => some now
  | .pushed _ _ _ _ => none

def readings (h : List (Obs F)) : List Int := h.filterMap Obs.reading

def Obs.report : Obs F → Option (AprsWxReport F)
  | .received wx => some wx
  | _ => none

/-- The last weather report of a name that was received. -/
def lastReport (h : List (Obs F)) : List Char → Option (AprsWxReport F) :=
  Expiry.last (fun wx => wx.mName) (h.filterMap Obs.report)

def Obs.aggregation : Obs F → Option (Int × WeatherAggregator F)
  | .aggregated now weatherAggregator => some (now, weatherAggregator)
  | _ => none

/-- The last aggregation: its time, and the aggregator it left. -/
def lastAggregation (h : List (Obs F)) : Option (Int × WeatherAggregator F) :=
  (h.filterMap Obs.aggregation).getLast?

/-- What the aggregator is after a history, unless the last weather packet is still being
processed. -/
def settled (h : List (Obs F)) : Option (WeatherAggregator F) :=
  h.foldl (fun s o => match o with
    | .received _ => none
    | .aggregated _ weatherAggregator => some weatherAggregator
    | .pushed _ _ _ _ => s) (some {})

section Concat

variable (h : List (Obs F)) (o : Obs F)

theorem readings_concat : readings (h ++ [o]) = readings h ++ o.reading.toList := by
  unfold readings
  rw [List.filterMap_append]
  cases read : o.reading <;> simp [read]

/-- In the order of the clock, the readings before an entry are not later than its own. -/
theorem readings_before {pre post : List (Obs F)} {o : Obs F}
    (order : (readings (pre ++ o :: post)).Pairwise (· ≤ ·)) :
    (readings pre).Pairwise (· ≤ ·) ∧ ∀ now, o.reading = some now → ∀ r ∈ readings pre, r ≤ now := by
  unfold readings at order ⊢
  rw [List.filterMap_append] at order
  obtain ⟨before, -, across⟩ := List.pairwise_append.mp order
  refine ⟨before, fun now read r mem => across r mem now ?_⟩
  rw [List.filterMap_cons_some read]
  exact List.mem_cons_self

theorem lastReport_received (wx : AprsWxReport F) :
    lastReport (h ++ [.received wx]) = Function.update (lastReport h) wx.mName (some wx) := by
  unfold lastReport
  rw [List.filterMap_append]
  exact Expiry.last_concat _ _ _

theorem lastReport_other {h : List (Obs F)} {o : Obs F} (other : o.report = none) :
    lastReport (h ++ [o]) = lastReport h := by
  unfold lastReport
  rw [List.filterMap_append, List.filterMap_cons_none other, List.filterMap_nil, List.append_nil]

theorem lastAggregation_aggregated (now : Int) (s : WeatherAggregator F) :
    lastAggregation (h ++ [.aggregated now s]) = some (now, s) := by
  unfold lastAggregation
  rw [List.filterMap_append]
  exact List.getLast?_concat

theorem lastAggregation_other {h : List (Obs F)} {o : Obs F} (other : o.aggregation = none) :
    lastAggregation (h ++ [o]) = lastAggregation h := by
  unfold lastAggregation
  rw [List.filterMap_append, List.filterMap_cons_none other, List.filterMap_nil, List.append_nil]

end Concat

/-! ## Stories -/

section Stories

variable [CDouble F]

/-- `Story config whole h s`: the daemon can have made the history `h` and have the aggregator
`s` then. The story is not whole while a weather packet is processed, from the moment it is
stored until the reports are aggregated. -/
inductive Story (config : Config F) : Bool → List (Obs F) → WeatherAggregator F → Prop
  | start : Story config true [] {}
  | received {h : List (Obs F)} {s : WeatherAggregator F} {wx : AprsWxReport F} :
    Story config true h s → wx.Located wx.mName →
    Story config false (h ++ [.received wx]) (s.store wx)
  | aggregated {h : List (Obs F)} {s : WeatherAggregator F} {now : Int} :
    Story config false h s →
    Story config true (h ++ [.aggregated now (s.aggregated now)]) (s.aggregated now)
  | pushed {h : List (Obs F)} {s : WeatherAggregator F} {cause : Cause} {t : Int} {url : List Char}
    {body : List (InfluxLine F)} :
    Story config true h s → (printInfluxFormat influxSeries).run s = .ok body s →
    (cause = .weatherPacket ∧ (∃ now, h.getLast? = some (.aggregated now s)) ∨
      cause = .serverLine ∧ config.influxRepeats = some true ∧ s.reports.isEmpty = false) →
    Story config true (h ++ [.pushed cause t url body]) s

variable {config : Config F} {whole : Bool} {h : List (Obs F)} {s : WeatherAggregator F}

theorem Story.filled (story : Story config whole h s) : s.Filled := by
  induction story with
  | start => exact filled_empty
  | received _ located ih => exact ih.store located
  | aggregated _ ih => exact ih.aggregated _
  | pushed _ _ _ ih => exact ih

/-- In a whole story the arrays are the aggregates of the stored reports. -/
theorem Story.sums (story : Story config true h s) : s.sums = aggregates (stored s.reports) := by
  generalize whole_eq : true = whole at story
  induction story with
  | start => rfl
  | received => cases whole_eq
  | aggregated => rfl
  | pushed _ _ _ ih => exact ih whole_eq

theorem Story.setAt (story : Story config true h s) :
    s.sums.SetAt fun i => ∃ report ∈ stored s.reports, (report.mWeatherValue i).isSome := by
  rw [story.sums]
  exact aggregates_setAt _ story.filled.located

/-- The aggregator of a whole story is the one that its history tells. -/
theorem Story.settled (story : Story config whole h s) :
    AprsWx.settled h = if whole then some s else none := by
  induction story with
  | start => rfl
  | received => simp [AprsWx.settled]
  | aggregated => simp [AprsWx.settled]
  | pushed _ _ _ ih => simpa [AprsWx.settled] using ih

/-- Before the first aggregation of a whole story the aggregator is empty, and after the last
one it is what that one has left. -/
theorem Story.lastAggregation (story : Story config true h s) :
    (∃ now, AprsWx.lastAggregation h = some (now, s)) ∨
      AprsWx.lastAggregation h = none ∧ s = {} := by
  generalize whole_eq : true = whole at story
  induction story with
  | start => exact .inr ⟨rfl, rfl⟩
  | received => cases whole_eq
  | aggregated => exact .inl ⟨_, lastAggregation_aggregated _ _ _⟩
  | pushed _ _ _ ih =>
    rw [lastAggregation_other rfl]
    exact ih whole_eq

/-! ### The store and the history -/

/-- The store as a function. -/
def reportOf (s : WeatherAggregator F) (name : List Char) : Option (AprsWxReport F) :=
  s.reports[name]?.join

/-- What counts of a store of reports at `now`. -/
abbrev liveAt (now : Int) (store : List Char → Option (AprsWxReport F)) :
    List Char → Option (AprsWxReport F) :=
  Expiry.live maxAge (fun wx => wx.mTimePoint) now store

omit [CDouble F] in
theorem reportOf_store (s : WeatherAggregator F) (wx : AprsWxReport F) :
    reportOf (s.store wx) = Function.update (reportOf s) wx.mName (some wx) := by
  funext name
  unfold reportOf WeatherAggregator.store
  rw [Std.ExtTreeMap.getElem?_insert]
  rcases eq_or_ne name wx.mName with rfl | other
  · simp
  · simp [other.symm, Function.update_of_ne other]

theorem reportOf_aggregated (s : WeatherAggregator F) (now : Int) :
    reportOf (s.aggregated now) = liveAt now (reportOf s) := by
  funext name
  show (s.reports.filter fun _ entry => AprsWx.live now entry)[name]?.join =
    s.reports[name]?.join.filter fun wx => now - wx.mTimePoint ≤ maxAge
  rw [Std.ExtTreeMap.getElem?_filter']
  cases s.reports[name]? with
  | none => rfl
  | some entry =>
    cases entry with
    | none => rfl
    | some wx =>
      rw [Option.join_some, Option.filter_some, Option.filter_some, AprsWx.live]
      split <;> rfl

/-- Expired reports may be left in the store, and reports that were received may be gone from
it. From the last reading on they never count again. -/
theorem Story.live (story : Story config whole h s) {now : Int} (late : ∀ t ∈ readings h, t ≤ now) :
    liveAt now (reportOf s) = liveAt now (lastReport h) := by
  induction story with
  | start =>
    funext name
    simp [liveAt, Expiry.live, reportOf, lastReport, Expiry.last_nil]
  | @received h s wx _ _ ih =>
    rw [readings_concat] at late
    rw [reportOf_store, lastReport_received]
    -- the same report goes into the store and into the history
    exact Expiry.live_put (ih fun t mem => late t (List.mem_append_left _ mem)) _ _
  | @aggregated h s now' _ ih =>
    rw [readings_concat] at late
    -- what is erased at `now'` would not count at `now` either
    rw [reportOf_aggregated, lastReport_other rfl, liveAt, liveAt,
      Expiry.live_live (late now' (List.mem_append_right _ List.mem_cons_self))]
    exact ih fun t mem => late t (List.mem_append_left _ mem)
  | pushed _ _ _ ih =>
    rw [readings_concat] at late
    rw [lastReport_other rfl]
    exact ih fun t mem => late t (List.mem_append_left _ mem)

/-- With a steady clock, what an aggregation leaves is what counts of the whole history. -/
theorem Story.store (story : Story config true h s) (steady : (readings h).Pairwise (· ≤ ·))
    {now : Int} {t : WeatherAggregator F} (last : AprsWx.lastAggregation h = some (now, t)) :
    reportOf t = liveAt now (lastReport h) := by
  generalize whole_eq : true = whole at story
  induction story with
  | start => cases last
  | received => cases whole_eq
  | @aggregated h s now' before ih =>
    rw [lastAggregation_aggregated] at last
    cases last
    rw [readings_concat] at steady
    have late : ∀ t ∈ readings h, t ≤ now := fun t mem =>
      (List.pairwise_append.mp steady).2.2 t mem now List.mem_cons_self
    rw [reportOf_aggregated, lastReport_other rfl, before.live late]
  | pushed _ _ _ ih =>
    rw [lastAggregation_other rfl] at last
    rw [readings_concat] at steady
    rw [lastReport_other rfl]
    exact ih (List.pairwise_append.mp steady).1 last whole_eq

/-! ### Entries -/

/-- What was so when an entry of a history was made. -/
def Made (config : Config F) (h : List (Obs F)) : Obs F → Prop
  | .received wx => ∃ s, Story config true h s ∧ wx.Located wx.mName
  | .aggregated now t => ∃ s, Story config false h s ∧ t = s.aggregated now
  | .pushed cause _ _ body => ∃ s, Story config true h s ∧
    (printInfluxFormat influxSeries).run s = .ok body s ∧
    (cause = .weatherPacket ∧ (∃ now, h.getLast? = some (.aggregated now s)) ∨
      cause = .serverLine ∧ config.influxRepeats = some true ∧ s.reports.isEmpty = false)

/-- Every entry of a story was made in a story. -/
theorem Story.made (story : Story config whole h s) : Throughout (Made config) h := by
  induction story with
  | start => exact throughout_nil
  | received before located ih => exact ih.concat ⟨_, before, located⟩
  | aggregated before ih => exact ih.concat ⟨_, before, rfl⟩
  | pushed before printed why ih => exact ih.concat ⟨_, before, printed, why⟩

end Stories

end AprsWx
