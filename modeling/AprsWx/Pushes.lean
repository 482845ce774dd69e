import AprsWx.Reports

/-!
# The age of what is pushed

A weather packet aggregates before it pushes. A line of the server pushes what the last
aggregation has left, at whatever time it comes.

* `main_fresh_iff`: in which runs no body is computed from a report of more than 90 minutes.
* `sampleRun_stale`: a run in which one is.
-/

namespace AprsWx

open Double Prog Trace

variable {F : Type} [CDouble F]

/-! ## What a body is computed from -/

omit [CDouble F] in
/-- A report that has some weather value. -/
def AprsWxReport.contributes (wx : AprsWxReport F) : Bool :=
  (List.finRange weatherItemCount).any fun i => (wx.mWeatherValue i).isSome

/-- The reports that the aggregates are computed from. -/
def sources (s : WeatherAggregator F) : List (AprsWxReport F) :=
  (stored s.reports).filter fun wx => wx.contributes

theorem aggregates_contributing (reports : List (AprsWxReport F)) :
    aggregates (reports.filter fun wx => wx.contributes) = aggregates reports := by
  induction reports using List.reverseRecOn with
  | nil => rfl
  | append_singleton reports wx ih =>
    unfold aggregates at ih ⊢
    rw [List.filter_append, List.foldl_append, List.foldl_append, ih]
    cases contributes : wx.contributes with
    | true => simp [contributes]
    | false =>
      have empty : ∀ i, wx.mWeatherValue i = none := by
        simpa [AprsWxReport.contributes] using contributes
      simp [contributes, Sums.addReport_of_empty _ empty]

/-- The time at which the reports of a body have to be young: that of the aggregation in the
same step, and that of the push where there is none. -/
def Cause.dueTime (cause : Cause) (now t : Int) : Int :=
  match cause with
  | .weatherPacket => now
  | .serverLine => t

/-- A body that is pushed at `t` after the history `pre` was computed from reports that are at
most 90 minutes old: it prints the arrays of the last aggregation, these are the aggregates
of its reports, and the reports are young. -/
def FreshBody (pre : List (Obs F)) (cause : Cause) (t : Int) (body : List (InfluxLine F)) : Prop :=
  ∃ now s, lastAggregation pre = some (now, s) ∧
    (printInfluxFormat influxSeries).run s = .ok body s ∧ s.sums = aggregates (sources s) ∧
    (cause = .weatherPacket → pre.getLast? = some (.aggregated now s)) ∧
    ∀ wx ∈ sources s, cause.dueTime now t - wx.mTimePoint ≤ maxAge

/-- After the history `pre`, the reports that were young at the last aggregation still are at
`t`: every station's last report with some value. -/
def StillYoung (pre : List (Obs F)) (t : Int) : Prop :=
  ∀ now, (lastAggregation pre).map Prod.fst = some now → ∀ name wx, lastReport pre name = some wx →
    wx.contributes → now - wx.mTimePoint ≤ maxAge → t - wx.mTimePoint ≤ maxAge

/-! ## Fresh bodies -/

section Story

variable {config : Config F} {pre : List (Obs F)} {cause : Cause} {t : Int} {url : List Char}
  {body : List (InfluxLine F)}

/-- A push comes after an aggregation and prints what that has left. -/
theorem Made.pushed (made : Made config pre (.pushed cause t url body)) :
    ∃ now s, Story config true pre s ∧ lastAggregation pre = some (now, s) ∧
      (printInfluxFormat influxSeries).run s = .ok body s ∧
      (cause = .weatherPacket → pre.getLast? = some (.aggregated now s)) := by
  obtain ⟨s, story, printed, why⟩ := made
  rcases story.lastAggregation with ⟨now, last⟩ | ⟨first, empty⟩
  · refine ⟨now, s, story, last, printed, ?_⟩
    rintro rfl
    rcases why with ⟨-, now', direct⟩ | ⟨other, -⟩
    · obtain ⟨pre, rfl⟩ := List.getLast?_eq_some_iff.mp direct
      rw [lastAggregation_aggregated] at last
      cases last
      exact direct
    · cases other
  · rcases why with ⟨-, now', direct⟩ | ⟨-, -, some⟩
    · obtain ⟨pre, rfl⟩ := List.getLast?_eq_some_iff.mp direct
      rw [lastAggregation_aggregated] at first
      cases first
    · rw [empty] at some
      cases some

/-- What the reports of an aggregation are, told by the history. -/
theorem mem_sources {now : Int} {s : WeatherAggregator F} (story : Story config true pre s)
    (steady : (readings pre).Pairwise (· ≤ ·)) (last : lastAggregation pre = some (now, s))
    (wx : AprsWxReport F) :
    wx ∈ sources s ↔ ∃ name, lastReport pre name = some wx ∧ wx.contributes ∧
      now - wx.mTimePoint ≤ maxAge := by
  have store := story.store steady last
  unfold sources
  rw [List.mem_filter, mem_stored]
  constructor
  · rintro ⟨⟨name, found⟩, contributes⟩
    have live : reportOf s name = some wx := by
      unfold reportOf
      rw [found]
      rfl
    rw [store] at live
    obtain ⟨received, young⟩ := Option.filter_eq_some_iff.mp live
    exact ⟨name, received, contributes, of_decide_eq_true young⟩
  · rintro ⟨name, received, contributes, young⟩
    refine ⟨⟨name, ?_⟩, contributes⟩
    have live : reportOf s name = some wx := by
      rw [store]
      exact Option.filter_eq_some_iff.mpr ⟨received, decide_eq_true young⟩
    rw [story.filled.getElem?, live]
    rfl

/-- A push of a weather packet is fresh, and one for a line of the server is fresh exactly when
the reports of the last aggregation are still young. -/
theorem Made.fresh_iff (made : Made config pre (.pushed cause t url body))
    (steady : (readings pre).Pairwise (· ≤ ·)) :
    FreshBody pre cause t body ↔ (cause = .serverLine → StillYoung pre t) := by
  obtain ⟨now, s, story, last, printed, direct⟩ := made.pushed
  have member := mem_sources story steady last
  constructor
  -- the last aggregation is one and the same, so its reports are those that `member` describes
  · rintro ⟨now', s', last', -, -, -, young⟩ rfl now'' equal name wx received contributes fresh
    rw [last] at last' equal
    cases last'
    cases equal
    exact young wx ((member wx).mpr ⟨name, received, contributes, fresh⟩)
  · intro still
    refine ⟨now, s, last, printed, ?_, direct, ?_⟩
    · rw [story.sums, sources, aggregates_contributing]
    · intro wx source
      obtain ⟨name, received, contributes, fresh⟩ := (member wx).mp source
      cases cause with
      | weatherPacket => exact fresh
      | serverLine => exact still rfl now (by rw [last]; rfl) name wx received contributes fresh

end Story

/-! ## Runs -/

/-- Every body that a run pushes is computed from reports that are at most 90 minutes old,
exactly when each push for a line of the server comes while the reports that were young at
the last aggregation still are. -/
theorem main_fresh_iff (format : F → List Char) (config : Config F) (script : List Ext)
    (steady : SteadyClock script) :
    let h := (Main.after format config script).history
    (∀ pre cause t url body post, h = pre ++ .pushed cause t url body :: post →
      FreshBody pre cause t body) ↔
    (∀ pre t url body post, h = pre ++ .pushed .serverLine t url body :: post → StillYoung pre t) := by
  intro h
  obtain ⟨whole, tells⟩ := main_tells format config script
  have order := tells.steady steady
  have fresh_iff : ∀ pre cause t url body post, h = pre ++ .pushed cause t url body :: post →
      (FreshBody pre cause t body ↔ (cause = .serverLine → StillYoung pre t)) := by
    intro pre cause t url body post split
    have before : (readings (pre ++ .pushed cause t url body :: post)).Pairwise (· ≤ ·) := by
      rw [← split]
      exact order
    exact (tells.story.made pre _ post split).fresh_iff (readings_before before).1
  constructor
  · intro fresh pre t url body post split
    exact (fresh_iff pre .serverLine t url body post split).mp
      (fresh pre .serverLine t url body post split) rfl
  · intro still pre cause t url body post split
    refine (fresh_iff pre cause t url body post split).mpr ?_
    rintro rfl
    exact still pre t url body post split

/-- In the run of `sampleScript` everything is pushed. -/
theorem main_fresh_iff_sampleRun :
    (∀ pre cause t url body post, sampleRun.history = pre ++ .pushed cause t url body :: post →
      FreshBody pre cause t body) ↔
    (∀ pre t url body post, sampleRun.history = pre ++ .pushed .serverLine t url body :: post →
      StillYoung pre t) :=
  main_fresh_iff (fun _ => []) sampleConfig sampleScript (by decide +kernel)

/-- Whether entry `i` of a history is the push of a body for a line of the server that a report
of more than 90 minutes is in. -/
def staleAt (h : List (Obs F)) (i : Nat) : Bool :=
  match h.drop i, lastAggregation (h.take i) with
  | .pushed .serverLine t _ _ :: _, some (_, s) =>
    (sources s).any fun wx => maxAge < t - wx.mTimePoint
  | _, _ => false

theorem not_fresh_of_staleAt {h : List (Obs F)} {i : Nat} (stale : staleAt h i) :
    ∃ pre t url body post, h = pre ++ .pushed .serverLine t url body :: post ∧
      ¬ FreshBody pre .serverLine t body := by
  unfold staleAt at stale
  split at stale
  · next t url body post now s split last =>
    refine ⟨h.take i, t, url, body, post, ?_, ?_⟩
    · rw [← split, List.take_append_drop]
    · rintro ⟨now', s', last', -, -, -, young⟩
      rw [last] at last'
      cases last'
      obtain ⟨wx, source, old⟩ := List.any_eq_true.mp stale
      exact absurd (young wx source) (not_le.mpr (of_decide_eq_true old))
  · cases stale

/-- At 6000 s a temperature of 0 s is pushed. -/
theorem sampleRun_stale : ∃ pre t url body post,
    sampleRun.history = pre ++ .pushed .serverLine t url body :: post ∧
      ¬ FreshBody pre .serverLine t body :=
  not_fresh_of_staleAt (show staleAt sampleRun.history 3 by decide +kernel)

end AprsWx
