import AprsWx.DewPoint
import AprsWx.Ingestion
import AprsWx.Lib.StoreSum

/-!
# What is published

What the daemon is for: the database is sent the weighted means of what the stations around it
have said last. The board has the last report of each station, as long as it counts, and a body
is a function of the board.

* `publication`: the body of a board, in exact arithmetic.
* `printInfluxFormat_publication`: what is printed after an aggregation is that of the store.
* `main_publishes`: in every run every body is that of the board of the lines so far.
-/

namespace AprsWx

open Double Prog ExReal.Sums

/-! ## The board -/

/-- The report of each station that counts. -/
abbrev Board : Type := List Char → Option (AprsWxReport ExReal)

/-- What a report has to say of a symbol: its weight and the value. -/
def AprsWxReport.share (wx : AprsWxReport ExReal) (i : Fin weatherItemCount) :
    Option (ExReal × ExReal) :=
  match wx.mHannValue, wx.mWeatherValue i with
  | some hann, some number => some (hann, number)
  | _, _ => none

namespace Board

variable (board : Board) (w : WxSym)

/-- The sum over the stations, of those that have something to say of the symbol. -/
noncomputable def sum (f : ExReal × ExReal → ExReal) : ExReal :=
  ∑ᶠ name, ((board name).bind fun wx => wx.share w.idx).elim 0 f

/-- Some station has something to say of the symbol. -/
def Speaks : Prop := ∃ name, ((board name).bind fun wx => wx.share w.idx).isSome

open Classical in
/-- The weighted mean of a symbol, in the units of the database. -/
noncomputable def reading : Option ExReal :=
  if board.Speaks w then
    some (convertUnits (weatherItemAt w.idx).units
      (board.sum w (fun c => c.2 * c.1) / board.sum w Prod.fst))
  else none

end Board

/-- What is computed from the means of temperature, humidity and gusts. -/
noncomputable def derived (temperature relHumidity windGust : Option ExReal) :
    List (InfluxLine ExReal) :=
  (match temperature, relHumidity with
    | some celsius, some relHumidity =>
      [⟨influxSeries, "DewPt", dewPoint celsius relHumidity⟩,
        ⟨influxSeries, "Humidex", humidex celsius (dewPoint celsius relHumidity)⟩]
    | _, _ => []) ++
  match temperature, windGust with
  | some celsius, some velocity => [⟨influxSeries, "WindChill", windChill celsius velocity⟩]
  | _, _ => []

/-- The body of a board. -/
noncomputable def publication (board : Board) : List (InfluxLine ExReal) :=
  (measured.filterMap fun item =>
    (board.reading item.wxSym).map fun number => ⟨influxSeries, item.dbName, number⟩) ++
  derived (board.reading .Temperature) (board.reading .Humidity) (board.reading .WindGust)

/-! ## The sums -/

/-- What a report adds in the turns of the loop over the table. -/
def AprsWxReport.turns (wx : AprsWxReport ExReal) (items : List WeatherItem)
    (i : Fin weatherItemCount) : List (ExReal × ExReal) :=
  items.flatMap fun item => if item.wxSym.idx = i then (wx.share i).toList else []

/-- The slot has the sums of a list of weights and values. -/
structure Sums.Counts (sums : Sums ExReal) (i : Fin weatherItemCount) (cs : List (ExReal × ExReal)) :
    Prop where
  value : sums.1 i = summed (cs.map fun c => c.2 * c.1)
  weight : sums.2 i = summed (cs.map Prod.fst)

section Aggregates

variable {sums : Sums ExReal} {i : Fin weatherItemCount} {cs : List (ExReal × ExReal)}
  {wx : AprsWxReport ExReal} {hann : ExReal}

theorem Sums.Counts.addItem (counts : sums.Counts i cs) (weight : wx.mHannValue = some hann)
    (item : WeatherItem) : (Sums.addItem wx hann sums item).Counts i (cs ++ wx.turns [item] i) := by
  have turn : wx.turns [item] i = if item.wxSym.idx = i then (wx.share i).toList else [] :=
    List.append_nil _
  rw [turn]
  unfold Sums.addItem
  by_cases here : item.wxSym.idx = i
  · subst here
    rw [if_pos rfl]
    cases read : wx.mWeatherValue item.wxSym.idx with
    | none =>
      simp only [AprsWxReport.share, weight, read, Option.toList_none, List.append_nil]
      exact counts
    | some number =>
      simp only [AprsWxReport.share, weight, read, Option.toList_some]
      constructor
      · rw [List.map_append]
        exact addTo_summed counts.value (number * hann)
      · rw [List.map_append]
        exact addTo_summed counts.weight hann
  · rw [if_neg here, List.append_nil]
    cases wx.mWeatherValue item.wxSym.idx with
    | none => exact counts
    | some number =>
      exact ⟨(addTo_other here _).trans counts.value, (addTo_other here _).trans counts.weight⟩

theorem Sums.Counts.addItems (counts : sums.Counts i cs) (weight : wx.mHannValue = some hann)
    (items : List WeatherItem) :
    (items.foldl (Sums.addItem wx hann) sums).Counts i (cs ++ wx.turns items i) := by
  induction items generalizing sums cs with
  | nil =>
    rw [AprsWxReport.turns, List.flatMap_nil, List.append_nil]
    exact counts
  | cons item items ih =>
    have rest := ih (counts.addItem weight item)
    rw [List.append_assoc] at rest
    have split : wx.turns (item :: items) i = wx.turns [item] i ++ wx.turns items i := by
      simp [AprsWxReport.turns]
    rw [List.foldl_cons, split]
    exact rest

theorem aggregates_counts (reports : List (AprsWxReport ExReal)) (i : Fin weatherItemCount) :
    (aggregates reports).Counts i (reports.flatMap fun wx => wx.turns weatherItemList i) := by
  induction reports using List.reverseRecOn with
  | nil => exact ⟨rfl, rfl⟩
  | append_singleton reports wx ih =>
    unfold aggregates at ih ⊢
    rw [List.foldl_append, List.flatMap_append, List.flatMap_singleton, List.foldl_cons,
      List.foldl_nil, Sums.addReport]
    cases weight : wx.mHannValue with
    | none =>
      have unweighed : wx.turns weatherItemList i = [] := by
        simp [AprsWxReport.turns, AprsWxReport.share, weight]
      rw [unweighed, List.append_nil]
      exact ih
    | some hann => exact ih.addItems weight weatherItemList

theorem turns_rows (wx : AprsWxReport ExReal) (w : WxSym) :
    wx.turns weatherItemList w.idx =
      (List.replicate (rows w) (wx.share w.idx).toList).flatten := by
  cases w <;> rfl

theorem rows_pos (w : WxSym) : rows w ≠ 0 := by
  cases w <;> decide

end Aggregates

/-! ## The store -/

section Store

variable {s : WeatherAggregator ExReal}

/-- A sum over the reports of the store is one over the names. -/
theorem sum_stored (s : WeatherAggregator ExReal) (f : AprsWxReport ExReal → ExReal) :
    ((stored s.reports).map f).sum = ∑ᶠ name, (reportOf s name).elim 0 f := by
  have entries : ∀ l : List (List Char × Option (AprsWxReport ExReal)), l ⊆ s.reports.toList →
      ((l.filterMap Prod.snd).map f).sum =
        ((l.map Prod.fst).map fun name => (reportOf s name).elim 0 f).sum := by
    intro l
    induction l with
    | nil => exact fun _ => rfl
    | cons e l ih =>
      intro sub
      obtain ⟨here, rest⟩ := List.cons_subset.mp sub
      obtain ⟨name, entry⟩ := e
      have found : reportOf s name = entry := by
        rw [reportOf, Std.ExtTreeMap.mem_toList_iff_getElem?_eq_some.mp here, Option.join_some]
      rw [List.map_cons, List.map_cons, List.sum_cons, found, ← ih rest]
      cases entry with
      | none => exact (zero_add _).symm
      | some wx => rfl
  rw [stored, entries _ (List.Subset.refl _), Std.ExtTreeMap.map_fst_toList_eq_keys]
  refine sum_eq_finsum Std.ExtTreeMap.nodup_keys fun name other => ?_
  rw [reportOf, Std.ExtTreeMap.getElem?_eq_none fun mem => other (Std.ExtTreeMap.mem_keys.mpr mem)]
  rfl

/-- What a slot adds up, in the turns over the rows of a symbol. -/
theorem sum_turns (s : WeatherAggregator ExReal) (w : WxSym) (f : ExReal × ExReal → ExReal) :
    (((stored s.reports).flatMap fun wx => wx.turns weatherItemList w.idx).map f).sum =
      rows w • Board.sum (reportOf s) w f := by
  have turns : ((stored s.reports).flatMap fun wx => wx.turns weatherItemList w.idx).map f =
      (stored s.reports).flatMap fun wx =>
        (List.replicate (rows w) ((wx.share w.idx).toList.map f)).flatten := by
    rw [List.map_flatMap]
    refine List.flatMap_congr fun wx _ => ?_
    rw [turns_rows, List.map_flatten, List.map_replicate]
  rw [turns, sum_flatMap_replicate, sum_stored, Board.sum]
  refine congrArg _ (finsum_congr fun name => ?_)
  cases reportOf s name with
  | none => rfl
  | some wx =>
    show ((wx.share w.idx).toList.map f).sum = (wx.share w.idx).elim 0 f
    cases wx.share w.idx with
    | none => rfl
    | some c => exact add_zero _

theorem turns_eq_nil {s : WeatherAggregator ExReal} {w : WxSym} :
    ((stored s.reports).flatMap fun wx => wx.turns weatherItemList w.idx) = [] ↔
      ¬ Board.Speaks (reportOf s) w := by
  have some_row : rows w ≠ 0 := rows_pos w
  rw [List.flatMap_eq_nil_iff, Board.Speaks, not_exists]
  constructor
  · intro silent name speaks
    obtain ⟨c, said⟩ := Option.isSome_iff_exists.mp speaks
    obtain ⟨wx, found, share⟩ := Option.bind_eq_some_iff.mp said
    have mem := mem_stored.mpr ⟨name, Option.join_eq_some_iff.mp found⟩
    have none := silent wx mem
    rw [turns_rows, share] at none
    simp [some_row] at none
  · intro silent wx mem
    obtain ⟨name, found⟩ := mem_stored.mp mem
    have none := silent name
    rw [reportOf, found, Option.join_some, Option.bind_some, Option.not_isSome_iff_eq_none] at none
    rw [turns_rows, none]
    simp

/-- The number of a row, where the slots have the sums of the store, is the reading of its board. -/
theorem number_reading {s : WeatherAggregator ExReal}
    (sums : s.sums = aggregates (stored s.reports)) {item : WeatherItem}
    (listed : item ∈ weatherItemList) : s.number item = Board.reading (reportOf s) item.wxSym := by
  have units : ∀ item ∈ weatherItemList, (weatherItemAt item.wxSym.idx).units = item.units := by decide
  have counts := aggregates_counts (stored s.reports) item.wxSym.idx
  rw [← sums] at counts
  obtain ⟨value, weight⟩ := counts
  change s.mValueAggregate item.wxSym.idx = _ at value
  change s.mHannAggregate item.wxSym.idx = _ at weight
  unfold WeatherAggregator.number Board.reading
  rw [value, weight, units item listed]
  by_cases speaks : Board.Speaks (reportOf s) item.wxSym
  · have nonempty := fun nil => turns_eq_nil.mp nil speaks
    rw [if_pos speaks, summed_eq_sum (mt List.map_eq_nil_iff.mp nonempty),
      summed_eq_sum (mt List.map_eq_nil_iff.mp nonempty), sum_turns, sum_turns]
    show some (convertUnits item.units (_ / _)) = _
    rw [nsmul_div_nsmul (rows_pos item.wxSym)]
  · rw [if_neg speaks, turns_eq_nil.mpr speaks]
    rfl

end Store

/-! ## The body -/

section Body

variable {t u : WeatherAggregator ExReal} {series : String} {P : Fin weatherItemCount → Prop}

/-- What a row makes of what was gathered before it. -/
noncomputable def Gathered.row (t : WeatherAggregator ExReal) (series : String)
    (out : Gathered ExReal) (item : WeatherItem) : Gathered ExReal :=
  if item.wxFlag ≠ 'l' then
    match t.number item with
    | some number => (out.gather item.wxSym number).print series item.dbName number
    | none => out
  else out

/-- The line of a row. -/
noncomputable def WeatherAggregator.line (t : WeatherAggregator ExReal) (series : String)
    (item : WeatherItem) : Option (InfluxLine ExReal) :=
  if item.wxFlag ≠ 'l' then
    (t.number item).map fun number => ⟨series, item.dbName, number⟩
  else none

/-- The numbers that the rows of a symbol have. -/
noncomputable def WeatherAggregator.numbers (t : WeatherAggregator ExReal) (w : WxSym)
    (items : List WeatherItem) : List ExReal :=
  (items.filter fun item => item.wxFlag ≠ 'l' ∧ item.wxSym = w).filterMap t.number

theorem printItem_row (set : t.sums.SetAt P) (out : Gathered ExReal) (item : WeatherItem) :
    (printItem t series out item).run u = .ok (out.row t series item) u := by
  obtain ⟨sum, weight⟩ := set item.wxSym.idx
  unfold printItem Gathered.row WeatherAggregator.number
  split
  · dsimp only
    cases value : t.mValueAggregate item.wxSym.idx with
    | none => rfl
    | some total =>
      have weighed := weight.mpr (sum.mp (show (t.mValueAggregate _).isSome by rw [value]; rfl))
      obtain ⟨hann, weight⟩ := Option.isSome_iff_exists.mp weighed
      rw [show t.mHannAggregate item.wxSym.idx = some hann from weight, value_some]
      rfl
  · rfl

theorem printItems_rows (set : t.sums.SetAt P) (out : Gathered ExReal) (items : List WeatherItem) :
    (printItems t series out items).run u = .ok (items.foldl (Gathered.row t series) out) u := by
  induction items generalizing out with
  | nil => rfl
  | cons item items ih =>
    unfold printItems
    rw [EStateM.run_bind, printItem_row set]
    exact ih _

theorem Gathered.lines_rows (out : Gathered ExReal) (items : List WeatherItem) :
    (items.foldl (Gathered.row t series) out).lines = out.lines ++ items.filterMap (t.line series) := by
  induction items generalizing out with
  | nil => simp
  | cons item items ih =>
    have gathered : ∀ number, (out.gather item.wxSym number).lines = out.lines := by
      intro number
      unfold Gathered.gather
      split_ifs <;> rfl
    rw [List.foldl_cons, ih, List.filterMap_cons]
    unfold Gathered.row WeatherAggregator.line
    split_ifs
    · cases t.number item with
      | none => rfl
      | some number => simp [Gathered.print, gathered]
    · rfl

theorem Gathered.kept_row (out : Gathered ExReal) {w : WxSym} (mem : w ∈ keptSymbols)
    (item : WeatherItem) :
    (out.row t series item).kept w = (t.numbers w [item]).getLast?.or (out.kept w) := by
  have gathered : ∀ sym number, (out.gather sym number).kept w =
      if sym = w then some number else out.kept w := by
    intro sym number
    unfold Gathered.gather
    simp only [keptSymbols, List.mem_cons, List.not_mem_nil, or_false] at mem
    rcases mem with rfl | rfl | rfl
    all_goals cases sym <;> rfl
  have printed : ∀ (out : Gathered ExReal) name number,
      (out.print series name number).kept w = out.kept w := by
    intro out name number
    cases w <;> rfl
  unfold Gathered.row WeatherAggregator.numbers
  by_cases low : item.wxFlag ≠ 'l'
  · rw [if_pos low]
    cases read : t.number item with
    | none => by_cases same : item.wxSym = w <;> simp [low, same, read]
    | some number =>
      dsimp only
      rw [printed, gathered]
      by_cases same : item.wxSym = w <;> simp [low, same, read]
  · rw [if_neg low]
    simp [not_not.mp low]

/-- The number that the loop keeps is that of the last row of the symbol. -/
theorem Gathered.kept_rows (out : Gathered ExReal) {w : WxSym} (mem : w ∈ keptSymbols)
    (items : List WeatherItem) :
    (items.foldl (Gathered.row t series) out).kept w =
      (t.numbers w items).getLast?.or (out.kept w) := by
  induction items generalizing out with
  | nil => rfl
  | cons item items ih =>
    have split : t.numbers w (item :: items) = t.numbers w [item] ++ t.numbers w items := by
      unfold WeatherAggregator.numbers
      rw [← List.filterMap_append, ← List.filter_append, List.singleton_append]
    rw [List.foldl_cons, ih, Gathered.kept_row out mem, split, List.getLast?_append, Option.or_assoc]

/-- What is printed after the loop. -/
theorem lines_derived (out : Gathered ExReal) :
    (printWindChill influxSeries (printHumidity influxSeries out)).lines =
      out.lines ++ derived (out.kept .Temperature) (out.kept .Humidity) (out.kept .WindGust) := by
  obtain ⟨temperature, relHumidity, windGust, lines⟩ := out
  unfold printWindChill printHumidity derived
  cases temperature with
  | none => simp [Gathered.kept]
  | some celsius =>
    cases relHumidity with
    | none => cases windGust <;> simp [Gathered.kept, Gathered.print]
    | some relHumidity => cases windGust <;> simp [Gathered.kept, Gathered.print]

/-- Where the slots have the sums of the store and no report has a value of width 0, the body is
that of the board. -/
theorem printInfluxFormat_publication (set : t.sums.SetAt P)
    (sums : t.sums = aggregates (stored t.reports)) (dewPoint : t.has .DewPoint = false)
    (humidex : t.has .Humidex = false) :
    (printInfluxFormat influxSeries).run t = .ok (publication (reportOf t)) t := by
  have printed : (printInfluxFormat influxSeries).run t = .ok (printWindChill influxSeries
      (printHumidity influxSeries (weatherItemList.foldl (Gathered.row t influxSeries) {}))).lines t := by
    unfold printInfluxFormat
    rw [EStateM.run_bind, EStateM.run_get]
    dsimp only
    rw [EStateM.run_bind, printItems_rows set]
    rfl
  have kept : ∀ w ∈ keptSymbols, (weatherItemList.foldl (Gathered.row t influxSeries) {}).kept w =
      Board.reading (reportOf t) w := by
    intro w mem
    have row : ∀ w ∈ keptSymbols,
        weatherItemList.filter (fun item => item.wxFlag ≠ 'l' ∧ item.wxSym = w) =
          [weatherItemAt w.idx] := by decide
    have none : ({} : Gathered ExReal).kept w = none := by cases w <;> rfl
    have reading := number_reading sums (List.get_mem weatherItemList w.idx)
    rw [show (weatherItemList.get w.idx).wxSym = w from weatherItemAt_wxSym w] at reading
    rw [Gathered.kept_rows _ mem, none, Option.or_none, WeatherAggregator.numbers, row w mem, ← reading]
    show ([weatherItemAt w.idx].filterMap t.number).getLast? = t.number (weatherItemAt w.idx)
    cases read : t.number (weatherItemAt w.idx) <;> simp [read]
  have rows : weatherItemList.filterMap (t.line influxSeries) = measured.filterMap fun item =>
      (Board.reading (reportOf t) item.wxSym).map fun number => ⟨influxSeries, item.dbName, number⟩ := by
    rw [measured, List.filterMap_filter]
    refine List.filterMap_congr fun item listed => ?_
    have computed : ∀ item ∈ weatherItemList, item.wxFlag = '\n' →
        item.wxSym = .DewPoint ∨ item.wxSym = .Humidex := by decide
    unfold WeatherAggregator.line
    by_cases newline : item.wxFlag = '\n'
    · have silent : t.number item = none := by
        rw [← Option.not_isSome_iff_eq_none]
        intro some
        obtain ⟨number, read⟩ := Option.isSome_iff_exists.mp some
        have has := WeatherAggregator.has_of_number read
        rcases computed item listed newline with same | same
        · rw [same, dewPoint] at has
          cases has
        · rw [same, humidex] at has
          cases has
      simp [newline, silent]
    · simp [newline, number_reading sums listed]
  rw [printed, lines_derived, Gathered.lines_rows, kept _ (by decide), kept _ (by decide),
    kept _ (by decide), rows]
  rfl

end Body

/-! ## Runs -/

section Runs

variable {config : Config ExReal} {h : List (Obs ExReal)} {s : WeatherAggregator ExReal}

/-- What is printed in a story is what its last aggregation has published. -/
theorem Story.publication (story : Story config true h s) (steady : (readings h).Pairwise (· ≤ ·))
    (heard : ∀ wx, .received wx ∈ h → IsHeard config wx) {now : Int} {t : WeatherAggregator ExReal}
    (last : AprsWx.lastAggregation h = some (now, t)) :
    (printInfluxFormat influxSeries).run s =
      .ok (AprsWx.publication (liveAt now (lastReport h))) s := by
  have same : s = t := by
    rcases story.lastAggregation with ⟨now', last'⟩ | ⟨none, -⟩
    · exact congrArg Prod.snd (Option.some.inj (last'.symm.trans last))
    · rw [none] at last
      cases last
  rw [← story.store steady last, ← same]
  exact printInfluxFormat_publication story.setAt story.sums
    (story.has_eq_false fun wx mem => (heard wx mem).unset (w := .DewPoint) rfl)
    (story.has_eq_false fun wx mem => (heard wx mem).unset (w := .Humidex) rfl)

/-- What is pushed was aggregated. -/
theorem Story.aggregated_of_pushed (story : Story config true h s) {cause : Cause}
    (why : cause = .weatherPacket ∧ (∃ now, h.getLast? = some (.aggregated now s)) ∨
      cause = .serverLine ∧ config.influxRepeats = some true ∧ s.reports.isEmpty = false) :
    ∃ now, AprsWx.lastAggregation h = some (now, s) := by
  rcases story.lastAggregation with last | ⟨none, rfl⟩
  · exact last
  rcases why with ⟨-, now, last⟩ | ⟨-, -, some⟩
  · obtain ⟨before, rfl⟩ := List.getLast?_eq_some_iff.mp last
    exact ⟨now, lastAggregation_aggregated _ _ _⟩
  · simp at some

/-- In every run of the daemon, wherever it stops: every body that is pushed is a function of the
weather packets among the lines that the servers have sent so far, and of the readings of the clock
right after each of them and at the last aggregation. The last packet of each station that is not older than 90 minutes at the last
aggregation counts; each row of the table is the weighted mean over the stations that have a value
for it, in the units of the database, and is left out where there is none; and the computed values
are those of the means. -/
theorem main_publishes (format : ExReal → List Char) (config : Config ExReal) (script : List Ext)
    (steady : SteadyClock script) :
    let s := Main.after format config script
    ∀ pre cause at_ url body post, s.history = pre ++ .pushed cause at_ url body :: post →
      ∃ now t packets, lastAggregation pre = some (now, t) ∧
        packets <+: weatherLines (hears s.net.log).lines ∧
        List.Forall₂ (IsReportOf config) packets (reportsOf pre) ∧
        Timed script packets (timesOf (reportsOf pre)) ∧
        (readings pre).Sublist (script.filterMap Ext.asNow) ∧
        body = publication (liveAt now (Expiry.last (fun wx => wx.mName) (reportsOf pre))) := by
  intro s pre cause at_ url body post split
  obtain ⟨whole, tells⟩ := main_tells format config script
  change s.Tells config (script.filterMap Ext.asNow) whole at tells
  have hears : s.Hears config := main_hears format config script
  obtain ⟨a, story, printed, why⟩ := tells.story.made pre _ post split
  obtain ⟨now, last⟩ := story.aggregated_of_pushed why
  have order := tells.steady steady
  rw [split] at order
  have published := story.publication (readings_before order).1 (fun wx mem => hears wx (by
    rw [split]
    exact List.mem_append_left _ mem)) last
  obtain ⟨taken, rest, lines, -, decoded, timed⟩ := main_accounts format config script
  have reports : reportsOf s.history = reportsOf pre ++ reportsOf (.pushed cause at_ url body :: post) := by
    rw [split, reportsOf, List.filterMap_append]
    rfl
  have times : timesOf (reportsOf s.history) =
      timesOf (reportsOf pre) ++ timesOf (reportsOf (.pushed cause at_ url body :: post)) := by
    rw [reports, timesOf, List.map_append]
    rfl
  change List.Forall₂ _ _ (reportsOf s.history) at decoded
  change Timed _ _ (timesOf (reportsOf s.history)) at timed
  rw [reports] at decoded
  rw [times] at timed
  refine ⟨now, a, _, last, ?_, List.forall₂_take_append _ _ _ decoded, ?_, ?_, ?_⟩
  · refine (List.take_prefix _ _).trans ?_
    rw [show (AprsWx.hears s.net.log).lines = taken ++ rest from lines]
    unfold weatherLines
    rw [List.filter_append]
    exact List.prefix_append _ _
  · have first := timed.take
    rwa [timesOf, List.length_map] at first
  · have read : readings s.history =
        readings pre ++ readings (.pushed cause at_ url body :: post) := by
      rw [split, readings, List.filterMap_append]
      rfl
    have asked := tells.times
    rw [read, List.append_assoc] at asked
    exact (List.sublist_append_left _ _).trans asked
  · rw [published] at printed
    cases printed
    rfl

/-- In the sample run two bodies are pushed of the first packet, and one of the second. -/
theorem main_publishes_sampleRun :
    sampleRun.history.map Obs.reading =
      [some 0, some 0, none, none, some 7000000000000, some 7000000000000, none] ∧
    ∀ pre cause at_ url body post, sampleRun.history = pre ++ .pushed cause at_ url body :: post →
      ∃ now t packets, lastAggregation pre = some (now, t) ∧
        packets <+: weatherLines (hears sampleRun.net.log).lines ∧
        List.Forall₂ (IsReportOf sampleConfig) packets (reportsOf pre) ∧
        Timed sampleScript packets (timesOf (reportsOf pre)) ∧
        (readings pre).Sublist (sampleScript.filterMap Ext.asNow) ∧
        body = publication (liveAt now (Expiry.last (fun wx => wx.mName) (reportsOf pre))) := by
  refine ⟨by decide +kernel, ?_⟩
  have published := main_publishes (fun _ => []) sampleConfig sampleScript (by decide +kernel)
  unfold sampleRun
  exact published

end Runs

end AprsWx
