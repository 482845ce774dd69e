import AprsWx.Aggregator
import AprsWx.Lib.WeightedMean

/-!
# The aggregates are weighted means

In exact arithmetic, what `aggregateData` leaves and `printInfluxFormat` divides.

* `aggregates_tally`: each slot has the sums over the reports with a value, once for each row of
  the table with its symbol.
* `aggregateData_mean`: the quotient is the weighted mean, however often a slot is visited.
-/

namespace AprsWx

open Double Prog WeightedMean

/-! ## Contributions -/

/-- A report with a weight and values that are real numbers. -/
structure AprsWxReport.Real (wx : AprsWxReport ExReal) : Prop where
  mHannValue : ∃ w, wx.mHannValue = some (.fin w)
  mWeatherValue : ∀ i v, wx.mWeatherValue i = some v → ∃ x, v = .fin x

/-- A report whose value in a slot is a real number, as its weight then is. -/
structure AprsWxReport.RealAt (wx : AprsWxReport ExReal) (i : Fin weatherItemCount) : Prop where
  mHannValue : (wx.mWeatherValue i).isSome → ∃ w, wx.mHannValue = some (.fin w)
  mWeatherValue : ∀ v, wx.mWeatherValue i = some v → ∃ x, v = .fin x

theorem AprsWxReport.Real.at {wx : AprsWxReport ExReal} (real : wx.Real)
    (i : Fin weatherItemCount) : wx.RealAt i := ⟨fun _ => real.mHannValue, real.mWeatherValue i⟩

/-- The weight and the value that a report contributes to a slot. -/
def AprsWxReport.contribution (wx : AprsWxReport ExReal) (i : Fin weatherItemCount) :
    Option (ℝ × ℝ) :=
  match wx.mHannValue, wx.mWeatherValue i with
  | some (.fin w), some (.fin x) => some (w, x)
  | _, _ => none

/-- What the reports with a value contribute, each once. -/
def contributions (reports : List (AprsWxReport ExReal)) (i : Fin weatherItemCount) :
    List (ℝ × ℝ) :=
  reports.filterMap fun wx => wx.contribution i

theorem mem_contributions {reports : List (AprsWxReport ExReal)} {i : Fin weatherItemCount}
    {c : ℝ × ℝ} : c ∈ contributions reports i ↔ ∃ wx ∈ reports,
      wx.mHannValue = some (.fin c.1) ∧ wx.mWeatherValue i = some (.fin c.2) := by
  unfold contributions
  rw [List.mem_filterMap]
  refine exists_congr fun wx => and_congr_right fun _ => ?_
  unfold AprsWxReport.contribution
  constructor
  · intro contributed
    split at contributed
    · next w x weight value =>
      cases contributed
      exact ⟨weight, value⟩
    · cases contributed
  · rintro ⟨weight, value⟩
    rw [weight, value]

/-- What a report contributes in the turns of the loop over the table. -/
def AprsWxReport.visits (wx : AprsWxReport ExReal) (items : List WeatherItem)
    (i : Fin weatherItemCount) : List (ℝ × ℝ) :=
  items.flatMap fun item => if item.wxSym.idx = i then (wx.contribution i).toList else []

/-! ## Sums -/

/-- A slot that numbers were added to: the first makes it. -/
def total : List ℝ → Option ExReal
  | [] => none
  | xs => some (.fin xs.sum)

theorem total_concat (xs : List ℝ) (x : ℝ) : total (xs ++ [x]) = some (.fin (xs.sum + x)) := by
  unfold total
  cases xs with
  | nil => simp
  | cons y ys => simp [add_assoc]

/-- The slot has the sums of a list of contributions. -/
structure Sums.Tally (sums : Sums ExReal) (i : Fin weatherItemCount) (cs : List (ℝ × ℝ)) : Prop where
  value : sums.1 i = total (cs.map fun c => c.2 * c.1)
  weight : sums.2 i = total (cs.map Prod.fst)

variable {sums : Sums ExReal} {i : Fin weatherItemCount} {cs : List (ℝ × ℝ)}

theorem addTo_total {slots : Slots ExReal} {xs : List ℝ} (tally : slots i = total xs) (x : ℝ) :
    addTo slots i (.fin x) i = total (xs ++ [x]) := by
  rw [total_concat, addTo, Function.update_self, tally]
  cases xs with
  | nil => simp [total]
  | cons y ys => simp [total]

theorem addTo_other {slots : Slots ExReal} {idx : Fin weatherItemCount} (other : idx ≠ i)
    (x : ExReal) : addTo slots idx x i = slots i := Function.update_of_ne other.symm _ _

/-- A row adds the contribution of a report to its slot, and nothing to the others. -/
theorem Sums.Tally.addItem (tally : sums.Tally i cs) {wx : AprsWxReport ExReal} (real : wx.RealAt i)
    {hann : ExReal} (weight : wx.mHannValue = some hann) (item : WeatherItem) :
    (Sums.addItem wx hann sums item).Tally i (cs ++ wx.visits [item] i) := by
  have visits : wx.visits [item] i =
      if item.wxSym.idx = i then (wx.contribution i).toList else [] := List.append_nil _
  rw [visits]
  unfold Sums.addItem
  by_cases here : item.wxSym.idx = i
  · subst here
    rw [if_pos rfl]
    cases read : wx.mWeatherValue item.wxSym.idx with
    | none =>
      simp only [AprsWxReport.contribution, weight, read, Option.toList_none, List.append_nil]
      exact tally
    | some v =>
      obtain ⟨x, rfl⟩ := real.mWeatherValue v read
      obtain ⟨w, real_weight⟩ := real.mHannValue (by rw [read]; rfl)
      obtain rfl : hann = .fin w := Option.some.inj (weight.symm.trans real_weight)
      simp only [AprsWxReport.contribution, weight, read, Option.toList_some]
      constructor
      · rw [List.map_append]
        exact addTo_total tally.value (x * w)
      · rw [List.map_append]
        exact addTo_total tally.weight w
  · rw [if_neg here, List.append_nil]
    cases wx.mWeatherValue item.wxSym.idx with
    | none => exact tally
    | some v => exact ⟨(addTo_other here _).trans tally.value, (addTo_other here _).trans tally.weight⟩

theorem Sums.Tally.addItems (tally : sums.Tally i cs) {wx : AprsWxReport ExReal} (real : wx.RealAt i)
    {hann : ExReal} (weight : wx.mHannValue = some hann) (items : List WeatherItem) :
    (items.foldl (Sums.addItem wx hann) sums).Tally i (cs ++ wx.visits items i) := by
  induction items generalizing sums cs with
  | nil =>
    rw [AprsWxReport.visits, List.flatMap_nil, List.append_nil]
    exact tally
  | cons item items ih =>
    have rest := ih (tally.addItem real weight item)
    rw [List.append_assoc] at rest
    have visits : wx.visits (item :: items) i = wx.visits [item] i ++ wx.visits items i := by
      simp [AprsWxReport.visits]
    rw [List.foldl_cons, visits]
    exact rest

/-- The slots after all reports. -/
theorem aggregates_tally {reports : List (AprsWxReport ExReal)} (real : ∀ wx ∈ reports, wx.RealAt i) :
    (aggregates reports).Tally i (reports.flatMap fun wx => wx.visits weatherItemList i) := by
  induction reports using List.reverseRecOn with
  | nil => exact ⟨rfl, rfl⟩
  | append_singleton reports wx ih =>
    have before := ih fun wx mem => real wx (List.mem_append_left _ mem)
    have last := real wx (List.mem_append_right _ List.mem_cons_self)
    unfold aggregates at before ⊢
    rw [List.foldl_append, List.flatMap_append, List.flatMap_singleton, List.foldl_cons,
      List.foldl_nil, Sums.addReport]
    cases weight : wx.mHannValue with
    | none =>
      have unweighed : wx.visits weatherItemList i = [] := by
        simp [AprsWxReport.visits, AprsWxReport.contribution, weight]
      rw [unweighed, List.append_nil]
      exact before
    | some hann => exact before.addItems last weight weatherItemList

/-! ## Rows -/

/-- The number of rows with a symbol: two for the luminosity, one for the others. -/
def rows (w : WxSym) : Nat := weatherItemList.countP fun item => item.wxSym = w

theorem rows_ne_zero (w : WxSym) : (rows w : ℝ) ≠ 0 := by
  rw [Nat.cast_ne_zero]
  cases w <;> decide

theorem visits_rows (wx : AprsWxReport ExReal) (w : WxSym) :
    wx.visits weatherItemList w.idx =
      (List.replicate (rows w) (wx.contribution w.idx).toList).flatten := by
  cases w <;> rfl

theorem weight_replicate (n : Nat) (l : List (ℝ × ℝ)) :
    weight (List.replicate n l).flatten = n * weight l ∧
      moment (List.replicate n l).flatten = n * moment l := by
  induction n with
  | zero => simp
  | succ n ih =>
    rw [List.replicate_succ, List.flatten_cons, weight_append, moment_append, ih.1, ih.2]
    push_cast
    constructor <;> ring

/-- The visits of a slot have the sums of the contributions, times the number of rows. -/
theorem sums_visits (reports : List (AprsWxReport ExReal)) (w : WxSym) :
    weight (reports.flatMap fun wx => wx.visits weatherItemList w.idx) =
        rows w * weight (contributions reports w.idx) ∧
      moment (reports.flatMap fun wx => wx.visits weatherItemList w.idx) =
        rows w * moment (contributions reports w.idx) := by
  induction reports with
  | nil => simp [contributions]
  | cons wx reports ih =>
    have split : contributions (wx :: reports) w.idx =
        (wx.contribution w.idx).toList ++ contributions reports w.idx := by
      unfold contributions
      cases read : wx.contribution w.idx with
      | none => simp [read]
      | some c => simp [read]
    obtain ⟨weights, moments⟩ := weight_replicate (rows w) (wx.contribution w.idx).toList
    rw [List.flatMap_cons, visits_rows, split]
    simp only [weight_append, moment_append, weights, moments, ih.1, ih.2, mul_add, and_self]

theorem visits_eq_nil {reports : List (AprsWxReport ExReal)} {w : WxSym} :
    (reports.flatMap fun wx => wx.visits weatherItemList w.idx) = [] ↔
      contributions reports w.idx = [] := by
  have some_row : rows w ≠ 0 := by
    cases w <;> decide
  unfold contributions
  rw [List.flatMap_eq_nil_iff, List.filterMap_eq_nil_iff]
  refine forall₂_congr fun wx _ => ?_
  rw [visits_rows]
  cases wx.contribution w.idx with
  | none => simp
  | some c => simp [some_row]

theorem total_ne_nil {xs : List ℝ} (nonempty : xs ≠ []) : total xs = some (.fin xs.sum) := by
  cases xs with
  | nil => exact absurd rfl nonempty
  | cons x xs => rfl

/-- The sum and the weight of a symbol, where some report has a value. -/
theorem aggregates_mean {reports : List (AprsWxReport ExReal)} {w : WxSym}
    (real : ∀ wx ∈ reports, wx.RealAt w.idx) :
    (contributions reports w.idx = [] →
      (aggregates reports).1 w.idx = none ∧ (aggregates reports).2 w.idx = none) ∧
    (contributions reports w.idx ≠ [] →
      (aggregates reports).1 w.idx =
        some (.fin (rows w * moment (contributions reports w.idx))) ∧
      (aggregates reports).2 w.idx =
        some (.fin (rows w * weight (contributions reports w.idx)))) := by
  have tally := aggregates_tally real
  constructor
  · intro none
    rw [tally.value, tally.weight, visits_eq_nil.mpr none]
    exact ⟨rfl, rfl⟩
  · intro nonempty
    have visited := fun none => nonempty (visits_eq_nil.mp none)
    obtain ⟨weights, moments⟩ := sums_visits reports w
    rw [tally.value, tally.weight, total_ne_nil (mt List.map_eq_nil_iff.mp visited),
      total_ne_nil (mt List.map_eq_nil_iff.mp visited), ← weights, ← moments]
    exact ⟨rfl, rfl⟩

/-! ## The aggregator -/

/-- A store of reports that are not expired, with weights and values that are real numbers. -/
def WeatherAggregator.Young (s : WeatherAggregator ExReal) (now : Int) : Prop :=
  ∀ (name : List Char) (entry : Option (AprsWxReport ExReal)), s.reports[name]? = some entry →
    ∃ wx : AprsWxReport ExReal, entry = some wx ∧ now - wx.mTimePoint ≤ maxAge ∧ wx.Real

theorem WeatherAggregator.Young.weighed {s : WeatherAggregator ExReal} {now : Int}
    (young : s.Young now) : s.Weighed := by
  intro name entry found
  obtain ⟨wx, equal, -, real⟩ := young name entry found
  obtain ⟨w, weight⟩ := real.mHannValue
  exact ⟨wx, equal, by rw [weight]; rfl⟩

/-- Nothing is erased. -/
theorem WeatherAggregator.Young.reports {s : WeatherAggregator ExReal} {now : Int}
    (young : s.Young now) : (s.aggregated now).reports = s.reports := by
  refine Std.ExtTreeMap.ext_getElem? fun name => ?_
  show (s.reports.filter fun _ entry => live now entry)[name]? = _
  rw [Std.ExtTreeMap.getElem?_filter']
  cases found : s.reports[name]? with
  | none => rfl
  | some entry =>
    obtain ⟨wx, rfl, age, -⟩ := young name entry found
    rw [Option.filter_some, if_pos (by simpa [live] using age)]

/-- `printInfluxFormat` prints the quotient of a symbol once: the row of high luminosity is passed
over. -/
theorem printItem_run {t : WeatherAggregator ExReal} {sum weight : ExReal} {item : WeatherItem}
    (value : t.mValueAggregate item.wxSym.idx = some sum)
    (hann : t.mHannAggregate item.wxSym.idx = some weight) (series : String) (out : Gathered ExReal) :
    (printItem t series out item).run t =
      .ok (if item.wxFlag = 'l' then out else
        (out.gather item.wxSym (convertUnits item.units (sum / weight))).print series item.dbName
          (convertUnits item.units (sum / weight))) t := by
  unfold printItem
  by_cases low : item.wxFlag = 'l'
  · simp only [low, ne_eq, not_true_eq_false, if_false, if_true, EStateM.run_pure]
  · simp only [low, ne_eq, not_false_eq_true, if_true, if_false, value, hann, value_some]
    rfl

/-- After `aggregateData` of a store of young reports, the quotient of the sum and the weight of
a symbol is the mean over the reports that have a value, where their weights do not add up to 0.
Where no report has a value, neither is set. With weights that are not negative the quotient
lies between the least and the greatest value. And `printInfluxFormat` prints the quotient, once. -/
theorem aggregateData_mean {s : WeatherAggregator ExReal} {now : Int} (young : s.Young now)
    (w : WxSym) :
    ∃ t, (aggregateData now).run s = .ok ⟨⟩ t ∧ t.reports = s.reports ∧
      (contributions (stored s.reports) w.idx = [] →
        t.mValueAggregate w.idx = none ∧ t.mHannAggregate w.idx = none) ∧
      (contributions (stored s.reports) w.idx ≠ [] →
        ∃ sum weight, t.mValueAggregate w.idx = some sum ∧ t.mHannAggregate w.idx = some weight ∧
          (∀ item ∈ weatherItemList, item.wxSym = w → ∀ series out,
            (printItem t series out item).run t =
              .ok (if item.wxFlag = 'l' then out else
                (out.gather w (convertUnits item.units (sum / weight))).print series item.dbName
                  (convertUnits item.units (sum / weight))) t) ∧
          (WeightedMean.weight (contributions (stored s.reports) w.idx) ≠ 0 →
            sum / weight = .fin (mean (contributions (stored s.reports) w.idx)) ∧
            ((∀ c ∈ contributions (stored s.reports) w.idx, 0 ≤ c.1) →
              (∃ low ∈ contributions (stored s.reports) w.idx,
                (∀ c ∈ contributions (stored s.reports) w.idx, low.2 ≤ c.2) ∧
                low.2 ≤ mean (contributions (stored s.reports) w.idx)) ∧
              ∃ high ∈ contributions (stored s.reports) w.idx,
                (∀ c ∈ contributions (stored s.reports) w.idx, c.2 ≤ high.2) ∧
                mean (contributions (stored s.reports) w.idx) ≤ high.2))) := by
  have real : ∀ wx ∈ stored s.reports, wx.Real := by
    intro wx mem
    obtain ⟨name, found⟩ := mem_stored.mp mem
    obtain ⟨_, equal, -, real⟩ := young name _ found
    obtain rfl := Option.some.inj equal
    exact real
  obtain ⟨empty, nonempty⟩ := aggregates_mean fun wx mem => (real wx mem).at w.idx
  have sums : ((s.aggregated now).mValueAggregate, (s.aggregated now).mHannAggregate) =
      aggregates (stored s.reports) := by
    rw [← young.reports]
    rfl
  rw [← sums] at empty nonempty
  refine ⟨s.aggregated now, aggregateData_run young.weighed now, young.reports, empty, ?_⟩
  intro some
  obtain ⟨value, weight⟩ := nonempty some
  refine ⟨_, _, value, weight, ?_, fun weighty => ⟨?_, fun nonneg => ⟨?_, ?_⟩⟩⟩
  · rintro item - rfl series out
    exact printItem_run value weight series out
  · rw [ExReal.fin_div (mul_ne_zero (rows_ne_zero w) weighty), mean_mul (rows_ne_zero w)]
  · exact exists_le_mean nonneg weighty
  · exact exists_mean_le nonneg weighty

/-- A report with a luminosity. -/
noncomputable def brightReport (name : List Char) (weight luminosity : ℕ) : AprsWxReport ExReal where
  mName := name
  mTimePoint := 0
  mHannValue := some (.fin weight)
  mWeatherValue := Function.update (fun _ => none) WxSym.Luminosity.idx (some (.fin luminosity))

theorem brightReport_real (name : List Char) (weight luminosity : ℕ) :
    (brightReport name weight luminosity).Real := by
  refine ⟨⟨weight, rfl⟩, fun i v read => ?_⟩
  rcases eq_or_ne i WxSym.Luminosity.idx with rfl | other
  · exact ⟨luminosity, (Option.some.inj read).symm⟩
  · simp [brightReport, Function.update_of_ne other] at read

/-- Two stations with a luminosity, one with twice the weight of the other. -/
noncomputable def brightStore : WeatherAggregator ExReal :=
  (({} : WeatherAggregator ExReal).store (brightReport ['V'] 2 100)).store (brightReport ['W'] 1 400)

theorem brightStore_young : brightStore.Young 0 := by
  intro name entry found
  have age : (0 : Int) - 0 ≤ maxAge := by decide
  rw [brightStore, WeatherAggregator.store, Std.ExtTreeMap.getElem?_insert] at found
  split at found
  · exact ⟨_, (Option.some.inj found).symm, age, brightReport_real _ _ _⟩
  · rw [WeatherAggregator.store, Std.ExtTreeMap.getElem?_insert] at found
    split at found
    · exact ⟨_, (Option.some.inj found).symm, age, brightReport_real _ _ _⟩
    · simp at found

theorem aggregateData_mean_brightStore :
    ∃ t sum weight, (aggregateData 0).run brightStore = .ok ⟨⟩ t ∧
      t.mValueAggregate WxSym.Luminosity.idx = some sum ∧
      t.mHannAggregate WxSym.Luminosity.idx = some weight ∧ sum / weight = ExReal.fin 200 := by
  have both : contributions (stored brightStore.reports) WxSym.Luminosity.idx =
      [(((2 : ℕ) : ℝ), ((100 : ℕ) : ℝ)), (((1 : ℕ) : ℝ), ((400 : ℕ) : ℝ))] := rfl
  obtain ⟨t, run, -, -, some⟩ := aggregateData_mean brightStore_young .Luminosity
  obtain ⟨sum, weight, value, hann, -, quotient⟩ := some (by rw [both]; exact List.cons_ne_nil _ _)
  refine ⟨t, sum, weight, run, value, hann, ?_⟩
  rw [(quotient (by rw [both]; norm_num)).1, both]
  norm_num [mean]

end AprsWx
