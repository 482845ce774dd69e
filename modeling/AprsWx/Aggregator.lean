import AprsWx.Packet

/-!
# The weather aggregator

The class `WeatherAggregator`: the last report of each station, and for each weather value
the sum over the reports, weighted by their Hann values, with the sum of the weights.

* `aggregateData_run`: `aggregateData` forgets the reports that are too old and aggregates
  the others.
* `aggregates_setAt`: which aggregates are set.
* `printInfluxFormat_run`: where sums and weights are set together, a body is printed.
-/

namespace AprsWx

open Double Prog

variable {F : Type}

/-! ## The class -/

/-- The map that a `WeatherAggregator` is, ordered by name. A report is behind a pointer. -/
abbrev Reports (F : Type) : Type := Std.ExtTreeMap (List Char) (Option (AprsWxReport F))

/-- `WeatherAggregator`. -/
structure WeatherAggregator (F : Type) where
  reports : Reports F := ∅
  mValueAggregate : Slots F := fun _ => none
  mHannAggregate : Slots F := fun _ => none

abbrev Aggregating (F α : Type) : Type := EStateM Stop (WeatherAggregator F) α

/-- The sums and the weights. -/
abbrev Sums (F : Type) : Type := Slots F × Slots F

def WeatherAggregator.sums (s : WeatherAggregator F) : Sums F :=
  (s.mValueAggregate, s.mHannAggregate)

def WeatherAggregator.withSums (s : WeatherAggregator F) (sums : Sums F) : WeatherAggregator F :=
  { s with mValueAggregate := sums.1, mHannAggregate := sums.2 }

/-- `weatherAggregator[wx->mName] = std::move(wx)`. -/
def WeatherAggregator.store (s : WeatherAggregator F) (wx : AprsWxReport F) : WeatherAggregator F :=
  { s with reports := s.reports.insert wx.mName (some wx) }

/-! ## clearAggregateData -/

/-- 90 minutes, in nanoseconds. -/
def maxAge : Int := 5400 * 10 ^ 9

/-- The loop over the entries of the map. -/
def eraseExpired (now : Int) : List (List Char × Option (AprsWxReport F)) → Aggregating F PUnit
  | [] => pure ()
  | (_, none) :: _ => throw .undefined
  | (name, some report) :: entries => do
    if maxAge < now - report.mTimePoint then
      modify fun s => { s with reports := s.reports.erase name }
    eraseExpired now entries

def clearAggregateData (now : Int) : Aggregating F PUnit := do
  modify fun s => { s with mValueAggregate := fun _ => none, mHannAggregate := fun _ => none }
  let s ← get
  eraseExpired now s.reports.toList

/-! ## aggregateData -/

section Aggregate

variable [CDouble F]

/-- The loop's body: the value of an item is added to the aggregate, or makes a new one. -/
def aggregateItem (report : AprsWxReport F) (hann : F) (item : WeatherItem) :
    Aggregating F PUnit := do
  let idx := item.wxSym.idx
  match report.mWeatherValue idx with
  | none => pure ()
  | some number =>
    let s ← get
    -- the sum alone is tested, for the weight too
    if (s.mValueAggregate idx).isSome then
      let sum ← value .aggregateData (s.mValueAggregate idx)
      modify fun s => { s with
        mValueAggregate := Function.update s.mValueAggregate idx (some (sum + number * hann)) }
      let weight ← value .aggregateData (s.mHannAggregate idx)
      modify fun s => { s with
        mHannAggregate := Function.update s.mHannAggregate idx (some (weight + hann)) }
    else
      modify fun s => { s with
        mValueAggregate := Function.update s.mValueAggregate idx (some (number * hann)) }
      modify fun s => { s with
        mHannAggregate := Function.update s.mHannAggregate idx (some hann) }

def aggregateItems (report : AprsWxReport F) (hann : F) : List WeatherItem → Aggregating F PUnit
  | [] => pure ()
  | item :: items => do
    aggregateItem report hann item
    aggregateItems report hann items

def aggregateReports : List (List Char × Option (AprsWxReport F)) → Aggregating F PUnit
  | [] => pure ()
  | (_, none) :: _ => throw .undefined
  | (_, some report) :: entries => do
    let hann ← value .aggregateData report.mHannValue
    aggregateItems report hann weatherItemList
    aggregateReports entries

/-- `aggregateData`, where `now` is the clock's reading in `clearAggregateData`. -/
def aggregateData (now : Int) : Aggregating F PUnit := do
  clearAggregateData now
  let s ← get
  aggregateReports s.reports.toList

end Aggregate

/-! ## printInfluxFormat -/

/-- A line of the body, which reads `series name=value`. -/
structure InfluxLine (F : Type) where
  series : String
  name : String
  number : F

/-- The local variables of `printInfluxFormat`, with the lines printed. -/
structure Gathered (F : Type) where
  temperature : Option F := none
  relHumidity : Option F := none
  windGust : Option F := none
  lines : List (InfluxLine F) := []

section Print

variable [CDouble F]

def fahrenheitToCelsius (fahrenheit : F) : F := (fahrenheit - ofRat 32) * (ofRat 5 / ofRat 9)

/-- The value in the units of the database; rain below 0.01 is none. -/
def convertUnits (units : Units) (number : F) : F :=
  let number :=
    if units = .inch_100 then if CDouble.lt number (ofRat (1 / 100)) then ofRat 0 else number
    else number
  if units = .Fahrenheit then fahrenheitToCelsius number
  else if units = .inch_100 then number * ofRat (254 / 10)
  else if units = .MPH then number * ofRat (160934 / 100000)
  else number

/-- The value is kept where a later line needs it. -/
def Gathered.gather (out : Gathered F) (wxSym : WxSym) (number : F) : Gathered F :=
  if wxSym = .Temperature then { out with temperature := some number }
  else if wxSym = .Humidity then { out with relHumidity := some number }
  else if wxSym = .WindGust then { out with windGust := some number }
  else out

def Gathered.print (out : Gathered F) (series name : String) (number : F) : Gathered F :=
  { out with lines := out.lines ++ [⟨series, name, number⟩] }

/-- The loop's body. The row of high luminosity has the value of the other one. -/
def printItem (s : WeatherAggregator F) (series : String) (out : Gathered F) (item : WeatherItem) :
    Aggregating F (Gathered F) := do
  if item.wxFlag ≠ 'l' then
    let idx := item.wxSym.idx
    match s.mValueAggregate idx with
    | none => return out
    | some sum =>
      let number := convertUnits item.units (sum / (← value .printInfluxFormat (s.mHannAggregate idx)))
      return (out.gather item.wxSym number).print series item.dbName number
  else
    return out

def printItems (s : WeatherAggregator F) (series : String) :
    Gathered F → List WeatherItem → Aggregating F (Gathered F)
  | out, [] => pure out
  | out, item :: items => do
    printItems s series (← printItem s series out item) items

def dewPoint (celsius relHumidity : F) : F := celsius - (ofRat 100 - relHumidity) / ofRat 5

def humidex (celsius dewPoint : F) : F :=
  let e := ofRat (611 / 100) * CDouble.exp (ofRat (5417753 / 1000) *
    (ofRat 1 / ofRat (27316 / 100) - ofRat 1 / (dewPoint + ofRat (27315 / 100))))
  let h := ofRat (5555 / 10000) * (e - ofRat 10)
  celsius + h

def windChill (celsius velocity : F) : F :=
  ofRat (1312 / 100) + ofRat (6215 / 10000) * celsius -
    ofRat (1137 / 100) * CDouble.pow velocity (ofRat (16 / 100)) +
    ofRat (3965 / 10000) * celsius * CDouble.pow velocity (ofRat (16 / 100))

/-- The dew point and the humidex, of a temperature and a humidity. -/
def printHumidity (series : String) (out : Gathered F) : Gathered F :=
  match out.temperature, out.relHumidity with
  | some celsius, some relHumidity =>
    let dewPoint := dewPoint celsius relHumidity
    (out.print series "DewPt" dewPoint).print series "Humidex" (humidex celsius dewPoint)
  | _, _ => out

/-- The wind chill, of a temperature and a gust. -/
def printWindChill (series : String) (out : Gathered F) : Gathered F :=
  match out.temperature, out.windGust with
  | some celsius, some velocity => out.print series "WindChill" (windChill celsius velocity)
  | _, _ => out

/-- `printInfluxFormat`: the lines of the body, each of which starts with `series`. -/
def printInfluxFormat (series : String) : Aggregating F (List (InfluxLine F)) := do
  let out ← printItems (← get) series {} weatherItemList
  return (printWindChill series (printHumidity series out)).lines

end Print

/-! ## What the aggregator keeps -/

/-- The reports behind the entries of a map. -/
def stored (reports : Reports F) : List (AprsWxReport F) := reports.toList.filterMap Prod.snd

/-- The entry of a name is a weather report of that name that can be aggregated: its place is
known, it has a weight, and its values are those of weather symbols. -/
structure AprsWxReport.Located (name : List Char) (report : AprsWxReport F) : Prop where
  mName : report.mName = name
  mLat : report.mLat.isSome
  mLon : report.mLon.isSome
  mDistance : report.mDistance.isSome
  mHannValue : report.mHannValue.isSome
  wxSym : ∀ i, (report.mWeatherValue i).isSome → ∃ w : WxSym, w.idx = i

/-- Every entry is a located report. -/
def WeatherAggregator.Filled (s : WeatherAggregator F) : Prop :=
  ∀ name entry, s.reports[name]? = some entry →
    ∃ report : AprsWxReport F, entry = some report ∧ report.Located name

/-- Every entry is a report with a weight. -/
def WeatherAggregator.Weighed (s : WeatherAggregator F) : Prop :=
  ∀ (name : List Char) (entry : Option (AprsWxReport F)), s.reports[name]? = some entry →
    ∃ report : AprsWxReport F, entry = some report ∧ report.mHannValue.isSome

theorem WeatherAggregator.Filled.weighed {s : WeatherAggregator F} (filled : s.Filled) :
    s.Weighed := by
  intro name entry found
  obtain ⟨report, equal, located⟩ := filled name entry found
  exact ⟨report, equal, located.mHannValue⟩

theorem filled_empty : ({} : WeatherAggregator F).Filled := by
  intro name entry found
  simp at found

theorem WeatherAggregator.Filled.store {s : WeatherAggregator F} (filled : s.Filled)
    {wx : AprsWxReport F} (located : wx.Located wx.mName) : (s.store wx).Filled := by
  intro name entry found
  rw [WeatherAggregator.store, Std.ExtTreeMap.getElem?_insert] at found
  split at found
  · next same =>
    rw [Std.LawfulEqCmp.compare_eq_iff_eq] at same
    subst same
    exact ⟨wx, (Option.some.inj found).symm, located⟩
  · exact filled name entry found

theorem mem_stored {s : WeatherAggregator F} {report : AprsWxReport F} :
    report ∈ stored s.reports ↔ ∃ name : List Char, s.reports[name]? = some (some report) := by
  unfold stored
  rw [List.mem_filterMap]
  constructor
  · rintro ⟨⟨name, entry⟩, mem, rfl⟩
    exact ⟨name, Std.ExtTreeMap.mem_toList_iff_getElem?_eq_some.mp mem⟩
  · rintro ⟨name, found⟩
    exact ⟨(name, some report), Std.ExtTreeMap.mem_toList_iff_getElem?_eq_some.mpr found, rfl⟩

theorem WeatherAggregator.Filled.located {s : WeatherAggregator F} (filled : s.Filled) :
    ∀ report ∈ stored s.reports, ∃ name, report.Located name := by
  intro report mem
  obtain ⟨name, found⟩ := mem_stored.mp mem
  obtain ⟨_, equal, located⟩ := filled name _ found
  obtain rfl := Option.some.inj equal
  exact ⟨name, located⟩

/-! ### The reports -/

/-- An entry that `clearAggregateData` keeps. -/
def live (now : Int) : Option (AprsWxReport F) → Bool
  | some report => now - report.mTimePoint ≤ maxAge
  | none => true

/-- The map without the entries of a list. -/
def eraseAll (reports : Reports F) (entries : List (List Char × Option (AprsWxReport F))) :
    Reports F :=
  entries.foldl (fun reports entry => reports.erase entry.1) reports

theorem getElem?_eraseAll (reports : Reports F)
    (entries : List (List Char × Option (AprsWxReport F))) (name : List Char) :
    (eraseAll reports entries)[name]? =
      if name ∈ entries.map Prod.fst then none else reports[name]? := by
  induction entries generalizing reports with
  | nil => rfl
  | cons entry entries ih =>
    unfold eraseAll at ih ⊢
    rw [List.foldl_cons, ih, Std.ExtTreeMap.getElem?_erase]
    simp only [List.map_cons, List.mem_cons, Std.LawfulEqCmp.compare_eq_iff_eq]
    by_cases later : name ∈ entries.map Prod.fst
    · rw [if_pos later, if_pos (.inr later)]
    · simp only [later, if_false, or_false, eq_comm (a := entry.1)]

/-- Erasing the entries that are not live keeps those that are. -/
theorem eraseAll_expired (now : Int) (reports : Reports F) :
    eraseAll reports (reports.toList.filter fun entry => !live now entry.2) =
      reports.filter fun _ entry => live now entry := by
  refine Std.ExtTreeMap.ext_getElem? fun name => ?_
  rw [getElem?_eraseAll, Std.ExtTreeMap.getElem?_filter']
  have expired : name ∈ (reports.toList.filter fun entry => !live now entry.2).map Prod.fst ↔
      ∃ entry, reports[name]? = some entry ∧ live now entry = false := by
    simp [Std.ExtTreeMap.mem_toList_iff_getElem?_eq_some]
  cases found : reports[name]? with
  | none =>
    simp
  | some entry =>
    rw [found] at expired
    simp only [expired, Option.some.injEq, exists_eq_left', Option.filter_some]
    cases live now entry <;> simp

/-- The loop erases the entries that are not live, where none is null. -/
theorem eraseExpired_run (now : Int) (entries : List (List Char × Option (AprsWxReport F)))
    (present : ∀ entry ∈ entries, entry.2.isSome) (s : WeatherAggregator F) :
    (eraseExpired now entries).run s = .ok ⟨⟩
      { s with reports := eraseAll s.reports (entries.filter fun entry => !live now entry.2) } := by
  induction entries generalizing s with
  | nil => rfl
  | cons entry entries ih =>
    obtain ⟨name, entry⟩ := entry
    have rest := fun s => ih (fun entry mem => present entry (List.mem_cons_of_mem _ mem)) s
    cases entry with
    | none => exact absurd (present _ List.mem_cons_self) (by simp)
    | some report =>
      unfold eraseExpired
      by_cases expired : maxAge < now - report.mTimePoint
      · have dead : (!live now (some report)) = true := by
          simpa only [live, Bool.not_eq_true', decide_eq_false_iff_not, not_le] using expired
        rw [if_pos expired, EStateM.run_bind, EStateM.run_modify]
        simp only [rest, List.filter_cons, dead, if_true]
        rfl
      · have kept : ¬ (!live now (some report)) = true := by
          simpa only [live, Bool.not_eq_true', decide_eq_false_iff_not, not_le] using expired
        rw [if_neg expired, List.filter_cons, if_neg kept]
        exact rest s

/-! ### The sums -/

section Sums

variable [CDouble F]

/-- `x` added to the sum at `idx`, or the first sum there. -/
def addTo (slots : Slots F) (idx : Fin weatherItemCount) (x : F) : Slots F :=
  Function.update slots idx (some (match slots idx with
    | some sum => sum + x
    | none => x))

/-- The sums with the value of an item of a report. -/
def Sums.addItem (report : AprsWxReport F) (hann : F) (sums : Sums F) (item : WeatherItem) :
    Sums F :=
  match report.mWeatherValue item.wxSym.idx with
  | some number => (addTo sums.1 item.wxSym.idx (number * hann), addTo sums.2 item.wxSym.idx hann)
  | none => sums

/-- The sums with the values of a report, which the table may name twice. -/
def Sums.addReport (sums : Sums F) (report : AprsWxReport F) : Sums F :=
  match report.mHannValue with
  | some hann => weatherItemList.foldl (Sums.addItem report hann) sums
  | none => sums

/-- The sums over a list of reports. -/
def aggregates (reports : List (AprsWxReport F)) : Sums F :=
  reports.foldl Sums.addReport (fun _ => none, fun _ => none)

/-- A sum is set at the same places as its weight: where `P` holds. -/
def Sums.SetAt (P : Fin weatherItemCount → Prop) (sums : Sums F) : Prop :=
  ∀ i, ((sums.1 i).isSome ↔ P i) ∧ ((sums.2 i).isSome ↔ P i)

variable {P : Fin weatherItemCount → Prop} {sums : Sums F}

theorem addTo_isSome {slots : Slots F} {idx i : Fin weatherItemCount} {x : F} :
    (addTo slots idx x i).isSome ↔ (slots i).isSome ∨ idx = i := by
  unfold addTo
  rcases eq_or_ne i idx with rfl | other
  · simp
  · simp [Function.update_of_ne other, other.symm]

theorem Sums.SetAt.addItem (set : sums.SetAt P) (report : AprsWxReport F) (hann : F)
    (item : WeatherItem) :
    (Sums.addItem report hann sums item).SetAt
      fun i => P i ∨ (report.mWeatherValue i).isSome ∧ item.wxSym.idx = i := by
  intro i
  unfold Sums.addItem
  cases read : report.mWeatherValue item.wxSym.idx with
  | none =>
    have other : ¬ ((report.mWeatherValue i).isSome ∧ item.wxSym.idx = i) := by
      rintro ⟨some, rfl⟩
      rw [read] at some
      cases some
    simpa only [other, or_false] using set i
  | some number =>
    have here : (report.mWeatherValue i).isSome ∧ item.wxSym.idx = i ↔ item.wxSym.idx = i := by
      refine ⟨And.right, fun same => ⟨?_, same⟩⟩
      rw [← same, read]
      rfl
    simp only [addTo_isSome, here, (set i).1, (set i).2, and_self]

theorem Sums.SetAt.addItems (report : AprsWxReport F) (hann : F) (items : List WeatherItem)
    (set : sums.SetAt P) :
    (items.foldl (Sums.addItem report hann) sums).SetAt
      fun i => P i ∨ (report.mWeatherValue i).isSome ∧ ∃ item ∈ items, item.wxSym.idx = i := by
  induction items generalizing sums P with
  | nil => simpa using set
  | cons item items ih =>
    intro i
    have rest := ih (set.addItem report hann item) i
    rw [List.foldl_cons]
    simp only [List.mem_cons, exists_eq_or_imp]
    simpa only [or_assoc, ← and_or_left] using rest

/-- Every weather symbol has a row in the table. -/
theorem exists_item (w : WxSym) : ∃ item ∈ weatherItemList, item.wxSym = w := by
  cases w <;> decide

/-- A report sets what its values are. -/
theorem Sums.SetAt.addReport (set : sums.SetAt P) {name : List Char} {report : AprsWxReport F}
    (located : report.Located name) :
    (sums.addReport report).SetAt fun i => P i ∨ (report.mWeatherValue i).isSome := by
  obtain ⟨hann, weight⟩ := Option.isSome_iff_exists.mp located.mHannValue
  intro i
  have added := set.addItems report hann weatherItemList i
  have row : (report.mWeatherValue i).isSome ∧ (∃ item ∈ weatherItemList, item.wxSym.idx = i) ↔
      (report.mWeatherValue i).isSome := by
    refine ⟨And.left, fun some => ⟨some, ?_⟩⟩
    obtain ⟨w, rfl⟩ := located.wxSym i some
    obtain ⟨item, mem, rfl⟩ := exists_item w
    exact ⟨item, mem, rfl⟩
  unfold Sums.addReport
  rw [weight]
  simpa only [row] using added

/-- The aggregates of a value are set exactly when some report has it. -/
theorem aggregates_setAt (reports : List (AprsWxReport F))
    (located : ∀ report ∈ reports, ∃ name, report.Located name) :
    (aggregates reports).SetAt fun i => ∃ report ∈ reports, (report.mWeatherValue i).isSome := by
  induction reports using List.reverseRecOn with
  | nil =>
    intro i
    simp [aggregates]
  | append_singleton reports report ih =>
    have before := ih fun report mem => located report (List.mem_append_left _ mem)
    obtain ⟨name, last⟩ := located report (List.mem_append_right _ List.mem_cons_self)
    have added := before.addReport last
    unfold aggregates at added ⊢
    rw [List.foldl_append]
    intro i
    simpa [or_and_right, exists_or] using added i

/-- A report without a value changes no sum. -/
theorem Sums.addReport_of_empty (sums : Sums F) {report : AprsWxReport F}
    (empty : ∀ i, report.mWeatherValue i = none) : sums.addReport report = sums := by
  unfold Sums.addReport
  cases report.mHannValue with
  | none => rfl
  | some hann =>
    have skip : ∀ items : List WeatherItem, items.foldl (Sums.addItem report hann) sums = sums := by
      intro items
      induction items with
      | nil => rfl
      | cons item items ih =>
        rw [List.foldl_cons, Sums.addItem, empty]
        exact ih
    exact skip weatherItemList

end Sums

/-! ## What the functions do -/

section Runs

variable [CDouble F] {P : Fin weatherItemCount → Prop}

theorem aggregateItem_run (report : AprsWxReport F) (hann : F) (item : WeatherItem)
    {s : WeatherAggregator F} (set : s.sums.SetAt P) :
    (aggregateItem report hann item).run s =
      .ok ⟨⟩ (s.withSums (Sums.addItem report hann s.sums item)) := by
  unfold aggregateItem Sums.addItem
  dsimp only
  cases report.mWeatherValue item.wxSym.idx with
  | none => rfl
  | some number =>
    obtain ⟨sum, weight⟩ := set item.wxSym.idx
    change (s.mValueAggregate _).isSome ↔ _ at sum
    change (s.mHannAggregate _).isSome ↔ _ at weight
    cases first : s.mValueAggregate item.wxSym.idx with
    | none =>
      rw [first] at sum
      have unset : s.mHannAggregate item.wxSym.idx = none := by
        rw [← Option.not_isSome_iff_eq_none, weight, ← sum]
        simp
      simp [EStateM.run_bind, first, unset, WeatherAggregator.withSums, WeatherAggregator.sums, addTo]
    | some total =>
      rw [first] at sum
      obtain ⟨totalWeight, both⟩ := Option.isSome_iff_exists.mp (weight.mpr (sum.mp rfl))
      simp [EStateM.run_bind, first, both, WeatherAggregator.withSums, WeatherAggregator.sums, addTo]

theorem aggregateItems_run (report : AprsWxReport F) (hann : F) (items : List WeatherItem)
    {s : WeatherAggregator F} (set : s.sums.SetAt P) :
    (aggregateItems report hann items).run s =
      .ok ⟨⟩ (s.withSums (items.foldl (Sums.addItem report hann) s.sums)) := by
  induction items generalizing s P with
  | nil => rfl
  | cons item items ih =>
    unfold aggregateItems
    rw [EStateM.run_bind, aggregateItem_run report hann item set]
    exact ih (set.addItem report hann item)

/-- The loop adds the reports in the order of the map. -/
theorem aggregateReports_run (entries : List (List Char × Option (AprsWxReport F)))
    (weighed : ∀ entry ∈ entries, ∃ report : AprsWxReport F, entry.2 = some report ∧
      report.mHannValue.isSome)
    {s : WeatherAggregator F} (set : s.sums.SetAt P) :
    (aggregateReports entries).run s =
      .ok ⟨⟩ (s.withSums ((entries.filterMap Prod.snd).foldl Sums.addReport s.sums)) := by
  induction entries generalizing s P with
  | nil => rfl
  | cons entry entries ih =>
    obtain ⟨name, entry⟩ := entry
    obtain ⟨report, rfl, here⟩ := weighed (name, entry) List.mem_cons_self
    obtain ⟨hann, weight⟩ := Option.isSome_iff_exists.mp here
    unfold aggregateReports
    rw [EStateM.run_bind, weight, value_some, EStateM.run_pure]
    simp only
    rw [EStateM.run_bind, aggregateItems_run report hann weatherItemList set]
    have sums : s.sums.addReport report =
        weatherItemList.foldl (Sums.addItem report hann) s.sums := by
      unfold Sums.addReport
      rw [weight]
    have set' := set.addItems report hann weatherItemList
    rw [← sums] at set' ⊢
    exact ih (fun entry mem => weighed entry (List.mem_cons_of_mem _ mem)) set'

/-- The aggregator after `aggregateData` at `now`. -/
def WeatherAggregator.aggregated (s : WeatherAggregator F) (now : Int) : WeatherAggregator F :=
  let reports := s.reports.filter fun _ entry => live now entry
  { reports := reports
    mValueAggregate := (aggregates (stored reports)).1
    mHannAggregate := (aggregates (stored reports)).2 }

theorem WeatherAggregator.Filled.aggregated {s : WeatherAggregator F} (filled : s.Filled)
    (now : Int) : (s.aggregated now).Filled := by
  intro name entry found
  change (s.reports.filter fun _ entry => live now entry)[name]? = some entry at found
  rw [Std.ExtTreeMap.getElem?_filter'] at found
  exact filled name entry (Option.filter_eq_some_iff.mp found).1

/-- `aggregateData` keeps the reports that are at most 90 minutes old and aggregates them. -/
theorem aggregateData_run {s : WeatherAggregator F} (weighed : s.Weighed) (now : Int) :
    (aggregateData now).run s = .ok ⟨⟩ (s.aggregated now) := by
  have present : ∀ entry ∈ s.reports.toList, entry.2.isSome := by
    rintro ⟨name, entry⟩ mem
    obtain ⟨report, rfl, -⟩ :=
      weighed name entry (Std.ExtTreeMap.mem_toList_iff_getElem?_eq_some.mp mem)
    rfl
  have weights : ∀ entry ∈ (s.aggregated now).reports.toList,
      ∃ report : AprsWxReport F, entry.2 = some report ∧ report.mHannValue.isSome := by
    rintro ⟨name, entry⟩ mem
    have found := Std.ExtTreeMap.mem_toList_iff_getElem?_eq_some.mp mem
    change (s.reports.filter fun _ entry => live now entry)[name]? = some entry at found
    rw [Std.ExtTreeMap.getElem?_filter'] at found
    exact weighed name entry (Option.filter_eq_some_iff.mp found).1
  have cleared : (clearAggregateData now).run s = .ok ⟨⟩
      { reports := (s.aggregated now).reports } := by
    unfold clearAggregateData
    rw [EStateM.run_bind, EStateM.run_modify]
    simp only
    rw [EStateM.run_bind, EStateM.run_get]
    simp only
    rw [eraseExpired_run now _ present, eraseAll_expired]
    rfl
  unfold aggregateData
  rw [EStateM.run_bind, cleared]
  simp only
  rw [EStateM.run_bind, EStateM.run_get]
  simp only
  have none : ({ reports := (s.aggregated now).reports } : WeatherAggregator F).sums.SetAt
      fun _ => False := fun i => by simp [WeatherAggregator.sums]
  rw [aggregateReports_run _ weights none]
  rfl

/-- Printing changes nothing, and it stops only where a sum is set without its weight. -/
theorem printItem_ends (s t : WeatherAggregator F) (series : String) (out : Gathered F)
    (item : WeatherItem) :
    Ends (printItem s series out item) t (fun _ u => u = t)
      (fun _ u => u = t ∧ ∃ i, (s.sums.1 i).isSome ∧ ¬ (s.sums.2 i).isSome) := by
  unfold printItem
  split
  · dsimp only
    cases sum : s.mValueAggregate item.wxSym.idx with
    | none => exact rfl
    | some total =>
      cases weight : s.mHannAggregate item.wxSym.idx with
      | none =>
        refine ⟨rfl, item.wxSym.idx, ?_, ?_⟩
        · exact Option.isSome_iff_exists.mpr ⟨total, sum⟩
        · exact Option.not_isSome_iff_eq_none.mpr weight
      | some weight => exact rfl
  · exact rfl

theorem printItems_ends (s t : WeatherAggregator F) (series : String) (out : Gathered F)
    (items : List WeatherItem) :
    Ends (printItems s series out items) t (fun _ u => u = t)
      (fun _ u => u = t ∧ ∃ i, (s.sums.1 i).isSome ∧ ¬ (s.sums.2 i).isSome) := by
  induction items generalizing out with
  | nil => exact rfl
  | cons item items ih =>
    unfold printItems
    refine (printItem_ends s t series out item).bind ?_
    rintro next u rfl
    exact ih next

theorem printInfluxFormat_ends (s : WeatherAggregator F) (series : String) :
    Ends (printInfluxFormat series) s (fun _ u => u = s)
      (fun _ u => u = s ∧ ∃ i, (s.sums.1 i).isSome ∧ ¬ (s.sums.2 i).isSome) := by
  unfold printInfluxFormat
  rw [ends_bind, ends_get]
  exact (printItems_ends s s series {} weatherItemList).bind fun _ _ same => same

/-- Where sums and weights are set together, a body is printed. -/
theorem printInfluxFormat_run {s : WeatherAggregator F} (set : s.sums.SetAt P) (series : String) :
    ∃ body, (printInfluxFormat series).run s = .ok body s := by
  have ended := printInfluxFormat_ends s series
  unfold Ends at ended
  cases run : (printInfluxFormat series).run s with
  | ok body t =>
    rw [run] at ended
    obtain rfl : t = s := ended
    exact ⟨body, rfl⟩
  | error e t =>
    rw [run] at ended
    obtain ⟨-, i, sum, weight⟩ := ended
    exact absurd ((set i).2.mpr ((set i).1.mp sum)) weight

end Runs

end AprsWx
