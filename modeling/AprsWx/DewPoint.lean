import AprsWx.Bodies
import AprsWx.Divisors
import AprsWx.Fields
import AprsWx.FirstReport
import AprsWx.Mean

/-!
# The dew point

What a dew point can be, in exact arithmetic: the bounds of the temperature and of the humidity
come from the width of their fields, and the mean keeps them.

* `IsHeard.number_bounds`: the values that a report can have.
* `Aggregation.mean_bounds`: the quotient that is printed is within the same bounds.
* `main_dewPoint`: in every run, the dew point is above the absolute zero and below the temperature.
-/

namespace AprsWx

open Double Numeral Prog SineWindow WeightedMean

/-! ## Values -/

section Values

variable {F : Type} [CDouble F]

/-- A field of the wind, or of a flag of the table. -/
def WeatherField.Listed (f : WeatherField) : Prop :=
  f.wxSym = .WindDirection ∨ f.wxSym = .WindSpeed ∨
    ∃ item ∈ weatherItemList, item.wxFlag = f.flag ∧ item.wxSym = f.wxSym ∧ item.factor = f.factor

theorem loopFields_listed (text : List Char) : ∀ f ∈ loopFields text, f.Listed := by
  induction text using loopFields.induct with
  | case1 =>
    rw [loopFields]
    exact List.forall_mem_nil _
  | case2 flag text unknown =>
    rw [loopFields_none unknown]
    exact List.forall_mem_nil _
  | case3 flag text item found ih =>
    rw [loopFields_some found]
    have same := List.find?_some found
    refine List.forall_mem_cons.mpr ⟨.inr (.inr ⟨item, ?_, of_decide_eq_true same, rfl, rfl⟩), ih⟩
    exact List.mem_of_find?_eq_some found

theorem readFields_listed (packet : List Char) : ∀ f ∈ readFields packet, f.Listed := by
  unfold readFields
  dsimp only
  split
  · refine List.forall_mem_cons.mpr ⟨.inl rfl, List.forall_mem_cons.mpr ⟨.inr (.inl rfl), ?_⟩⟩
    exact loopFields_listed _
  · exact List.forall_mem_nil _

/-- A value that is stored is that of one of the fields. -/
theorem storeAll_value (fields : List WeatherField) (wxReport : AprsWxReport F)
    {i : Fin weatherItemCount} {v : F}
    (stored : (WeatherField.storeAll fields wxReport).mWeatherValue i = some v) :
    wxReport.mWeatherValue i = some v ∨ ∃ f ∈ fields, f.wxSym.idx = i ∧
      ∃ number, numberIn f.text (ofRat f.factor) = some number ∧
        v = if f.flag = 'l' then number + ofRat 1000 else number := by
  induction fields generalizing wxReport with
  | nil => exact .inl stored
  | cons f fields ih =>
    rcases ih (f.store wxReport) stored with before | ⟨f', mem, read⟩
    · cases read : (numberIn f.text (ofRat f.factor) : Option F) with
      | none =>
        rw [f.store_of_none read] at before
        exact .inl before
      | some number =>
        rcases eq_or_ne i f.wxSym.idx with rfl | other
        · rw [f.store_of_some wxReport read] at before
          exact .inr ⟨f, List.mem_cons_self, rfl, number, read, (Option.some.inj before).symm⟩
        · unfold WeatherField.store at before
          rw [storeWeatherValue_other _ (.inr other)] at before
          exact .inl before
    · exact .inr ⟨f', List.mem_cons_of_mem _ mem, read⟩

end Values

/-- A number that is read with the factor 1 is the one that the characters spell. -/
theorem numberIn_number {text : List Char} {x : ℝ}
    (read : numberIn text (ofRat 1) = some (ExReal.fin x)) :
    IsFloating text ∧ ∃ q, (strtod text).1.number = some q ∧ x = q := by
  have floating : IsFloating text :=
    isNumeral_iff.mp (numberIn_isSome.mp (Option.isSome_iff_exists.mpr ⟨_, read⟩))
  obtain ⟨nonempty, whole⟩ := strtod_takes_iff.mpr floating
  rw [numberIn_of_strtod nonempty floating.nul_notMem (Prod.mk.eta (p := strtod text)).symm,
    if_neg (Nat.not_lt.mpr whole)] at read
  have quotient := Option.some.inj read
  obtain ⟨y, literal⟩ := ExReal.fin_of_div quotient
  obtain ⟨q, number, rfl⟩ := ExReal.fin_of_ofLiteral literal
  refine ⟨floating, q, number, ?_⟩
  rw [literal, ExReal.ofRat_eq, ExReal.fin_div (by norm_num)] at quotient
  rw [← ExReal.fin.inj quotient]
  norm_num

/-- The rows of the temperature and of the humidity: nothing is added, and the factor is 1. -/
theorem plain_row {f : WeatherField} (listed : f.Listed)
    (plain : f.wxSym = .Temperature ∨ f.wxSym = .Humidity) : f.flag ≠ 'l' ∧ f.factor = 1 := by
  have rows : ∀ item ∈ weatherItemList, item.wxSym = .Temperature ∨ item.wxSym = .Humidity →
      item.wxFlag ≠ 'l' ∧ item.factor = 1 := by decide
  rcases listed with wind | wind | ⟨item, mem, flag, symbol, factor⟩
  · rw [wind] at plain
    rcases plain with same | same <;> cases same
  · rw [wind] at plain
    rcases plain with same | same <;> cases same
  · rw [← flag, ← factor]
    exact rows item mem (symbol ▸ plain)

section Heard

variable {config : Config ExReal} {wx : AprsWxReport ExReal}

/-- A temperature has three characters and a humidity two: a number in three is at least -99,
and one in two at most 99. -/
theorem IsHeard.number_bounds (heard : IsHeard config wx) {w : WxSym}
    (plain : w = .Temperature ∨ w = .Humidity) {x : ℝ}
    (value : wx.mWeatherValue w.idx = some (.fin x)) :
    -99 ≤ x ∧ (w = .Humidity → x ≤ 99) := by
  obtain ⟨now, sock, packet, t, -, decoded, -⟩ := heard
  obtain ⟨start, unset, values⟩ := decode_fields decoded
  rw [values] at value
  rcases storeAll_value _ _ value with before | ⟨f, mem, here, number, read, equal⟩
  · rw [unset] at before
    cases before
  have symbol : f.wxSym = w := by
    rw [← weatherItemAt_wxSym f.wxSym, here, weatherItemAt_wxSym]
  subst symbol
  obtain ⟨flag, factor⟩ := plain_row (readFields_listed _ f mem) plain
  rw [if_neg flag] at equal
  rw [factor, ← equal] at read
  obtain ⟨floating, q, spelled, rfl⟩ := numberIn_number read
  obtain ⟨least, greatest⟩ := floating.number_bounds spelled
  constructor
  · have width : f.text.length ≤ 3 := by
      refine f.length_le.trans ?_
      rcases plain with same | same <;> rw [same] <;> decide
    exact_mod_cast least width
  · intro humidity
    have width : f.text.length ≤ 2 := by
      refine f.length_le.trans ?_
      rw [humidity]
      decide
    exact_mod_cast greatest width

/-- A weight that is a number is a square. -/
theorem IsHeard.weight_nonneg (heard : IsHeard config wx) {w : ℝ}
    (weight : wx.mHannValue = some (.fin w)) : 0 ≤ w := by
  obtain ⟨now, sock, packet, t, -, decoded, status⟩ := heard
  rw [decode_hannValue decoded status] at weight
  unfold hannValue at weight
  split at weight
  · have product := Option.some.inj weight
    obtain ⟨⟨y, sine⟩, -⟩ := ExReal.fin_of_mul product
    rw [sine, ExReal.fin_mul] at product
    rw [← ExReal.fin.inj product]
    exact mul_self_nonneg y
  · cases weight

end Heard

/-! ## Means -/

/-- The aggregate of a symbol is present, the values that it is made of are numbers, and their
weights add up to a positive number. -/
structure WeatherAggregator.Measures (t : WeatherAggregator ExReal) (w : WxSym) : Prop where
  present : (t.mValueAggregate w.idx).isSome
  finite : ∀ wx ∈ stored t.reports, ∀ v, wx.mWeatherValue w.idx = some v → ∃ x, v = .fin x
  positive : ∃ weight, 0 < weight ∧ t.mHannAggregate w.idx = some (.fin weight)

/-- The quotient that is printed for a measured symbol is a number, within any bounds that every
report that is heard keeps. -/
theorem Aggregation.mean_bounds {config : Config ExReal} {s : Main ExReal} (hears : s.Hears config)
    {t : WeatherAggregator ExReal} (made : Aggregation config s.history t) {w : WxSym}
    (measures : t.Measures w) :
    ∃ sum weight m, t.mValueAggregate w.idx = some sum ∧ t.mHannAggregate w.idx = some weight ∧
      sum / weight = .fin m ∧
      (∀ low, (∀ wx x, IsHeard config wx → wx.mWeatherValue w.idx = some (.fin x) → low ≤ x) →
        low ≤ m) ∧
      (∀ high, (∀ wx x, IsHeard config wx → wx.mWeatherValue w.idx = some (.fin x) → x ≤ high) →
        m ≤ high) := by
  have values : t.mValueAggregate = (aggregates (stored t.reports)).1 := congrArg Prod.fst made.sums
  have weights : t.mHannAggregate = (aggregates (stored t.reports)).2 := congrArg Prod.snd made.sums
  obtain ⟨total, positive, sum⟩ := measures.positive
  rw [weights] at sum
  -- a sum of weights that is a number is one of numbers
  have real : ∀ wx ∈ stored t.reports, wx.RealAt w.idx := by
    intro wx mem
    refine ⟨fun present => ?_, measures.finite wx mem⟩
    obtain ⟨name, located⟩ := made.located wx mem
    obtain ⟨hann, weight⟩ := Option.isSome_iff_exists.mp located.mHannValue
    rw [aggregates_weights] at sum
    obtain ⟨xs, split⟩ := ExReal.fin_of_summed sum
    have summand := mem_weights.mpr ⟨wx, mem, present, weight⟩
    rw [split] at summand
    obtain ⟨x, -, rfl⟩ := List.mem_map.mp summand
    exact ⟨x, weight⟩
  obtain ⟨empty, nonempty⟩ := aggregates_mean real
  have some : contributions (stored t.reports) w.idx ≠ [] := by
    intro none
    rw [(empty none).2] at sum
    cases sum
  obtain ⟨value, hann⟩ := nonempty some
  have weighty : weight (contributions (stored t.reports) w.idx) ≠ 0 := by
    intro zero
    rw [hann, zero, mul_zero] at sum
    exact positive.ne (ExReal.fin.inj (Option.some.inj sum))
  have heard : ∀ c ∈ contributions (stored t.reports) w.idx, 0 ≤ c.1 ∧
      ∃ wx, IsHeard config wx ∧ wx.mWeatherValue w.idx = Option.some (.fin c.2) := by
    intro c mem
    obtain ⟨wx, stored, weight, value⟩ := mem_contributions.mp mem
    have heard := hears wx (made.received wx stored)
    exact ⟨heard.weight_nonneg weight, wx, heard, value⟩
  have nonneg := fun c mem => (heard c mem).1
  refine ⟨_, _, mean (contributions (stored t.reports) w.idx), values ▸ value, weights ▸ hann,
    ?_, ?_, ?_⟩
  · rw [ExReal.fin_div (mul_ne_zero (rows_ne_zero w) weighty), mean_mul (rows_ne_zero w)]
  · intro low bound
    refine le_mean nonneg weighty fun c mem => ?_
    obtain ⟨-, wx, heard, value⟩ := heard c mem
    exact bound wx c.2 heard value
  · intro high bound
    refine mean_le nonneg weighty fun c mem => ?_
    obtain ⟨-, wx, heard, value⟩ := heard c mem
    exact bound wx c.2 heard value

/-! ## Lines -/

/-- The number of a row, where its symbol has a sum and a weight. -/
noncomputable def WeatherAggregator.number (t : WeatherAggregator ExReal) (item : WeatherItem) :
    Option ExReal :=
  match t.mValueAggregate item.wxSym.idx, t.mHannAggregate item.wxSym.idx with
  | some sum, some weight => some (convertUnits item.units (sum / weight))
  | _, _ => none

/-- The loop has printed the numbers of rows, and what it has kept is printed. -/
structure Gathered.Numbers (t : WeatherAggregator ExReal) (series : String)
    (out : Gathered ExReal) : Prop where
  lines : ∀ line ∈ out.lines, ∃ item ∈ weatherItemList, line.name = item.dbName ∧
    t.number item = some line.number
  temperature : ∀ x, out.temperature = some x → ⟨series, "Temp", x⟩ ∈ out.lines
  relHumidity : ∀ x, out.relHumidity = some x → ⟨series, "RelHum", x⟩ ∈ out.lines

section Print

variable {t u : WeatherAggregator ExReal} {series : String} {out : Gathered ExReal}

theorem Gathered.numbers_nil : Gathered.Numbers t series ({} : Gathered ExReal) :=
  ⟨List.forall_mem_nil _, fun _ none => (Option.some_ne_none _ none.symm).elim,
    fun _ none => (Option.some_ne_none _ none.symm).elim⟩

theorem Gathered.Numbers.print (numbers : out.Numbers t series) {item : WeatherItem}
    (listed : item ∈ weatherItemList) {x : ExReal} (number : t.number item = some x) :
    ((out.gather item.wxSym x).print series item.dbName x).Numbers t series := by
  have names : ∀ item ∈ weatherItemList, (item.wxSym = .Temperature → item.dbName = "Temp") ∧
      (item.wxSym = .Humidity → item.dbName = "RelHum") := by decide
  obtain ⟨temp, relHum⟩ := names item listed
  have lines : ((out.gather item.wxSym x).print series item.dbName x).lines =
      out.lines ++ [⟨series, item.dbName, x⟩] := by
    unfold Gathered.print Gathered.gather
    split_ifs <;> rfl
  have before : ∀ {line}, line ∈ out.lines →
      line ∈ ((out.gather item.wxSym x).print series item.dbName x).lines := by
    intro line mem
    rw [lines]
    exact List.mem_append_left _ mem
  have last : (⟨series, item.dbName, x⟩ : InfluxLine ExReal) ∈
      ((out.gather item.wxSym x).print series item.dbName x).lines := by
    rw [lines]
    exact List.mem_append_right _ List.mem_cons_self
  constructor
  · intro line mem
    rw [lines] at mem
    rcases List.mem_append.mp mem with mem | mem
    · exact numbers.lines line mem
    · rw [List.mem_singleton.mp mem]
      exact ⟨item, listed, rfl, number⟩
  · intro y kept
    by_cases here : item.wxSym = .Temperature
    · rw [here] at kept
      obtain rfl : x = y := Option.some.inj kept
      exact temp here ▸ last
    · refine before (numbers.temperature y ?_)
      rw [← kept]
      unfold Gathered.print Gathered.gather
      split_ifs <;> rfl
  · intro y kept
    by_cases here : item.wxSym = .Humidity
    · rw [here] at kept
      obtain rfl : x = y := Option.some.inj kept
      exact relHum here ▸ last
    · refine before (numbers.relHumidity y ?_)
      rw [← kept]
      unfold Gathered.print Gathered.gather
      split_ifs <;> rfl

theorem printItem_numbers (numbers : out.Numbers t series) {item : WeatherItem}
    (listed : item ∈ weatherItemList) :
    Ends (printItem t series out item) u (fun out' _ => out'.Numbers t series) (fun _ _ => True) := by
  unfold printItem
  split
  · dsimp only
    cases value : t.mValueAggregate item.wxSym.idx with
    | none => exact numbers
    | some sum =>
      cases hann : t.mHannAggregate item.wxSym.idx with
      | none => exact trivial
      | some weight =>
        refine numbers.print listed ?_
        unfold WeatherAggregator.number
        rw [value, hann]
  · exact numbers

theorem printItems_numbers (numbers : out.Numbers t series) {items : List WeatherItem}
    (listed : ∀ item ∈ items, item ∈ weatherItemList) :
    Ends (printItems t series out items) u (fun out' _ => out'.Numbers t series)
      (fun _ _ => True) := by
  induction items generalizing out u with
  | nil => exact numbers
  | cons item items ih =>
    obtain ⟨here, rest⟩ := List.forall_mem_cons.mp listed
    unfold printItems
    exact (printItem_numbers numbers here).bind fun out' u numbers => ih numbers rest

theorem WeatherAggregator.has_of_number {item : WeatherItem} {x : ExReal}
    (number : t.number item = some x) : t.has item.wxSym := by
  unfold WeatherAggregator.number at number
  unfold WeatherAggregator.has
  cases value : t.mValueAggregate item.wxSym.idx with
  | none =>
    rw [value] at number
    cases number
  | some sum => rfl

/-- What is printed is what the loop has printed, and what follows from what it has kept. -/
theorem printInfluxFormat_numbers (series : String) :
    Ends (printInfluxFormat series) t
      (fun body _ => ∃ out : Gathered ExReal, out.Printed t weatherItemList ∧ out.Numbers t series ∧
        body = (printWindChill series (printHumidity series out)).lines) (fun _ _ => True) := by
  unfold printInfluxFormat
  rw [ends_bind, ends_get]
  have both := (printItems_printed Gathered.printed_nil series weatherItemList).and
    (printItems_numbers (u := t) (show Gathered.Numbers t series {} from Gathered.numbers_nil)
      fun item mem => mem)
  rw [List.nil_append] at both
  refine (both.mono (fun _ _ kept => kept) fun _ _ _ => trivial).bind ?_
  rintro out u ⟨printed, numbers⟩
  exact ⟨out, printed, numbers, rfl⟩

/-- The number of a line is that of the only row with its name. -/
theorem Gathered.Numbers.line (numbers : out.Numbers t series) {row : WeatherItem}
    (only : ∀ item ∈ weatherItemList, item.dbName = row.dbName → item = row) {x y : ExReal}
    (number : t.number row = some x) (mem : ⟨series, row.dbName, y⟩ ∈ out.lines) : y = x := by
  obtain ⟨item, listed, name, number'⟩ := numbers.lines _ mem
  rw [only item listed name.symm, number] at number'
  exact (Option.some.inj number').symm

/-- A line of the dew point in the loop would be that of a row that is set. -/
theorem Gathered.Numbers.no_dewPoint (numbers : out.Numbers t series)
    (unset : t.has .DewPoint = false) (y : ExReal) : ⟨series, "DewPt", y⟩ ∉ out.lines := by
  have row : ∀ item ∈ weatherItemList, item.dbName = "DewPt" → item.wxSym = .DewPoint := by decide
  intro mem
  obtain ⟨item, listed, name, number⟩ := numbers.lines _ mem
  have set := WeatherAggregator.has_of_number number
  rw [row item listed name.symm, unset] at set
  cases set

/-- What is printed after the loop is no temperature, and one dew point. -/
theorem printAfter_lines (series : String) {celsius relHumidity : ExReal}
    (temperature : out.temperature = some celsius) (humidity : out.relHumidity = some relHumidity) :
    ∃ chill : List (InfluxLine ExReal),
      (printWindChill series (printHumidity series out)).lines = out.lines ++
        (⟨series, "DewPt", dewPoint celsius relHumidity⟩ ::
          ⟨series, "Humidex", humidex celsius (dewPoint celsius relHumidity)⟩ :: chill) ∧
      ∀ line ∈ chill, line.name = "WindChill" := by
  unfold printWindChill printHumidity
  rw [temperature, humidity]
  dsimp only [Gathered.print]
  rw [temperature]
  cases out.windGust with
  | none => exact ⟨[], by simp, List.forall_mem_nil _⟩
  | some velocity => exact ⟨[⟨series, "WindChill", windChill celsius velocity⟩], by simp, by simp⟩

/-- The lines of the temperature and of the dew point, in a body of both quotients. -/
theorem printInfluxFormat_dewPoint {body : List (InfluxLine ExReal)}
    (printed : (printInfluxFormat series).run t = .ok body u) (unset : t.has .DewPoint = false)
    {celsius relHumidity : ExReal}
    (temperature : t.number (weatherItemAt WxSym.Temperature.idx) = some celsius)
    (humidity : t.number (weatherItemAt WxSym.Humidity.idx) = some relHumidity) (x : ExReal) :
    (⟨series, "Temp", x⟩ ∈ body ↔ x = celsius) ∧
      (⟨series, "DewPt", x⟩ ∈ body ↔ x = dewPoint celsius relHumidity) := by
  obtain ⟨out, kept, numbers, rfl⟩ := (printInfluxFormat_numbers series).of_ok printed
  have temp : ∀ y, ⟨series, "Temp", y⟩ ∈ out.lines → y = celsius :=
    fun _ => numbers.line (by decide) temperature
  have relHum : ∀ y, ⟨series, "RelHum", y⟩ ∈ out.lines → y = relHumidity :=
    fun _ => numbers.line (by decide) humidity
  have celsius_kept : out.temperature.isSome := by
    have same := kept.kept_eq (show .Temperature ∈ keptSymbols by decide)
    exact same.trans (WeatherAggregator.has_of_number temperature)
  have humidity_kept : out.relHumidity.isSome := by
    have same := kept.kept_eq (show .Humidity ∈ keptSymbols by decide)
    exact same.trans (WeatherAggregator.has_of_number humidity)
  obtain ⟨c, hc⟩ := Option.isSome_iff_exists.mp celsius_kept
  obtain ⟨h, hh⟩ := Option.isSome_iff_exists.mp humidity_kept
  obtain rfl := temp c (numbers.temperature c hc)
  obtain rfl := relHum h (numbers.relHumidity h hh)
  obtain ⟨chill, body, other⟩ := printAfter_lines series hc hh
  have chilled : ∀ {name : String} {y : ExReal}, name ≠ "WindChill" →
      (⟨series, name, y⟩ : InfluxLine ExReal) ∉ chill := fun apart mem => apart (other _ mem)
  have apart : ∀ {name name' : String} {y z : ExReal}, name ≠ name' →
      (⟨series, name, y⟩ : InfluxLine ExReal) ≠ ⟨series, name', z⟩ :=
    fun apart same => apart (congrArg InfluxLine.name same)
  rw [body, List.mem_append, List.mem_append, List.mem_cons, List.mem_cons, List.mem_cons,
    List.mem_cons]
  constructor
  · constructor
    · rintro (mem | same | same | mem)
      · exact temp x mem
      · exact absurd same (apart (by decide))
      · exact absurd same (apart (by decide))
      · exact absurd mem (chilled (by decide))
    · rintro rfl
      exact .inl (numbers.temperature _ hc)
  · constructor
    · rintro (mem | same | same | mem)
      · exact absurd mem (numbers.no_dewPoint unset x)
      · exact congrArg InfluxLine.number same
      · exact absurd same (apart (by decide))
      · exact absurd mem (chilled (by decide))
    · rintro rfl
      exact .inr (.inl rfl)

end Print

/-! ## Runs -/

/-- In every run, wherever it stops, what is printed from every store in which the temperature and
the humidity are measured has a temperature `c` and a dew point `d` that are numbers, with
`d + 273.15` above 0 and `d` below `c`. -/
theorem main_dewPoint (format : ExReal → List Char) (config : Config ExReal) (script : List Ext)
    {now : Int} {t : WeatherAggregator ExReal}
    (resulting : .aggregated now t ∈ (Main.after format config script).history)
    (temperature : t.Measures .Temperature) (humidity : t.Measures .Humidity) (series : String) :
    ∃ body c d, (printInfluxFormat series).run t = .ok body t ∧
      (∀ x, ⟨series, "Temp", x⟩ ∈ body ↔ x = .fin c) ∧
      (∀ x, ⟨series, "DewPt", x⟩ ∈ body ↔ x = .fin d) ∧ 0 < d + 273.15 ∧ d < c := by
  obtain ⟨whole, ⟨story, -⟩⟩ := main_tells format config script
  have hears := main_hears format config script
  generalize Main.after format config script = s at story hears resulting
  have made := story.aggregation resulting
  obtain ⟨body, printed⟩ := printInfluxFormat_run made.setAt series
  obtain ⟨sum, weight, m, value, hann, quotient, least, -⟩ := made.mean_bounds hears temperature
  obtain ⟨sum', weight', h, value', hann', quotient', least', most'⟩ :=
    made.mean_bounds hears humidity
  have cold : -99 ≤ m := least _ fun wx x heard value => (heard.number_bounds (.inl rfl) value).1
  have dry : -99 ≤ h := least' _ fun wx x heard value => (heard.number_bounds (.inr rfl) value).1
  have humid : h ≤ 99 := most' _ fun wx x heard value => (heard.number_bounds (.inr rfl) value).2 rfl
  have celsius : t.number (weatherItemAt WxSym.Temperature.idx) =
      some (.fin ((m - 32) * (5 / 9))) := by
    show (match t.mValueAggregate WxSym.Temperature.idx, t.mHannAggregate WxSym.Temperature.idx with
      | some sum, some weight => some (convertUnits .Fahrenheit (sum / weight))
      | _, _ => none) = _
    rw [value, hann]
    show some (fahrenheitToCelsius (sum / weight)) = _
    rw [quotient]
    unfold fahrenheitToCelsius
    simp only [ExReal.ofRat_eq, ExReal.fin_sub]
    rw [ExReal.fin_div (by norm_num), ExReal.fin_mul]
    norm_num
  have relHumidity : t.number (weatherItemAt WxSym.Humidity.idx) = some (.fin h) := by
    show (match t.mValueAggregate WxSym.Humidity.idx, t.mHannAggregate WxSym.Humidity.idx with
      | some sum, some weight => some (convertUnits .Percent (sum / weight))
      | _, _ => none) = _
    rw [value', hann']
    exact congrArg some quotient'
  have dew : dewPoint (.fin ((m - 32) * (5 / 9))) (.fin h) =
      ExReal.fin ((m - 32) * (5 / 9) - (100 - h) / 5) := by
    unfold dewPoint
    simp only [ExReal.ofRat_eq, ExReal.fin_sub]
    rw [ExReal.fin_div (by norm_num), ExReal.fin_sub]
    norm_num
  have unset : t.has .DewPoint = false := by
    rw [← Bool.not_eq_true]
    intro set
    obtain ⟨wx, stored, present⟩ := (made.setAt WxSym.DewPoint.idx).1.mp set
    rw [(hears wx (made.received wx stored)).unset (w := .DewPoint) rfl] at present
    cases present
  have lines := printInfluxFormat_dewPoint printed unset celsius relHumidity
  rw [dew] at lines
  refine ⟨body, _, _, printed, fun x => (lines x).1, fun x => (lines x).2, ?_, ?_⟩
  · norm_num
    linarith
  · linarith

section Sample

theorem sampleConfig_connects : sampleConfig.Connects :=
  ⟨⟨"CALL".toList, rfl, by decide⟩, rfl, rfl, rfl, rfl⟩

theorem sampleConfig_pushes : sampleConfig.Pushes "host".toList false 8086 "wx".toList :=
  ⟨rfl, rfl, rfl, rfl, 100, rfl, by decide⟩

theorem damp_values : dampText.lat.value = 45 ∧ dampText.lon.value = -75 ∧
    lastValue dampText.sent WxSym.Temperature.idx = some 77 ∧
    lastValue dampText.sent WxSym.Humidity.idx = some 50 := by decide +kernel

/-- The report is at the configured place. -/
theorem damp_station {u v : AprsIs ExReal} {packet : StdString} {wx : AprsWxReport ExReal}
    (sent : packet.chars = dampText.text)
    (decoded : (decode 0).run (u.received packet) = .ok (.report wx) v) :
    StationAt sampleConfig wx 0 ∧ wx.mWeatherValue WxSym.Temperature.idx = some (exact 77) ∧
      wx.mWeatherValue WxSym.Humidity.idx = some (exact 50) := by
  obtain ⟨r, w, decoded', -, -, -, -, -, lat, lon, values⟩ :=
    decode_weatherText 0 u dampText packet sent
  rw [decoded] at decoded'
  obtain ⟨hlat, hlon, temperature, humidity⟩ := damp_values
  cases decoded'
  rw [hlat] at lat
  rw [hlon] at lon
  refine ⟨⟨_, _, _, _, rfl, rfl, lat, lon, ?_⟩, ?_, ?_⟩
  · show 0 = Sphere.angle _ _ _ _ * _
    simp [Sphere.angle, Sphere.hav]
  · rw [values, temperature]
    rfl
  · rw [values, humidity]
    rfl

theorem damp_measures : ∃ now t,
    .aggregated now t ∈ (Main.after (fun _ => []) sampleConfig dampScript).history ∧
      t.Measures .Temperature ∧ t.Measures .Humidity := by
  have damp := main_damp (fun _ => []) sampleConfig_connects sampleConfig_pushes
  obtain ⟨whole, ⟨story, -⟩⟩ := main_tells (fun _ => []) sampleConfig dampScript
  have hears := main_hears (fun _ => []) sampleConfig dampScript
  generalize Main.after _ sampleConfig dampScript = s at damp story hears
  obtain ⟨u, v, packet, wx, body, -, sent, decoded, now, history⟩ := damp
  generalize made_eq : (({} : WeatherAggregator ExReal).store wx).aggregated 0 = t at history
  have resulting : .aggregated 0 t ∈ s.history := by
    rw [history]
    exact List.mem_cons_of_mem _ List.mem_cons_self
  have made := story.aggregation resulting
  obtain ⟨station, temperature, humidity⟩ := damp_station sent decoded
  have mem : wx ∈ stored t.reports := made_eq ▸ stored_damp now
  have only : ∀ wx' ∈ stored t.reports, wx' = wx := by
    intro wx' mem
    have received := made.received wx' mem
    rw [history] at received
    simpa using received
  have inside : ∀ radius : ℤ, sampleConfig.filterRadius = some radius → ¬ OddMultiple radius 0 := by
    rintro radius configured
    obtain rfl : 100 = radius := Option.some.inj configured
    rw [← window_pos_iff (by norm_num), window_center (by norm_num)]
    exact one_pos
  have divides : t.Divides := by
    have filterRadius : sampleConfig.filterRadius = some 100 := rfl
    refine (made.divides_iff hears filterRadius (by decide)).mpr ?_
    rintro w ⟨wx', mem, has⟩
    refine ⟨fun wx'' mem'' _ => ⟨0, ?_⟩, wx', mem, has, 0, ?_, inside⟩
    · rw [only wx'' mem'']
      exact station
    · rw [only wx' mem]
      exact station
  have measures : ∀ (w : WxSym) (q : ℚ), wx.mWeatherValue w.idx = some (exact q) → t.Measures w := by
    intro w q value
    have present := (made.setAt w.idx).1.mpr ⟨wx, mem, by rw [value]; rfl⟩
    refine ⟨present, fun wx' mem' v value' => ?_, divides w present⟩
    rw [only wx' mem', value] at value'
    exact ⟨q, (Option.some.inj value').symm⟩
  exact ⟨0, t, resulting, measures _ 77 temperature, measures _ 50 humidity⟩

theorem main_dewPoint_dampScript : ∃ t body c d, (printInfluxFormat "").run t = .ok body t ∧
    (∀ x, (⟨"", "Temp", x⟩ : InfluxLine ExReal) ∈ body ↔ x = .fin c) ∧
    (∀ x, (⟨"", "DewPt", x⟩ : InfluxLine ExReal) ∈ body ↔ x = .fin d) ∧ 0 < d + 273.15 ∧ d < c := by
  obtain ⟨now, t, resulting, temperature, humidity⟩ := damp_measures
  exact ⟨t, main_dewPoint (fun _ => []) sampleConfig dampScript resulting temperature humidity ""⟩

end Sample

end AprsWx
