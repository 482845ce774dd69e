import AprsWx.Heard

/-!
# What a body names

The lines of a body: first the table's rows that have an aggregate, then what is computed from
them.

* `printInfluxFormat_names`: the names of a body, of every state of the aggregator.
* `decode_unset`: no packet sets a value of width 0.
* `main_names`: in every run, no body names a measurement twice, and a computed one is there
  exactly with the aggregates that it needs.
-/

namespace AprsWx

open Double Prog

variable {F : Type}

/-! ## Names -/

/-- There is an aggregate of the symbol. -/
def WeatherAggregator.has (s : WeatherAggregator F) (w : WxSym) : Bool :=
  (s.mValueAggregate w.idx).isSome

/-- The loop prints a row. -/
def WeatherAggregator.prints (s : WeatherAggregator F) (item : WeatherItem) : Bool :=
  item.wxFlag ≠ 'l' && s.has item.wxSym

/-- The names that are printed after the loop. -/
def WeatherAggregator.computedNames (s : WeatherAggregator F) : List String :=
  (if s.has .Temperature && s.has .Humidity then ["DewPt", "Humidex"] else []) ++
    if s.has .Temperature && s.has .WindGust then ["WindChill"] else []

def names (body : List (InfluxLine F)) : List String := body.map InfluxLine.name

/-- The local variable that keeps the value of a symbol. -/
def Gathered.kept (out : Gathered F) : WxSym → Option F
  | .Temperature => out.temperature
  | .Humidity => out.relHumidity
  | .WindGust => out.windGust
  | _ => none

/-- The symbols whose values are kept. -/
def keptSymbols : List WxSym := [.Temperature, .Humidity, .WindGust]

theorem Gathered.kept_gather (out : Gathered F) {v w : WxSym} (mem : v ∈ keptSymbols) (number : F) :
    ((out.gather w number).kept v).isSome ↔ (out.kept v).isSome ∨ w = v := by
  unfold gather
  simp only [keptSymbols, List.mem_cons, List.not_mem_nil, or_false] at mem
  rcases mem with rfl | rfl | rfl
  all_goals
    split_ifs with temperature humidity gust
    all_goals simp_all [kept]

/-- What the loop has printed and kept after the rows of a list. -/
structure Gathered.Printed (s : WeatherAggregator F) (items : List WeatherItem) (out : Gathered F) :
    Prop where
  names : AprsWx.names out.lines = (items.filter s.prints).map WeatherItem.dbName
  kept : ∀ w ∈ keptSymbols,
    (out.kept w).isSome ↔ ∃ item ∈ items.filter s.prints, item.wxSym = w

section Print

variable {s t : WeatherAggregator F} {items : List WeatherItem} {out out' : Gathered F}

theorem Gathered.printed_nil : Gathered.Printed s [] ({} : Gathered F) := by
  refine ⟨rfl, fun w mem => ?_⟩
  simp only [List.filter_nil, List.not_mem_nil, false_and, exists_false, iff_false]
  cases w <;> exact Bool.false_ne_true

/-- A row that is not printed. -/
theorem Gathered.Printed.skip (printed : out.Printed s items) {item : WeatherItem}
    (silent : s.prints item = false) : out.Printed s (items ++ [item]) := by
  have same : (items ++ [item]).filter s.prints = items.filter s.prints := by
    simp [List.filter_append, silent]
  constructor
  · rw [same]
    exact printed.names
  · rw [same]
    exact printed.kept

/-- A row that is printed. -/
theorem Gathered.Printed.print (printed : out.Printed s items) {item : WeatherItem}
    (loud : s.prints item = true) (series : String) (number : F) :
    ((out.gather item.wxSym number).print series item.dbName number).Printed s (items ++ [item]) := by
  have more : (items ++ [item]).filter s.prints = items.filter s.prints ++ [item] := by
    simp [List.filter_append, loud]
  have lines : (out.gather item.wxSym number).lines = out.lines := by
    unfold Gathered.gather
    split_ifs <;> rfl
  constructor
  · rw [more, List.map_append, ← printed.names, Gathered.print, AprsWx.names, lines, List.map_append]
    rfl
  · intro w mem
    have kept : ((out.gather item.wxSym number).print series item.dbName number).kept w =
        (out.gather item.wxSym number).kept w := by
      cases w <;> rfl
    rw [more, kept, Gathered.kept_gather out mem, printed.kept w mem]
    simp [or_and_right, exists_or]

/-- The kept values are those of the aggregates. -/
theorem Gathered.Printed.kept_eq (printed : out.Printed s weatherItemList) {w : WxSym}
    (mem : w ∈ keptSymbols) : (out.kept w).isSome = s.has w := by
  have row : ∃ item ∈ weatherItemList, item.wxFlag ≠ 'l' ∧ item.wxSym = w := by
    cases w <;> decide
  rw [Bool.eq_iff_iff, printed.kept w mem]
  constructor
  · rintro ⟨item, printed, rfl⟩
    have loud := (List.mem_filter.mp printed).2
    exact (Bool.and_eq_true_iff.mp loud).2
  · intro set
    obtain ⟨item, listed, low, rfl⟩ := row
    refine ⟨item, List.mem_filter.mpr ⟨listed, ?_⟩, rfl⟩
    rw [WeatherAggregator.prints, Bool.and_eq_true_iff]
    exact ⟨decide_eq_true low, set⟩

variable [CDouble F]

theorem printItem_printed (printed : out.Printed s items) (series : String) (item : WeatherItem) :
    Ends (printItem s series out item) t (fun out' _ => out'.Printed s (items ++ [item]))
      (fun _ _ => True) := by
  unfold printItem
  by_cases low : item.wxFlag ≠ 'l'
  · rw [if_pos low]
    dsimp only
    cases sum : s.mValueAggregate item.wxSym.idx with
    | none => exact printed.skip (by simp [WeatherAggregator.prints, WeatherAggregator.has, sum])
    | some total =>
      have loud : s.prints item = true := by
        simp [WeatherAggregator.prints, WeatherAggregator.has, sum, low]
      rw [ends_bind]
      exact ends_value (fun weight _ => printed.print loud series _) trivial
  · rw [if_neg low]
    have silent : s.prints item = false := by
      simp [WeatherAggregator.prints, not_not.mp low]
    exact printed.skip silent

theorem printItems_printed (printed : out.Printed s items) (series : String)
    (rest : List WeatherItem) :
    Ends (printItems s series out rest) t (fun out' _ => out'.Printed s (items ++ rest))
      (fun _ _ => True) := by
  induction rest generalizing items out t with
  | nil =>
    rw [List.append_nil]
    exact printed
  | cons item rest ih =>
    unfold printItems
    refine (printItem_printed printed series item).bind fun next u printed => ?_
    rw [List.append_cons]
    exact ih printed

/-- A body has the names of the rows that are printed and the computed names. -/
theorem printInfluxFormat_names (series : String) :
    Ends (printInfluxFormat series) s
      (fun body _ => names body =
        (weatherItemList.filter s.prints).map WeatherItem.dbName ++ s.computedNames)
      (fun _ _ => True) := by
  unfold printInfluxFormat
  rw [ends_bind, ends_get]
  refine (printItems_printed Gathered.printed_nil series weatherItemList).bind ?_
  intro out u printed
  rw [List.nil_append] at printed
  show names (printWindChill series (printHumidity series out)).lines = _
  rw [← printed.names, WeatherAggregator.computedNames,
    ← printed.kept_eq (show .Temperature ∈ keptSymbols by decide),
    ← printed.kept_eq (show .Humidity ∈ keptSymbols by decide),
    ← printed.kept_eq (show .WindGust ∈ keptSymbols by decide)]
  obtain ⟨temperature, relHumidity, windGust, lines⟩ := out
  unfold printWindChill printHumidity
  -- what the loop has kept decides which of the three lines come after it
  cases temperature with
  | none => simp [Gathered.kept]
  | some celsius =>
    cases relHumidity with
    | none => cases windGust <;> simp [Gathered.kept, Gathered.print, names]
    | some relHumidity => cases windGust <;> simp [Gathered.kept, Gathered.print, names]

end Print

/-! ## Values of width 0 -/

section Decode

variable [CDouble F] {w : WxSym}

theorem storeWeatherValue_other {wxReport : AprsWxReport F} {wxSym : WxSym} (valueFlag : Char)
    {number : Option F} {i : Fin weatherItemCount} (other : number = none ∨ i ≠ wxSym.idx) :
    (storeWeatherValue wxReport wxSym valueFlag number).mWeatherValue i =
      wxReport.mWeatherValue i := by
  cases number with
  | none => rfl
  | some number => exact Function.update_of_ne (other.resolve_left nofun) _ _

/-- A value of width 0 is never a number, so its flag stores nothing. -/
theorem weatherFields_unset (narrow : (weatherItemAt w.idx).digits = 0) (text : List Char)
    (wxReport : AprsWxReport F) :
    (weatherFields text wxReport).mWeatherValue w.idx = wxReport.mWeatherValue w.idx := by
  induction text, wxReport using weatherFields.induct (F := F) with
  | case1 wxReport => rw [weatherFields]
  | case2 wxReport flag text unknown => rw [weatherFields, unknown]
  | case3 wxReport flag text item found width ih =>
    rw [weatherFields, found]
    refine ih.trans (storeWeatherValue_other flag ?_)
    rcases eq_or_ne w.idx item.wxSym.idx with here | other
    · refine .inl ?_
      show numberIn (text.take (weatherItemAt item.wxSym.idx).digits) _ = none
      rw [← here, narrow]
      rfl
    · exact .inr other

theorem weatherReport_unset (narrow : (weatherItemAt w.idx).digits = 0)
    (mQthPosition : AprsPosition F) (mRadius : Option F) (text : List Char)
    (wxReport : AprsWxReport F) :
    (weatherReport mQthPosition mRadius text wxReport).mWeatherValue w.idx =
      wxReport.mWeatherValue w.idx := by
  have other : w.idx ≠ WxSym.WindDirection.idx ∧ w.idx ≠ WxSym.WindSpeed.idx := by
    constructor <;> intro same <;> rw [same] at narrow <;> cases narrow
  show (weatherFields (text.drop 7) (windValues text wxReport)).mWeatherValue w.idx = _
  rw [weatherFields_unset narrow, windValues, storeWeatherValue_other _ (.inr other.2),
    storeWeatherValue_other _ (.inr other.1)]

/-- Whatever the packet, `decode` sets no value of width 0. -/
theorem decode_unset (narrow : (weatherItemAt w.idx).digits = 0) {now : Int} {sock t : AprsIs F}
    {packet : StdString} {wx : AprsWxReport F}
    (decoded : (decode now).run (sock.received packet) = .ok (.report wx) t) :
    wx.mWeatherValue w.idx = none := by
  rcases decode_values decoded with none | status
  · exact none _
  · obtain ⟨-, mLat, mLon, equal⟩ := decode_weather decoded status
    cases equal
    exact weatherReport_unset narrow _ _ _ _

end Decode

/-! ## Runs -/

section Runs

variable [CDouble F]

/-- The rows that have a name of their own. -/
def measured : List WeatherItem :=
  weatherItemList.filter fun item => item.wxFlag ≠ 'l' && item.wxFlag ≠ '\n'

/-- The body names nothing twice, and the computed values are there with what they need. -/
def NamesOnce (s : WeatherAggregator F) (body : List (InfluxLine F)) : Prop :=
  (names body).Nodup ∧
    ("DewPt" ∈ names body ↔ s.has .Temperature ∧ s.has .Humidity) ∧
    ("Humidex" ∈ names body ↔ s.has .Temperature ∧ s.has .Humidity) ∧
    ("WindChill" ∈ names body ↔ s.has .Temperature ∧ s.has .WindGust)

omit [CDouble F] in
theorem prints_measured {s : WeatherAggregator F} (dewPoint : s.has .DewPoint = false)
    (humidex : s.has .Humidex = false) :
    weatherItemList.filter s.prints = measured.filter s.prints := by
  unfold measured
  rw [List.filter_filter]
  refine List.filter_congr fun item mem => ?_
  have row : ∀ item ∈ weatherItemList, item.wxFlag = '\n' →
      item.wxSym = .DewPoint ∨ item.wxSym = .Humidex := by decide
  by_cases newline : item.wxFlag = '\n'
  · rcases row item mem newline with same | same
    · simp [WeatherAggregator.prints, same, dewPoint]
    · simp [WeatherAggregator.prints, same, humidex]
  · simp [WeatherAggregator.prints, newline, Bool.and_comm]

omit [CDouble F] in
/-- A computed name is there with the aggregates that it is computed from. -/
theorem WeatherAggregator.mem_computedNames (s : WeatherAggregator F) :
    ("DewPt" ∈ s.computedNames ↔ s.has .Temperature ∧ s.has .Humidity) ∧
      ("Humidex" ∈ s.computedNames ↔ s.has .Temperature ∧ s.has .Humidity) ∧
      ("WindChill" ∈ s.computedNames ↔ s.has .Temperature ∧ s.has .WindGust) := by
  unfold WeatherAggregator.computedNames
  refine ⟨?_, ?_, ?_⟩
  all_goals
    cases s.has .Temperature
    all_goals simp

theorem printInfluxFormat_namesOnce {s t : WeatherAggregator F} (dewPoint : s.has .DewPoint = false)
    (humidex : s.has .Humidex = false) {series : String} {body : List (InfluxLine F)}
    (printed : (printInfluxFormat series).run s = .ok body t) : NamesOnce s body := by
  have equal := (printInfluxFormat_names (s := s) series).of_ok printed
  rw [prints_measured dewPoint humidex] at equal
  have rows : ((measured.filter s.prints).map WeatherItem.dbName).Sublist
      (measured.map WeatherItem.dbName) := List.filter_sublist.map _
  have other : ∀ name ∈ ["DewPt", "Humidex", "WindChill"],
      name ∉ (measured.filter s.prints).map WeatherItem.dbName := by
    intro name computed mem
    have apart : ∀ name ∈ ["DewPt", "Humidex", "WindChill"],
        name ∉ measured.map WeatherItem.dbName := by decide
    exact apart name computed (rows.subset mem)
  have last : s.computedNames.Sublist ["DewPt", "Humidex", "WindChill"] := by
    unfold WeatherAggregator.computedNames
    split_ifs <;> decide
  have only : ∀ name ∈ ["DewPt", "Humidex", "WindChill"],
      name ∈ (measured.filter s.prints).map WeatherItem.dbName ++ s.computedNames ↔
        name ∈ s.computedNames := by
    intro name computed
    rw [List.mem_append, or_iff_right (other name computed)]
  obtain ⟨dewPt, humidex, windChill⟩ := s.mem_computedNames
  unfold NamesOnce
  rw [equal]
  refine ⟨?_, (only _ (by decide)).trans dewPt, (only _ (by decide)).trans humidex,
    (only _ (by decide)).trans windChill⟩
  have once : (measured.map WeatherItem.dbName ++ ["DewPt", "Humidex", "WindChill"]).Nodup := by
    decide
  exact once.sublist (rows.append last)

/-- Where no report of the history has a value, there is no aggregate of it. -/
theorem Story.has_eq_false {config : Config F} {whole : Bool} {h : List (Obs F)}
    {s : WeatherAggregator F} (story : Story config whole h s) {w : WxSym}
    (unset : ∀ wx, .received wx ∈ h → wx.mWeatherValue w.idx = none) : s.has w = false := by
  induction story with
  | start => rfl
  | received _ _ ih => exact ih fun wx mem => unset wx (List.mem_append_left _ mem)
  | @aggregated h s now before ih =>
    have filled := before.filled.aggregated now
    have set := (aggregates_setAt _ filled.located w.idx).1
    rw [← Bool.not_eq_true]
    intro some
    obtain ⟨wx, mem, value⟩ := set.mp some
    have received := before.aggregated.received_of_stored wx mem
    rw [unset wx received] at value
    cases value
  | pushed _ _ _ ih => exact ih fun wx mem => unset wx (List.mem_append_left _ mem)

theorem IsHeard.unset {config : Config F} {wx : AprsWxReport F} (heard : IsHeard config wx)
    {w : WxSym} (narrow : (weatherItemAt w.idx).digits = 0) : wx.mWeatherValue w.idx = none := by
  obtain ⟨now, sock, packet, t, -, decoded, -⟩ := heard
  exact decode_unset narrow decoded

/-- In every run, what is printed names no measurement twice, and a dew point, a humidex and a
wind chill are printed exactly with the aggregates they are computed from: of the aggregator as
it is at any moment, and in every body that was pushed. No packet sets a dew point or a humidex. -/
theorem main_names (format : F → List Char) (config : Config F) (script : List Ext) :
    let s := Main.after format config script
    (∀ series body t, (printInfluxFormat series).run s.weatherAggregator = .ok body t →
      NamesOnce s.weatherAggregator body) ∧
    (∀ pre cause time url body post, s.history = pre ++ .pushed cause time url body :: post →
      ∃ a, settled pre = some a ∧ (printInfluxFormat influxSeries).run a = .ok body a ∧
        NamesOnce a body) ∧
    (∀ (now : Int) (sock t : AprsIs F) (packet : StdString) (wx : AprsWxReport F),
      (decode now).run (sock.received packet) = .ok (.report wx) t →
      wx.mWeatherValue WxSym.DewPoint.idx = none ∧ wx.mWeatherValue WxSym.Humidex.idx = none) := by
  intro s
  obtain ⟨whole, tells⟩ := main_tells format config script
  have hears : s.Hears config := main_hears format config script
  have once : ∀ {whole h a} {series : String} {body : List (InfluxLine F)} {t}, Story config whole h a →
      (∀ wx, .received wx ∈ h → IsHeard config wx) →
      (printInfluxFormat series).run a = .ok body t → NamesOnce a body := by
    intro whole h a series body t story heard printed
    have dewPoint := story.has_eq_false fun wx mem => (heard wx mem).unset (w := .DewPoint) rfl
    have humidex := story.has_eq_false fun wx mem => (heard wx mem).unset (w := .Humidex) rfl
    exact printInfluxFormat_namesOnce dewPoint humidex printed
  refine ⟨fun series body t printed => once tells.story hears printed, ?_, ?_⟩
  · intro pre cause time url body post split
    obtain ⟨a, story, printed, -⟩ := tells.story.made pre _ post split
    refine ⟨a, story.settled, printed, once story ?_ printed⟩
    intro wx mem
    refine hears wx ?_
    rw [split]
    exact List.mem_append_left _ mem
  · intro now sock t packet wx decoded
    exact ⟨decode_unset (w := .DewPoint) rfl decoded, decode_unset (w := .Humidex) rfl decoded⟩

end Runs

end AprsWx
