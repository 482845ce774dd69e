import AprsWx.Lib.Grammar
import AprsWx.WeatherReport
import AprsWx.WeatherText

/-!
# Weather fields

The windows of a packet that `decode` reads as weather values, and what it stores of them.

* `WeatherField`: a window with its row of the table, and what it does to a report.
* `decode_fields`: a decoded report has the values of its packet's fields, stored in their order.
* `decode_fields_sound_iff`: which packets give no value but what decimal fields can express.
-/

namespace AprsWx

open Double Numeral Prog

variable {F : Type} [CDouble F]

/-! ## Windows -/

/-- All of a window is a numeral exactly when it is in the language of `strtod`. -/
theorem isNumeral_iff {str : List Char} : IsNumeral str ↔ IsFloating str := by
  have taken : ∀ text : List Char, (strtod text).2 ≤ text.length := by
    intro text
    rcases strtod_sound text with nothing | ⟨taken, rest, split, length, -⟩
    · omega
    · have total := congrArg List.length split
      rw [List.length_append] at total
      omega
  unfold IsNumeral
  by_cases nul : '\x00' ∈ str
  · have cut : (cString str).length < str.length := by
      refine (List.takeWhile_sublist _).length_le.lt_of_ne fun whole => ?_
      have inside := List.takeWhile_eq_self_iff.mp ((List.takeWhile_sublist _).eq_of_length whole)
      exact absurd (inside _ nul) (by decide)
    refine iff_of_false (fun whole => ?_) fun floating => floating.nul_notMem nul
    have := taken (cString str)
    omega
  · have whole : cString str = str := by
      refine List.takeWhile_eq_self_iff.mpr fun c mem => decide_eq_true ?_
      rintro rfl
      exact nul mem
    rw [whole]
    exact strtod_takes_iff

/-- A window of the packet that is read as a value of `wxSym`. It has at most as many
characters as the table gives the symbol: fewer at the end of the packet. -/
structure WeatherField where
  wxSym : WxSym
  flag : Char
  factor : ℚ
  text : List Char
  factor_ne : factor ≠ 0
  length_le : text.length ≤ (weatherItemAt wxSym.idx).digits

namespace WeatherField

def width (f : WeatherField) : Nat := (weatherItemAt f.wxSym.idx).digits

/-- What `decodeWeatherValue` does with the field. -/
def store (f : WeatherField) (wxReport : AprsWxReport F) : AprsWxReport F :=
  storeWeatherValue wxReport f.wxSym f.flag (numberIn f.text (ofRat f.factor))

def storeAll (fields : List WeatherField) (wxReport : AprsWxReport F) : AprsWxReport F :=
  fields.foldl (fun wxReport f => f.store wxReport) wxReport

/-- A field of the wind direction or the wind speed. -/
def wind (wxSym : WxSym) (text : List Char) : WeatherField where
  wxSym := wxSym
  flag := '\x00'
  factor := 1
  text := text.take (weatherItemAt wxSym.idx).digits
  factor_ne := one_ne_zero
  length_le := List.length_take_le _ _

/-- A field of the weather loop: the characters after a flag of the table. -/
def flagged {flag : Char} {item : WeatherItem} (found : findItem flag = some item)
    (text : List Char) : WeatherField where
  wxSym := item.wxSym
  flag := flag
  factor := item.factor
  text := text.take (weatherItemAt item.wxSym.idx).digits
  factor_ne := by
    have mem := List.mem_of_find?_eq_some found
    clear * - mem
    revert item
    decide
  length_le := List.length_take_le _ _

end WeatherField

/-- The fields of the weather loop. -/
def loopFields (text : List Char) : List WeatherField :=
  match text with
  | [] => []
  | flag :: text =>
    match found : findItem flag with
    | none => []
    | some item =>
      .flagged found text :: loopFields (text.drop (weatherItemAt item.wxSym.idx).digits)
termination_by text.length
decreasing_by
  rw [List.length_drop, List.length_cons]
  omega

/-- The fields of a packet. One that is taken for no weather report has none. -/
def readFields (packet : List Char) : List WeatherField :=
  let text := payload packet
  if HoldsWeather text then
    let weather := (positionText text).drop 19
    .wind .WindDirection weather :: .wind .WindSpeed (weather.drop 4) :: loopFields (weather.drop 7)
  else []

/-! ## The values of a report -/

theorem loopFields_none {flag : Char} (unknown : findItem flag = none) (text : List Char) :
    loopFields (flag :: text) = [] := by
  rw [loopFields]
  split
  · rfl
  · next item found => cases unknown.symm.trans found

theorem loopFields_some {flag : Char} {item : WeatherItem} (found : findItem flag = some item)
    (text : List Char) :
    loopFields (flag :: text) =
      .flagged found text :: loopFields (text.drop (weatherItemAt item.wxSym.idx).digits) := by
  rw [loopFields]
  split
  · next unknown => cases unknown.symm.trans found
  · next item' found' =>
    obtain rfl := Option.some.inj (found.symm.trans found')
    rfl

theorem weatherFields_storeAll (text : List Char) (wxReport : AprsWxReport F) :
    weatherFields text wxReport = WeatherField.storeAll (loopFields text) wxReport := by
  induction text, wxReport using weatherFields.induct (F := F) with
  | case1 wxReport =>
    rw [weatherFields, loopFields]
    rfl
  | case2 wxReport flag text unknown =>
    rw [weatherFields, unknown, loopFields_none unknown]
    rfl
  | case3 wxReport flag text item known width ih =>
    rw [weatherFields, known, loopFields_some known]
    exact ih

theorem weatherReport_storeAll (mQthPosition : AprsPosition F) (mRadius : Option F)
    (text : List Char) (wxReport : AprsWxReport F) :
    (weatherReport mQthPosition mRadius text wxReport).mWeatherValue =
      (WeatherField.storeAll (.wind .WindDirection text :: .wind .WindSpeed (text.drop 4) ::
        loopFields (text.drop 7)) wxReport).mWeatherValue := by
  have loop := congrArg AprsWxReport.mWeatherValue
    (weatherFields_storeAll (text.drop 7) (windValues text wxReport))
  exact loop

/-- The values of a decoded report are those of the packet's fields, stored one after the
other. -/
theorem decode_fields {now : Int} {s t : AprsIs F} {packet : StdString} {wx : AprsWxReport F}
    (decoded : (decode now).run (s.received packet) = .ok (.report wx) t) :
    ∃ start : AprsWxReport F, start.mWeatherValue = (fun _ => none) ∧
      wx.mWeatherValue =
        (WeatherField.storeAll (readFields packet.chars) start).mWeatherValue := by
  unfold readFields
  dsimp only
  split
  · next holds =>
    obtain ⟨mLat, mLon, parsed⟩ :=
      parse_of_weather now s.mQthPosition s.mRadius (textBefore '>' packet.chars) holds
    rw [parse_of_decode decoded] at parsed
    cases parsed
    exact ⟨_, rfl, weatherReport_storeAll s.mQthPosition s.mRadius _ _⟩
  · next other =>
    rcases decode_values decoded with unset | status
    · exact ⟨{ mTimePoint := 0 }, rfl, funext unset⟩
    · exact absurd (decode_weather decoded status).1 other

/-! ## Decimal fields -/

/-- An optional `'-'` and decimal digits. -/
def IsDecimal (text : List Char) : Prop :=
  ∃ ds : List Char, ds ≠ [] ∧ (∀ c ∈ ds, c.isDigit) ∧ (text = ds ∨ text = '-' :: ds)

/-- What a field is for: what is stored in an empty slot is a number that the field's characters
can express, and a text that is no decimal number is passed over. -/
structure WeatherField.Sound (f : WeatherField) : Prop where
  finite : ∀ (wxReport : AprsWxReport ExReal) (v : ExReal),
    wxReport.mWeatherValue f.wxSym.idx = none →
    (f.store wxReport).mWeatherValue f.wxSym.idx = some v →
    ∃ x : ℝ, v = .fin x ∧ |(x - if f.flag = 'l' then 1000 else 0) * f.factor| ≤ 10 ^ f.width - 1
  missing : ¬ IsDecimal f.text → ∀ wxReport : AprsWxReport ExReal, f.store wxReport = wxReport

namespace WeatherField

variable (f : WeatherField)

theorem store_of_none {wxReport : AprsWxReport F}
    (missing : (numberIn f.text (ofRat f.factor) : Option F) = none) :
    f.store wxReport = wxReport := by
  unfold store
  rw [missing]
  rfl

theorem store_of_some (wxReport : AprsWxReport F) {number : F}
    (read : numberIn f.text (ofRat f.factor) = some number) :
    (f.store wxReport).mWeatherValue f.wxSym.idx =
      some (if f.flag = 'l' then number + ofRat 1000 else number) := by
  unfold store
  rw [read]
  exact Function.update_self _ _ _

/-- A decimal field is read as a number of at most as many digits as it has characters. -/
theorem numberIn_decimal (decimal : IsDecimal f.text) : ∃ n : ℚ, |n| ≤ 10 ^ f.width - 1 ∧
    numberIn f.text (ofRat f.factor) = some (ExReal.fin ((n / f.factor : ℚ) : ℝ)) := by
  obtain ⟨ds, nonempty, isDigit, spelled⟩ := decimal
  have small : ((decimalValue ds : ℕ) : ℚ) ≤ 10 ^ f.width - 1 := by
    have length : ds.length ≤ f.width := by
      refine le_trans ?_ f.length_le
      rcases spelled with text | text
      · rw [text]
      · rw [text, List.length_cons]
        omega
    have below : decimalValue ds + 1 ≤ 10 ^ f.width :=
      (decimalValue_lt isDigit).trans_le (Nat.pow_le_pow_right (by decide) length)
    rw [le_sub_iff_add_le]
    exact_mod_cast below
  rcases spelled with text | text
  · refine ⟨decimalValue ds, ?_, ?_⟩
    · rwa [abs_of_nonneg (Nat.cast_nonneg _)]
    · rw [text]
      exact numberIn_digits isDigit nonempty f.factor_ne
  · refine ⟨-decimalValue ds, ?_, ?_⟩
    · rwa [abs_neg, abs_of_nonneg (Nat.cast_nonneg _)]
    · rw [text]
      exact numberIn_minus isDigit nonempty f.factor_ne

theorem sound_iff : f.Sound ↔ (IsFloating f.text → IsDecimal f.text) := by
  constructor
  · intro sound floating
    by_contra other
    have read : (numberIn f.text (ofRat f.factor) : Option ExReal).isSome :=
      numberIn_isSome.mpr (isNumeral_iff.mpr floating)
    obtain ⟨number, read⟩ := Option.isSome_iff_exists.mp read
    -- a report without values gets one from the field
    have kept := sound.missing other { mTimePoint := 0 }
    have stored := f.store_of_some { mTimePoint := 0 } read
    rw [kept] at stored
    cases stored
  · intro decimal
    have unread : ¬ IsDecimal f.text →
        (numberIn f.text (ofRat f.factor) : Option ExReal) = none := by
      intro other
      rw [← Option.not_isSome_iff_eq_none, numberIn_isSome, isNumeral_iff]
      exact fun floating => other (decimal floating)
    refine ⟨?_, fun other wxReport => f.store_of_none (unread other)⟩
    intro wxReport v empty stored
    by_cases isDecimal : IsDecimal f.text
    · obtain ⟨n, small, read⟩ := f.numberIn_decimal isDecimal
      rw [f.store_of_some _ read] at stored
      have factor : (f.factor : ℝ) ≠ 0 := by exact_mod_cast f.factor_ne
      refine ⟨(n / f.factor : ℚ) + if f.flag = 'l' then 1000 else 0, ?_, ?_⟩
      · rw [← Option.some.inj stored]
        split
        · rw [ExReal.ofRat_eq, ExReal.fin_add]
          norm_num
        · rw [add_zero]
      · rw [add_sub_cancel_right]
        push_cast
        rw [div_mul_cancel₀ _ factor]
        exact_mod_cast small
    · rw [f.store_of_none (unread isDecimal), empty] at stored
      cases stored

end WeatherField

/-- For every packet, the values of a decoded report are those stored from its fields, and all of
them are numbers that the fields can express, with every field that is no decimal number passed
over, exactly when the only fields in the language of `strtod` are decimal numbers. -/
theorem decode_fields_sound_iff (packet : StdString) :
    (∀ (now : Int) (s t : AprsIs ExReal) (wx : AprsWxReport ExReal),
      (decode now).run (s.received packet) = .ok (.report wx) t →
      ∃ start : AprsWxReport ExReal, start.mWeatherValue = (fun _ => none) ∧
        wx.mWeatherValue =
          (WeatherField.storeAll (readFields packet.chars) start).mWeatherValue) ∧
    ((∀ f ∈ readFields packet.chars, f.Sound) ↔
      ∀ f ∈ readFields packet.chars, IsFloating f.text → IsDecimal f.text) := by
  refine ⟨fun now s t wx decoded => decode_fields decoded, ?_⟩
  constructor
  · intro sound f mem
    exact f.sound_iff.mp (sound f mem)
  · intro decimal f mem
    exact f.sound_iff.mpr (decimal f mem)

/-- A temperature of ten digits in three characters, and a luminosity that is no number. -/
def exponentPacket : StdString := ⟨"A>B:!4500.00N/07500.00W_000/000t1e9Lnan\n".toList, by decide⟩

theorem weatherFields_exponent (wxReport : AprsWxReport ExReal) :
    weatherFields "t1e9Lnan\n".toList wxReport =
      storeWeatherValue
        (storeWeatherValue wxReport .Temperature 't' (numberIn "1e9".toList (ofRat 1)))
        .Luminosity 'L' (numberIn "nan".toList (ofRat 1)) := by
  have temperature : findItem 't' = some ⟨.Temperature, 't', 3, "Temp", .Fahrenheit, 1⟩ := by decide
  have luminosity : findItem 'L' = some ⟨.Luminosity, 'L', 3, "Lumin", .wPSqm, 1⟩ := by decide
  show weatherFields ('t' :: "1e9Lnan\n".toList) wxReport = _
  rw [weatherFields, temperature]
  show weatherFields ('L' :: "nan\n".toList) _ = _
  rw [weatherFields, luminosity]
  exact weatherFields_tail (.inr (.inl rfl)) _

/-- Both are stored. -/
theorem decode_exponentPacket : IsLine exponentPacket.chars ∧
    ∃ wx t, (decode 0).run (sampleStation.received exponentPacket) = .ok (.report wx) t ∧
      wx.mPacketStatus = .WxPacket ∧
      wx.mWeatherValue WxSym.Temperature.idx = some (.fin (10 ^ 9)) ∧
      wx.mWeatherValue WxSym.Luminosity.idx = some .nan := by
  refine ⟨⟨"A>B:!4500.00N/07500.00W_000/000t1e9Lnan".toList, by decide, by decide, by decide,
    by decide⟩, ?_⟩
  obtain ⟨mLat, mLon, parsed⟩ := parse_of_weather 0 sampleStation.mQthPosition
    sampleStation.mRadius (textBefore '>' exponentPacket.chars)
    (show HoldsWeather (payload exponentPacket.chars) by decide +kernel)
  obtain ⟨t, decoded⟩ := decode_of_parse parsed
  have huge : (numberIn "1e9".toList (ofRat 1) : Option ExReal) = some (.fin (10 ^ 9)) := by
    have read : strtod "1e9".toList = (⟨false, .finite (10 ^ 9)⟩, 3) := by decide +kernel
    rw [numberIn_of_strtod (by decide) (by decide) read, if_neg (by decide),
      ofLiteral_div _ _ one_ne_zero]
    norm_num
  have nan : (numberIn "nan".toList (ofRat 1) : Option ExReal) = some .nan := by
    have read : strtod "nan".toList = (⟨false, .nan⟩, 3) := by decide +kernel
    rw [numberIn_of_strtod (by decide) (by decide) read, if_neg (by decide)]
    rfl
  have text : ((positionText (payload exponentPacket.chars)).drop 19).drop 7 =
      "t1e9Lnan\n".toList := by decide
  obtain ⟨wxReport, values⟩ : ∃ wxReport : AprsWxReport ExReal,
      (weatherOf 0 sampleStation.mQthPosition sampleStation.mRadius
        (textBefore '>' exponentPacket.chars) (payload exponentPacket.chars) mLat mLon).mWeatherValue =
      (weatherFields "t1e9Lnan\n".toList wxReport).mWeatherValue := by
    rw [← text]
    exact ⟨_, rfl⟩
  rw [weatherFields_exponent, huge, nan] at values
  refine ⟨_, _, decoded, rfl, ?_, ?_⟩
  · rw [values]
    rfl
  · rw [values]
    rfl

end AprsWx
