import AprsWx.Payload

/-!
# Weather reports as stations send them

The text of a well-formed weather report, given by its parts, and the round trip: from
the text, `decode` gets back the parts.

* `Entry`: what a station writes in a value field, a number or a filler.
* `WeatherText`: a report by its parts, with its text, its coordinates and its values.
* `decode_weatherText`: the round trip.
-/

namespace AprsWx

open Double Numeral Prog

/-! ## The parts of a report -/

/-- A text of `n` decimal digits. -/
abbrev Digits (n : Nat) : Type := { ds : List Char // ds.length = n ∧ ∀ c ∈ ds, c.isDigit }

def Digits.value {n : Nat} (digits : Digits n) : Nat := decimalValue digits.val

/-- Digits that are written out. -/
def Digits.of (ds : List Char) (isDigit : ds.all Char.isDigit) : Digits ds.length :=
  ⟨ds, rfl, List.all_eq_true.mp isDigit⟩

/-- What a station writes in a field of `width` characters: a number, or dots or spaces for
a value that it does not measure. -/
inductive Entry (width : Nat)
  | positive (digits : Digits width)
  | negative (digits : Digits (width - 1))
  | dots
  | spaces

def Entry.text {width : Nat} : Entry width → List Char
  | .positive digits => digits.val
  | .negative digits => '-' :: digits.val
  | .dots => List.replicate width '.'
  | .spaces => List.replicate width ' '

def Entry.value {width : Nat} : Entry width → Option ℚ
  | .positive digits => some digits.value
  | .negative digits => some (-digits.value)
  | .dots => none
  | .spaces => none

/-- A weather field: a flag of the table, other than the two rows of `'\n'`, and an entry of
the flag's width. -/
structure Field where
  item : WeatherItem
  mem : item ∈ weatherItemList
  flag_ne : item.wxFlag ≠ '\n'
  entry : Entry item.digits

def Field.text (field : Field) : List Char := field.item.wxFlag :: field.entry.text

/-- The value of a field: in hundreds or tens where the table says so, and more than 1000
for the luminosity flag `'l'`. -/
def Field.value (field : Field) : Option ℚ :=
  field.entry.value.map fun q =>
    q / field.item.factor + if field.item.wxFlag = 'l' then 1000 else 0

/-- A coordinate in degrees, minutes and hundredths of minutes. -/
structure Coordinate (t : CoordinateType) where
  degrees : Digits t.degreeLength
  minutes : Digits 2
  hundredths : Digits 2
  letter : Char
  letter_mem : letter ∈ [t.positiveChar, t.negativeChar, t.positiveChar.toLower,
    t.negativeChar.toLower]

def Coordinate.text {t : CoordinateType} (c : Coordinate t) : List Char :=
  c.degrees.val ++ (c.minutes.val ++ '.' :: c.hundredths.val ++ [c.letter])

/-- The value in degrees. -/
def Coordinate.value {t : CoordinateType} (c : Coordinate t) : ℚ :=
  let magnitude : ℚ := c.degrees.value + (c.minutes.value + c.hundredths.value / 100) / 60
  if c.letter = t.negativeChar ∨ c.letter = t.negativeChar.toLower then -magnitude else magnitude

/-- The parts of a well-formed weather report. -/
structure WeatherText where
  src : List Char
  path : List Char
  descriminator : Char
  mDateTime : List Char
  lat : Coordinate .LatitudeDDMMsss
  symTableId : Char
  lon : Coordinate .LongitudeDDMMsss
  symCode : Char
  windDirection : Entry 3
  windSpeed : Entry 3
  fields : List Field
  tail : List Char
  src_plain : '>' ∉ src ∧ ':' ∉ src
  path_plain : ':' ∉ path
  report : IsReport descriminator
  time_length : mDateTime.length = timeLength descriminator
  tail_end : tail = [] ∨ tail = ['\n'] ∨
    ∃ c rest, tail = c :: rest ∧ ∀ item ∈ weatherItemList, item.wxFlag ≠ c

namespace WeatherText

/-- The text from the wind direction on. -/
def weather (w : WeatherText) : List Char :=
  w.windDirection.text ++ ('/' :: (w.windSpeed.text ++ (w.fields.flatMap Field.text ++ w.tail)))

/-- The text from the latitude on. -/
def position (w : WeatherText) : List Char :=
  w.lat.text ++ (w.symTableId :: (w.lon.text ++ (w.symCode :: w.weather)))

/-- The packet. -/
def text (w : WeatherText) : List Char :=
  (w.src ++ '>' :: w.path) ++ (':' :: w.descriminator :: (w.mDateTime ++ w.position))

/-- The values in the order in which they are sent. -/
def sent (w : WeatherText) : List (WxSym × Option ℚ) :=
  (.WindDirection, w.windDirection.value) :: (.WindSpeed, w.windSpeed.value) ::
    w.fields.map fun field => (field.item.wxSym, field.value)

end WeatherText

/-- The last value that was sent for the slot `i`, passing over the missing ones. -/
def lastValue (sent : List (WxSym × Option ℚ)) (i : Fin weatherItemCount) : Option ℚ :=
  sent.reverse.findSome? fun v => if v.1.idx = i then v.2 else none

/-! ## Reading a number back -/

section Numbers

variable {F : Type} [CDouble F]

/-- What `numberIn` makes of the result of `strtod`. -/
theorem numberIn_of_strtod {str : List Char} {l : Literal} {n : Nat} {factor : F}
    (nonempty : str ≠ []) (nul : '\x00' ∉ str) (read : strtod str = (l, n)) :
    numberIn str factor = if n < str.length then none else some (ofLiteral l / factor) := by
  have whole : cString str = str := by
    unfold cString
    rw [List.takeWhile_eq_self_iff]
    intro c mem
    exact decide_eq_true fun equal => nul (equal ▸ mem)
  unfold numberIn strtodAll
  rw [whole, read, if_neg nonempty]
  rcases Nat.lt_or_ge n str.length with short | whole
  · simp [short]
  · simp [Nat.not_lt.mpr whole]

theorem nul_notMem_of_plain {str : List Char} (plain : ∀ c ∈ str, IsPlain c) : '\x00' ∉ str := by
  intro mem
  rcases plain _ mem with digit | point
  · revert digit
    decide
  · revert point
    decide

/-- A number in a window, divided by the factor of the window. -/
theorem ofLiteral_div (neg : Bool) (q : ℚ) {factor : ℚ} (nonzero : factor ≠ 0) :
    (ofLiteral ⟨neg, .finite q⟩ / ofRat factor : ExReal) =
      ExReal.fin (((if neg then -q else q) / factor : ℚ) : ℝ) := by
  rw [ExReal.ofLiteral_finite, ExReal.ofRat_eq, ExReal.fin_div (by exact_mod_cast nonzero)]
  push_cast
  rfl

theorem numberIn_digits {ds : List Char} (isDigit : ∀ c ∈ ds, c.isDigit) (nonempty : ds ≠ [])
    {factor : ℚ} (nonzero : factor ≠ 0) :
    (numberIn ds (ofRat factor) : Option ExReal) =
      some (ExReal.fin ((decimalValue ds / factor : ℚ) : ℝ)) := by
  have plain : ∀ c ∈ ds, IsPlain c := fun c mem => .inl (isDigit c mem)
  have read : strtod ds = (⟨false, .finite (decimalValue ds)⟩, 0 + ds.length) := by
    rw [strtod_plain plain, decimal_digits isDigit nonempty]
    rfl
  rw [numberIn_of_strtod nonempty (nul_notMem_of_plain plain) read, if_neg (by omega),
    ofLiteral_div _ _ nonzero]
  rfl

theorem numberIn_minus {ds : List Char} (isDigit : ∀ c ∈ ds, c.isDigit) (nonempty : ds ≠ [])
    {factor : ℚ} (nonzero : factor ≠ 0) :
    (numberIn ('-' :: ds) (ofRat factor) : Option ExReal) =
      some (ExReal.fin ((-decimalValue ds / factor : ℚ) : ℝ)) := by
  have plain : ∀ c ∈ ds, IsPlain c := fun c mem => .inl (isDigit c mem)
  have read : strtod ('-' :: ds) = (⟨true, .finite (decimalValue ds)⟩, 1 + ds.length) := by
    rw [strtod_minus plain, decimal_digits isDigit nonempty]
    rfl
  have nul : '\x00' ∉ '-' :: ds :=
    List.not_mem_cons_of_ne_of_not_mem (by decide) (nul_notMem_of_plain plain)
  rw [numberIn_of_strtod (List.cons_ne_nil _ _) nul read, List.length_cons, if_neg (by omega),
    ofLiteral_div _ _ nonzero]
  rfl

/-- A field with an entry of digits or a filler is read as the entry's value. -/
theorem numberIn_entry {width : Nat} (wide : 2 ≤ width) (e : Entry width) {factor : ℚ}
    (nonzero : factor ≠ 0) :
    (numberIn e.text (ofRat factor) : Option ExReal) =
      e.value.map fun q => ExReal.fin ((q / factor : ℚ) : ℝ) := by
  cases e with
  | positive digits =>
    obtain ⟨ds, length, isDigit⟩ := digits
    exact numberIn_digits isDigit (List.ne_nil_of_length_pos (by omega)) nonzero
  | negative digits =>
    obtain ⟨ds, length, isDigit⟩ := digits
    exact numberIn_minus isDigit (List.ne_nil_of_length_pos (by omega)) nonzero
  | dots =>
    have plain : ∀ c ∈ List.replicate width '.', IsPlain c :=
      fun c mem => .inr (List.eq_of_mem_replicate mem)
    have read : strtod (List.replicate width '.') = (⟨false, .finite 0⟩, 0) := by
      rw [strtod_plain plain, decimal_points]
      rfl
    have length : (List.replicate width '.').length = width := List.length_replicate
    show numberIn (List.replicate width '.') _ = _
    rw [numberIn_of_strtod (List.ne_nil_of_length_pos (by omega)) (nul_notMem_of_plain plain) read,
      if_pos (by omega)]
    rfl
  | spaces =>
    have nul : '\x00' ∉ List.replicate width ' ' := by
      intro mem
      have equal := List.eq_of_mem_replicate mem
      revert equal
      decide
    have length : (List.replicate width ' ').length = width := List.length_replicate
    show numberIn (List.replicate width ' ') _ = _
    rw [numberIn_of_strtod (List.ne_nil_of_length_pos (by omega)) nul (strtod_spaces width),
      if_pos (by omega)]
    rfl

end Numbers

/-! ## Reading a coordinate back -/

section Coordinates

variable {t : CoordinateType}

theorem Coordinate.length_text (c : Coordinate t) : c.text.length = t.width := by
  obtain ⟨⟨ds, hds, -⟩, ⟨ms, hms, -⟩, ⟨hs, hhs, -⟩, letter, mem⟩ := c
  have minuteLength : t.minuteLength = 5 := by cases t <;> rfl
  simp only [Coordinate.text, CoordinateType.width, List.length_append, List.length_cons,
    List.length_nil, hds, hms, hhs, minuteLength]

theorem safeConvertLong_degrees (digits : Digits t.degreeLength) :
    safeConvertLong digits.val = some (digits.value : Int) := by
  obtain ⟨ds, length, isDigit⟩ := digits
  have bounds : 0 < t.degreeLength ∧ t.degreeLength ≤ 3 := by cases t <;> decide
  have nonempty : ds ≠ [] := List.ne_nil_of_length_pos (by omega)
  have small : decimalValue ds < 10 ^ 3 :=
    lt_of_lt_of_le (decimalValue_lt isDigit) (Nat.pow_le_pow_right (by decide) (by omega))
  unfold safeConvertLong
  rw [if_neg nonempty, fromChars_digits isDigit nonempty (by decide) (by omega)]
  exact if_pos ⟨rfl, rfl⟩

theorem numberIn_minutes (minutes hundredths : Digits 2) :
    (numberIn (minutes.val ++ '.' :: hundredths.val) (ofRat 1) : Option ExReal) =
      some (ExReal.fin ((minutes.value + hundredths.value / 100 : ℚ) : ℝ)) := by
  obtain ⟨ms, hms, isDigit⟩ := minutes
  obtain ⟨hs, hhs, isDigit'⟩ := hundredths
  have nonempty : ms ≠ [] := List.ne_nil_of_length_pos (by omega)
  have plain : ∀ c ∈ ms ++ '.' :: hs, IsPlain c := by
    intro c mem
    rcases List.mem_append.mp mem with mem | mem
    · exact .inl (isDigit c mem)
    · rcases List.mem_cons.mp mem with rfl | mem
      · exact .inr rfl
      · exact .inl (isDigit' c mem)
  have read : strtod (ms ++ '.' :: hs) =
      (⟨false, .finite (decimalValue (ms ++ hs) / 10 ^ 2)⟩, 0 + (ms ++ '.' :: hs).length) := by
    rw [strtod_plain plain, decimal_point isDigit isDigit' (List.append_ne_nil_of_left_ne_nil nonempty _), hhs]
    rfl
  have joined : decimalValue (ms ++ hs) = 100 * decimalValue ms + decimalValue hs := by
    unfold decimalValue
    rw [Nat.ofDigitChars_append, Nat.ofDigitChars_eq_ofDigitChars_zero, hhs]
  show numberIn (ms ++ '.' :: hs) _ = _
  rw [numberIn_of_strtod (by simp) (nul_notMem_of_plain plain) read, if_neg (by omega),
    ExReal.ofLiteral_finite, ExReal.ofRat_eq, ExReal.fin_div (by norm_num), joined]
  refine congrArg (fun x => some (ExReal.fin x)) ?_
  show _ = (((decimalValue ms : ℚ) + (decimalValue hs : ℚ) / 100 : ℚ) : ℝ)
  push_cast
  ring

theorem Coordinate.toUpper_letter (c : Coordinate t) :
    c.letter.toUpper =
      if c.letter = t.negativeChar ∨ c.letter = t.negativeChar.toLower then t.negativeChar
      else t.positiveChar := by
  have mem := c.letter_mem
  generalize c.letter = letter at mem
  simp only [List.mem_cons, List.not_mem_nil, or_false] at mem
  cases t <;> rcases mem with rfl | rfl | rfl | rfl <;> decide

/-- The coordinate at the start of a text that starts with a coordinate. -/
theorem coordinateAt_text (c : Coordinate t) (rest : List Char) :
    (coordinateAt t (c.text ++ rest) : Option ExReal) = some (ExReal.fin (c.value : ℝ)) := by
  have length_degrees : c.degrees.val.length = t.degreeLength := c.degrees.property.1
  have minuteLength : t.minuteLength = 5 := by cases t <;> rfl
  have text : c.text ++ rest =
      c.degrees.val ++ ((c.minutes.val ++ '.' :: c.hundredths.val) ++ (c.letter :: rest)) := by
    unfold Coordinate.text
    simp only [List.append_assoc, List.cons_append, List.nil_append]
  have length_minutes : (c.minutes.val ++ '.' :: c.hundredths.val).length = t.minuteLength := by
    rw [List.length_append, List.length_cons, c.minutes.property.1, c.hundredths.property.1,
      minuteLength]
  have degrees : (c.text ++ rest).take t.degreeLength = c.degrees.val := by
    rw [text, List.take_left' length_degrees]
  have minutes : ((c.text ++ rest).drop t.degreeLength).take t.minuteLength =
      c.minutes.val ++ '.' :: c.hundredths.val := by
    rw [text, List.drop_left' length_degrees, List.take_left' length_minutes]
  have letter : ((c.text ++ rest).drop (t.degreeLength + t.minuteLength)).headD '\x00' =
      c.letter := by
    rw [text, ← List.drop_drop, List.drop_left' length_degrees, List.drop_left' length_minutes]
    rfl
  unfold coordinateAt
  rw [degrees, minutes, letter, safeConvertLong_degrees, numberIn_minutes, c.toUpper_letter]
  have distinct : t.negativeChar ≠ t.positiveChar := by cases t <;> decide
  simp only [coordinateValue, Option.map_some, Int.tdiv_one, ExReal.ofRat_eq,
    ExReal.fin_div (show ((60 : ℚ) : ℝ) ≠ 0 by norm_num), ExReal.fin_add, ExReal.fin_mul]
  unfold Coordinate.value
  by_cases south : c.letter = t.negativeChar ∨ c.letter = t.negativeChar.toLower
  · rw [if_pos south, if_neg distinct, if_pos rfl, if_pos south]
    push_cast
    ring_nf
  · rw [if_neg south, if_pos rfl, if_neg south]
    push_cast
    ring_nf

end Coordinates

/-! ## Reading the fields back -/

section Fields

/-- A slot holds a number exactly. -/
def exact (q : ℚ) : ExReal := .fin (q : ℝ)

theorem Entry.length_text {width : Nat} (wide : 0 < width) (e : Entry width) :
    e.text.length = width := by
  cases e with
  | positive digits => exact digits.property.1
  | negative digits =>
    have length := digits.property.1
    show digits.val.length + 1 = width
    omega
  | dots => exact List.length_replicate
  | spaces => exact List.length_replicate

/-- Every flag but `'\n'` has one row. -/
theorem findItem_wxFlag {item : WeatherItem} (mem : item ∈ weatherItemList)
    (flag_ne : item.wxFlag ≠ '\n') : findItem item.wxFlag = some item := by
  revert item
  decide

theorem item_bounds {item : WeatherItem} (mem : item ∈ weatherItemList)
    (flag_ne : item.wxFlag ≠ '\n') : 2 ≤ item.digits ∧ item.factor ≠ 0 := by
  revert item
  decide

/-- A stored value goes to its slot, and is there unless it is missing. -/
theorem storeWeatherValue_slot (wxReport : AprsWxReport ExReal) (wxSym : WxSym) (flag : Char)
    (number : Option ℚ) (i : Fin weatherItemCount) :
    (storeWeatherValue wxReport wxSym flag (number.map exact)).mWeatherValue i =
      (((if wxSym.idx = i then number.map (· + if flag = 'l' then 1000 else 0) else none).map
        exact).or (wxReport.mWeatherValue i)) := by
  cases number with
  | none => simp [storeWeatherValue]
  | some q =>
    have raised : (if flag = 'l' then exact q + ofRat 1000 else exact q) =
        exact (q + if flag = 'l' then 1000 else 0) := by
      split
      · show ExReal.fin _ = ExReal.fin _
        push_cast
        rfl
      · rw [add_zero]
    simp only [storeWeatherValue, Option.map_some, raised]
    rcases eq_or_ne i wxSym.idx with rfl | other
    · simp
    · rw [Function.update_of_ne other, if_neg other.symm]
      rfl

theorem lastValue_cons (v : WxSym × Option ℚ) (sent : List (WxSym × Option ℚ))
    (i : Fin weatherItemCount) :
    lastValue (v :: sent) i = (lastValue sent i).or (if v.1.idx = i then v.2 else none) := by
  unfold lastValue
  rw [List.reverse_cons, List.findSome?_append, List.findSome?_cons]
  cases (if v.1.idx = i then v.2 else none) <;> rfl

theorem weatherFields_text (field : Field) (rest : List Char) (wxReport : AprsWxReport ExReal) :
    weatherFields (field.text ++ rest) wxReport =
      weatherFields rest (storeWeatherValue wxReport field.item.wxSym field.item.wxFlag
        ((field.entry.value.map (· / field.item.factor)).map exact)) := by
  obtain ⟨wide, nonzero⟩ := item_bounds field.mem field.flag_ne
  have length := field.entry.length_text (by omega)
  have read := numberIn_entry wide field.entry nonzero
  unfold Field.text
  rw [List.cons_append, weatherFields, findItem_wxFlag field.mem field.flag_ne]
  simp only [weatherItem_digits field.mem, List.drop_left' length, List.take_left' length, read,
    Option.map_map]
  rfl

theorem weatherFields_tail {tail : List Char}
    (tail_end : tail = [] ∨ tail = ['\n'] ∨
      ∃ c rest, tail = c :: rest ∧ ∀ item ∈ weatherItemList, item.wxFlag ≠ c)
    (wxReport : AprsWxReport ExReal) : weatherFields tail wxReport = wxReport := by
  rcases tail_end with rfl | rfl | ⟨c, rest, rfl, other⟩
  · rw [weatherFields]
  -- '\n' is a flag of width 0: it stores nothing, and the text ends after it
  · have item : findItem '\n' = some ⟨.DewPoint, '\n', 0, "DewPt", .Celsius, 1⟩ := by decide
    rw [weatherFields, item]
    exact weatherFields.eq_1 _
  · have item : findItem c = none := by
      unfold findItem
      rw [List.find?_eq_none]
      intro item mem
      simpa using other item mem
    rw [weatherFields, item]

/-- The weather loop leaves in each slot the last value of the fields. -/
theorem weatherFields_slot (fields : List Field) {tail : List Char}
    (tail_end : tail = [] ∨ tail = ['\n'] ∨
      ∃ c rest, tail = c :: rest ∧ ∀ item ∈ weatherItemList, item.wxFlag ≠ c)
    (wxReport : AprsWxReport ExReal) (i : Fin weatherItemCount) :
    (weatherFields (fields.flatMap Field.text ++ tail) wxReport).mWeatherValue i =
      ((lastValue (fields.map fun field => (field.item.wxSym, field.value)) i).map exact).or
        (wxReport.mWeatherValue i) := by
  induction fields generalizing wxReport with
  | nil =>
    rw [List.flatMap_nil, List.nil_append, weatherFields_tail tail_end]
    rfl
  | cons field fields ih =>
    rw [List.flatMap_cons, List.append_assoc, weatherFields_text, ih, storeWeatherValue_slot,
      List.map_cons, lastValue_cons, Option.map_or, Option.or_assoc]
    simp only [Option.map_map]
    rfl

end Fields

/-! ## The round trip -/

namespace WeatherText

variable (w : WeatherText)

theorem textBefore_text : textBefore '>' w.text = w.src := by
  have none : ∀ a ∈ w.src, (decide (a ≠ '>')) = true :=
    fun a mem => decide_eq_true fun equal => w.src_plain.1 (equal ▸ mem)
  unfold textBefore WeatherText.text
  rw [List.append_assoc, List.cons_append, List.takeWhile_append_of_pos none]
  simp

theorem payload_text : payload w.text = w.descriminator :: (w.mDateTime ++ w.position) := by
  have colon : ':' ∈ w.text := List.mem_append_right _ List.mem_cons_self
  have none : ∀ a ∈ w.src ++ '>' :: w.path, (decide (a ≠ ':')) = true := by
    intro a mem
    refine decide_eq_true fun equal => ?_
    subst equal
    rcases List.mem_append.mp mem with mem | mem
    · exact w.src_plain.2 mem
    · rcases List.mem_cons.mp mem with equal | mem
      · revert equal
        decide
      · exact w.path_plain mem
  unfold payload
  rw [if_pos colon]
  unfold WeatherText.text
  rw [List.dropWhile_append_of_pos none]
  simp

theorem length_windDirection : w.windDirection.text.length = 3 :=
  w.windDirection.length_text (by decide)

theorem length_windSpeed : w.windSpeed.text.length = 3 := w.windSpeed.length_text (by decide)

theorem length_weather : 4 ≤ w.weather.length := by
  unfold weather
  rw [List.length_append, w.length_windDirection, List.length_cons]
  omega

/-- The report that `parseReport` makes of the coordinates. -/
theorem parseReport_position (mQthPosition : AprsPosition ExReal) (mRadius : Option ExReal)
    (wxReport : AprsWxReport ExReal) :
    parseReport mQthPosition mRadius w.position wxReport =
      some (weatherReport mQthPosition mRadius w.weather { wxReport with
        mLat := some (exact w.lat.value), mSymTableId := w.symTableId
        mLon := some (exact w.lon.value), mSymCode := w.symCode }) := by
  have length_lat : w.lat.text.length = 8 := w.lat.length_text
  have length_lon : w.lon.text.length = 9 := w.lon.length_text
  have length_weather := w.length_weather
  have drop_lat : w.position.drop 8 = w.symTableId :: (w.lon.text ++ (w.symCode :: w.weather)) :=
    List.drop_left' length_lat
  have drop_table : w.position.drop 9 = w.lon.text ++ (w.symCode :: w.weather) := by
    rw [show 9 = 8 + 1 from rfl, ← List.drop_drop, drop_lat]
    rfl
  have drop_lon : w.position.drop 18 = w.symCode :: w.weather := by
    rw [show 18 = 9 + 9 from rfl, ← List.drop_drop, drop_table, List.drop_left' length_lon]
  have drop_code : w.position.drop 19 = w.weather := by
    rw [show 19 = 18 + 1 from rfl, ← List.drop_drop, drop_lon]
    rfl
  have length : 23 ≤ w.position.length := by
    unfold position
    simp only [List.length_append, List.length_cons, length_lat, length_lon]
    omega
  have lat : (coordinateAt .LatitudeDDMMsss w.position : Option ExReal) =
      some (exact w.lat.value) := coordinateAt_text w.lat _
  have lon : (coordinateAt .LongitudeDDMMsss (w.position.drop 9) : Option ExReal) =
      some (exact w.lon.value) := by
    rw [drop_table]
    exact coordinateAt_text w.lon _
  unfold parseReport
  simp only [if_neg (show ¬ w.position.length < 7 by omega),
    if_neg (show ¬ w.position.length < 17 by omega),
    if_neg (show ¬ w.position.length < 23 by omega), lat, lon, drop_lat, drop_lon, drop_code,
    List.headD_cons]

/-- The last of the wind values and of the fields is in each slot. -/
theorem weatherReport_slot (mQthPosition : AprsPosition ExReal) (mRadius : Option ExReal)
    (wxReport : AprsWxReport ExReal) (empty : wxReport.mWeatherValue = fun _ => none)
    (i : Fin weatherItemCount) :
    (weatherReport mQthPosition mRadius w.weather wxReport).mWeatherValue i =
      (lastValue w.sent i).map exact := by
  have direction : w.weather.take 3 = w.windDirection.text :=
    List.take_left' w.length_windDirection
  have speed : (w.weather.drop 4).take 3 = w.windSpeed.text := by
    unfold weather
    rw [show 4 = 3 + 1 from rfl, ← List.drop_drop, List.drop_left' w.length_windDirection]
    exact List.take_left' w.length_windSpeed
  have rest : w.weather.drop 7 = w.fields.flatMap Field.text ++ w.tail := by
    unfold weather
    rw [show 7 = 3 + (1 + 3) from rfl, ← List.drop_drop, List.drop_left' w.length_windDirection,
      ← List.drop_drop]
    exact List.drop_left' w.length_windSpeed
  have read : ∀ e : Entry 3, (numberIn e.text (ofRat 1) : Option ExReal) = e.value.map exact := by
    intro e
    rw [numberIn_entry (by decide) e one_ne_zero]
    simp only [div_one]
    rfl
  -- the wind values are stored without a flag, so nothing is added to them
  have flagless : ∀ number : Option ℚ,
      number.map (· + if '\x00' = 'l' then 1000 else 0) = number := by
    intro number
    cases number <;> simp
  show (weatherFields (w.weather.drop 7) (windValues w.weather wxReport)).mWeatherValue i = _
  rw [rest, weatherFields_slot w.fields w.tail_end]
  unfold windValues
  rw [direction, speed, read, read, storeWeatherValue_slot, storeWeatherValue_slot, empty,
    flagless, flagless]
  unfold sent
  rw [lastValue_cons, lastValue_cons, Option.map_or, Option.map_or, Option.or_none,
    Option.or_assoc]

/-- The report with the coordinates of `w`, before its weather. -/
def header (now : Int) : AprsWxReport ExReal :=
  { mName := w.src, mTimePoint := now, mDateTime := w.mDateTime
    mLat := some (exact w.lat.value), mSymTableId := w.symTableId
    mLon := some (exact w.lon.value), mSymCode := w.symCode }

theorem parse_text (now : Int) (mQthPosition : AprsPosition ExReal) (mRadius : Option ExReal) :
    parse now mQthPosition mRadius (textBefore '>' w.text) (payload w.text) =
      some (.report (weatherReport mQthPosition mRadius w.weather (w.header now))) := by
  have stamp : (w.mDateTime ++ w.position).take (timeLength w.descriminator) = w.mDateTime :=
    List.take_left' w.time_length
  have position : (w.mDateTime ++ w.position).drop (timeLength w.descriminator) = w.position :=
    List.drop_left' w.time_length
  rw [w.textBefore_text, w.payload_text]
  unfold parse
  simp only [if_pos w.report, stamp, position, w.parseReport_position, Option.map_some, header]

end WeatherText

/-- Decoding the text of a report gives its parts: `decode` of a packet that is the text of
`w` returns a weather report with the name, the time stamp, the symbol characters and
the coordinates of `w`, and in each slot the last value that was sent for it. -/
theorem decode_weatherText (now : Int) (s : AprsIs ExReal) (w : WeatherText) (packet : StdString)
    (sent : packet.chars = w.text) :
    ∃ r t, (decode now).run (s.received packet) = .ok (.report r) t ∧
      r.mPacketStatus = .WxPacket ∧
      r.mName = w.src ∧
      r.mDateTime = w.mDateTime ∧
      r.mSymTableId = w.symTableId ∧
      r.mSymCode = w.symCode ∧
      r.mLat = some (exact w.lat.value) ∧
      r.mLon = some (exact w.lon.value) ∧
      ∀ i, r.mWeatherValue i = (lastValue w.sent i).map exact := by
  have parsed := w.parse_text now s.mQthPosition s.mRadius
  rw [← sent] at parsed
  obtain ⟨t, returned⟩ := decode_of_parse parsed
  obtain ⟨packet, mLat, mLon, mDateTime⟩ :=
    weatherReport_frame s.mQthPosition s.mRadius w.weather (w.header now)
  exact ⟨_, t, returned, congrArg AprsPacket.mPacketStatus packet,
    congrArg AprsPacket.mName packet, mDateTime, congrArg AprsPacket.mSymTableId packet,
    congrArg AprsPacket.mSymCode packet, mLat, mLon,
    w.weatherReport_slot s.mQthPosition s.mRadius _ rfl⟩

def Digits.zeros : Digits 2 := .of ['0', '0'] rfl

/-- A coordinate of whole degrees, on the positive side. -/
def Coordinate.whole {t : CoordinateType} (degrees : Digits t.degreeLength) : Coordinate t :=
  ⟨degrees, .zeros, .zeros, t.positiveChar, List.mem_cons_self⟩

/-- A report without values. -/
def WeatherText.still (lat : Coordinate .LatitudeDDMMsss) (lon : Coordinate .LongitudeDDMMsss) :
    WeatherText where
  src := "A".toList
  path := "B".toList
  descriminator := '!'
  mDateTime := []
  lat := lat
  symTableId := '/'
  lon := lon
  symCode := '_'
  windDirection := .spaces
  windSpeed := .spaces
  fields := []
  tail := ['\n']
  src_plain := by decide
  path_plain := by decide
  report := by decide
  time_length := by decide
  tail_end := .inr (.inl rfl)

/-- A report with a missing gust and two temperatures. -/
def sampleText : WeatherText where
  src := "CW0003".toList
  path := "APRS,TCPIP*".toList
  descriminator := '@'
  mDateTime := "092345z".toList
  lat := ⟨.of ['4', '9'] rfl, .of ['0', '3'] rfl, .of ['5', '0'] rfl, 'N', by decide⟩
  symTableId := '/'
  lon := ⟨.of ['0', '7', '2'] rfl, .of ['1', '5'] rfl, .of ['0', '0'] rfl, 'w', by decide⟩
  symCode := '_'
  windDirection := .positive (.of ['2', '2', '0'] rfl)
  windSpeed := .spaces
  fields :=
    [ ⟨⟨.WindGust, 'g', 3, "WGust", .MPH, 1⟩, by decide, by decide, .dots⟩,
      ⟨⟨.Temperature, 't', 3, "Temp", .Fahrenheit, 1⟩, by decide, by decide,
        .positive (.of ['0', '7', '7'] rfl)⟩,
      ⟨⟨.Temperature, 't', 3, "Temp", .Fahrenheit, 1⟩, by decide, by decide,
        .negative (.of ['0', '5'] rfl)⟩,
      ⟨⟨.Luminosity, 'l', 3, "Lumin", .wPSqm, 1⟩, by decide, by decide,
        .positive (.of ['0', '2', '3'] rfl)⟩ ]
  tail := ['\n']
  src_plain := by decide
  path_plain := by decide
  report := by decide
  time_length := by decide
  tail_end := .inr (.inl rfl)

/-- A report of a temperature and a humidity. -/
def dampText : WeatherText where
  src := "W".toList
  path := "A".toList
  descriminator := '!'
  mDateTime := []
  lat := ⟨.of ['4', '5'] rfl, .zeros, .zeros, 'N', by decide⟩
  symTableId := '/'
  lon := ⟨.of "075".toList rfl, .zeros, .zeros, 'W', by decide⟩
  symCode := '_'
  windDirection := .positive (.of ['0', '0', '0'] rfl)
  windSpeed := .positive (.of ['0', '0', '0'] rfl)
  fields :=
    [ ⟨⟨.Temperature, 't', 3, "Temp", .Fahrenheit, 1⟩, by decide, by decide,
        .positive (.of ['0', '7', '7'] rfl)⟩,
      ⟨⟨.Humidity, 'h', 2, "RelHum", .Percent, 1⟩, by decide, by decide,
        .positive (.of ['5', '0'] rfl)⟩ ]
  tail := ['\n']
  src_plain := by decide
  path_plain := by decide
  report := by decide
  time_length := by decide
  tail_end := .inr (.inl rfl)

def samplePacket : StdString :=
  ⟨"CW0003>APRS,TCPIP*:@092345z4903.50N/07215.00w_220/   g...t077t-05l023\n".toList, by decide⟩

def sampleStation : AprsIs ExReal :=
  { mCallSign := "N0CALL".toList, mPassCode := "12345".toList, mFilter := []
    mQthPosition := { mTimePoint := 0 } }

theorem decode_sampleText : ∃ r t,
    (decode 0).run (sampleStation.received samplePacket) = .ok (.report r) t ∧
      r.mPacketStatus = .WxPacket ∧ r.mName = "CW0003".toList ∧ r.mSymCode = '_' ∧
      r.mLon = some (exact (-(72 + 1 / 4))) ∧
      r.mWeatherValue WxSym.WindDirection.idx = some (exact 220) ∧
      r.mWeatherValue WxSym.WindSpeed.idx = none ∧
      r.mWeatherValue WxSym.WindGust.idx = none ∧
      r.mWeatherValue WxSym.Temperature.idx = some (exact (-5)) ∧
      r.mWeatherValue WxSym.Luminosity.idx = some (exact 1023) := by
  obtain ⟨r, t, returned, status, name, -, -, code, -, lon, slots⟩ :=
    decode_weatherText 0 sampleStation sampleText samplePacket (by decide)
  have value : ∀ (wxSym : WxSym) (q : Option ℚ), lastValue sampleText.sent wxSym.idx = q →
      r.mWeatherValue wxSym.idx = q.map exact := by
    rintro wxSym q rfl
    exact slots wxSym.idx
  refine ⟨r, t, returned, status, name, code, ?_, value _ (some 220) ?_, value _ none ?_,
    value _ none ?_, value _ (some (-5)) ?_, value _ (some 1023) ?_⟩
  · rw [lon]
    exact congrArg (fun q => some (exact q)) (by decide +kernel)
  all_goals decide +kernel

end AprsWx
