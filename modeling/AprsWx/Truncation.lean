import AprsWx.Payload

/-!
# Truncated reports

Where a report may be cut off. The decoder moves its cursor by fixed widths and tests
nothing in between, so it returns on a text exactly when the text holds the fields it
asks for: every field up to the first one that does not convert.

* `IsCoordinate`: a latitude or longitude is spelled out at the start of a text.
* `Complete`: a packet is nowhere cut off.
* `decode_returns_iff`: `decode` returns on the complete packets and on no others.
-/

namespace AprsWx

open Double Numeral Prog

variable {F : Type} [CDouble F]

/-! ## The condition -/

/-- All of `str` is a numeral, or a numeral up to its first `'\0'`. -/
def IsNumeral (str : List Char) : Prop := str ≠ [] ∧ str.length ≤ (strtod (cString str)).2

instance (str : List Char) : Decidable (IsNumeral str) := inferInstanceAs (Decidable (_ ∧ _))

/-- Degrees, minutes and a hemisphere letter are spelled out at the start of `text`. -/
def IsCoordinate (t : CoordinateType) (text : List Char) : Prop :=
  (safeConvertLong (text.take t.degreeLength)).isSome ∧
    IsNumeral ((text.drop t.degreeLength).take t.minuteLength) ∧
    let c := ((text.drop (t.degreeLength + t.minuteLength)).headD '\x00').toUpper
    c = t.positiveChar ∨ c = t.negativeChar

instance (t : CoordinateType) (text : List Char) : Decidable (IsCoordinate t text) :=
  inferInstanceAs (Decidable (_ ∧ _ ∧ (_ ∨ _)))

/-- The text of a report, from the latitude on, is long enough: for the latitude, then for
the symbol table and the longitude where the latitude is one, and then for the symbol
code, the wind direction and the character after it where the longitude is one. The end
of the text may take the place of the hemisphere letter. -/
def CompleteReport (text : List Char) : Prop :=
  7 ≤ text.length ∧ (IsCoordinate .LatitudeDDMMsss text →
    17 ≤ text.length ∧ (IsCoordinate .LongitudeDDMMsss (text.drop 9) → 23 ≤ text.length))

/-- A packet is complete: a report, which starts with one of the four discriminators, is
long enough after its time stamp. -/
def Complete (packet : List Char) : Prop :=
  match payload packet with
  | [] => True
  | descriminator :: text =>
    IsReport descriminator → CompleteReport (text.drop (timeLength descriminator))

instance (text : List Char) : Decidable (CompleteReport text) :=
  inferInstanceAs (Decidable (_ ∧ (_ → _ ∧ (_ → _))))

instance (packet : List Char) : Decidable (Complete packet) := by
  unfold Complete
  exact match payload packet with
    | [] => isTrue trivial
    | _ :: _ => inferInstanceAs (Decidable (_ → _))

/-! ## Where the parser returns -/

theorem numberIn_isSome {str : List Char} {factor : F} :
    (numberIn str factor).isSome ↔ IsNumeral str := by
  unfold numberIn IsNumeral strtodAll
  by_cases empty : str = []
  · simp [empty]
  · by_cases short : (strtod (cString str)).2 < str.length
    · simp [empty, short]
    · simp [empty, short, Nat.not_lt.mp short]

theorem coordinateValue_isSome {t : CoordinateType} {degrees : Option Int} {minutes : Option F}
    {c : Char} : (coordinateValue t degrees minutes c).isSome ↔
      degrees.isSome ∧ minutes.isSome ∧ (c = t.positiveChar ∨ c = t.negativeChar) := by
  unfold coordinateValue
  cases degrees with
  | none => simp
  | some degrees =>
    cases minutes with
    | none => simp
    | some minutes =>
      by_cases positive : c = t.positiveChar
      · simp [positive]
      · by_cases negative : c = t.negativeChar
        · simp [negative, apply_ite Option.isSome]
        · simp [positive, negative]

theorem coordinateAt_isSome {t : CoordinateType} {text : List Char} :
    (coordinateAt t text : Option F).isSome ↔ IsCoordinate t text := by
  unfold coordinateAt IsCoordinate
  rw [coordinateValue_isSome, numberIn_isSome, Option.isSome_map]

theorem parseReport_isSome (mQthPosition : AprsPosition F) (mRadius : Option F) (text : List Char)
    (wxReport : AprsWxReport F) :
    (parseReport mQthPosition mRadius text wxReport).isSome ↔ CompleteReport text := by
  unfold parseReport CompleteReport
  rw [← coordinateAt_isSome (F := F), ← coordinateAt_isSome (F := F)]
  rcases Nat.lt_or_ge text.length 7 with cut | latitude
  · simp [cut, Nat.not_le.mpr cut]
  cases (coordinateAt .LatitudeDDMMsss text : Option F) with
  | none => simp [latitude, Nat.not_lt.mpr latitude]
  | some mLat =>
    rcases Nat.lt_or_ge text.length 17 with cut | longitude
    · simp [cut, Nat.not_le.mpr cut, Nat.not_lt.mpr latitude]
    cases (coordinateAt .LongitudeDDMMsss (text.drop 9) : Option F) with
    | none => simp [latitude, longitude, Nat.not_lt.mpr latitude, Nat.not_lt.mpr longitude]
    | some mLon =>
      rcases Nat.lt_or_ge text.length 23 with cut | wind
      · simp [cut, Nat.not_le.mpr cut, Nat.not_lt.mpr latitude, Nat.not_lt.mpr longitude]
      · simp [latitude, longitude, wind, Nat.not_lt.mpr latitude, Nat.not_lt.mpr longitude,
          Nat.not_lt.mpr wind]

theorem parse_isSome (now : Int) (mQthPosition : AprsPosition F) (mRadius : Option F)
    (name packet : List Char) :
    (parse now mQthPosition mRadius name (payload packet)).isSome ↔ Complete packet := by
  unfold Complete
  cases payload packet with
  | nil => simp [parse]
  | cons descriminator text =>
    unfold parse
    by_cases report : IsReport descriminator
    · simp [report, parseReport_isSome]
    · simp [report]

/-! ## Where decode returns -/

/-- `decode` of a received packet returns exactly when the packet is complete. -/
theorem decode_returns_iff (now : Int) (s : AprsIs F) (packet : StdString) :
    (∃ d t, (decode now).run (s.received packet) = .ok d t) ↔ Complete packet.chars := by
  rw [← parse_isSome now s.mQthPosition s.mRadius (textBefore '>' packet.chars),
    Option.isSome_iff_exists]
  constructor
  · rintro ⟨d, t, returned⟩
    exact ⟨d, parse_of_decode returned⟩
  · rintro ⟨d, parsed⟩
    exact ⟨d, decode_of_parse parsed⟩

/-! ## Lines -/

/-- What `getPacket` can deliver to `decode`: a text without `'\r'` that ends in its only
`'\n'` and does not start with `'#'`. -/
def IsLine (packet : List Char) : Prop :=
  ∃ body, packet = body ++ ['\n'] ∧ '\n' ∉ body ∧ '\r' ∉ body ∧ body.head? ≠ some '#'

/-- A line that ends after its discriminator. -/
def shortLine : StdString := ⟨"A>B:!\n".toList, by decide⟩

/-- `substr` throws for the minutes of the latitude. -/
theorem decode_shortLine_throws : IsLine shortLine.chars ∧ ∀ (now : Int) (s : AprsIs ExReal),
    ∃ t, (decode now).run (s.received shortLine) = .error (.thrown .outOfRange) t :=
  ⟨⟨"A>B:!".toList, by decide, by decide, by decide, by decide⟩, fun _ _ => ⟨_, rfl⟩⟩

end AprsWx
