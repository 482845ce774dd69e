import Mathlib.Data.Int.Log
import Mathlib.Data.List.DropRight
import Mathlib.Data.Rat.Floor
import Mathlib.Tactic.FieldSimp
import Mathlib.Tactic.Ring
import AprsWx.Lib.Grammar

/-!
# Number texts

How a C++ stream writes a floating number: `%g` of `printf`, with the default notation of
a stream. A number is rounded to its first digits, a tie to the even one, and written
with a point or with an exponent; zeros at the end of the fraction are left out.

`strtod` takes such a text whole and reads the rounded number (`strtod_streamText`), which
is within half a unit of the last digit (`rounded_error`).
-/

namespace Numeral

/-! ## Rounding -/

/-- The integer nearest to `q`, of two the even one. -/
def roundEven (q : ℚ) : ℕ :=
  let n := ⌊q⌋₊
  if q - n < 1 / 2 then n
  else if 1 / 2 < q - n then n + 1
  else n + n % 2

/-- The first `d + 1` digits of `q`, as one number, and the power of ten of the first. -/
def scientific (d : ℕ) (q : ℚ) : ℕ × ℤ :=
  let x := Int.log 10 q
  let m := roundEven (q * 10 ^ (d - x))
  -- a carry out of the first digit leaves zeros after a one
  if m = 10 ^ (d + 1) then (10 ^ d, x + 1) else (m, x)

/-- `q` to `d + 1` digits. -/
def roundTo (d : ℕ) (q : ℚ) : ℚ := (scientific d q).1 * 10 ^ ((scientific d q).2 - d)

theorem roundEven_error {q : ℚ} (nonneg : 0 ≤ q) : |(roundEven q : ℚ) - q| ≤ 1 / 2 := by
  have low := Nat.floor_le nonneg
  have high := Nat.lt_floor_add_one q
  have parity : ((⌊q⌋₊ % 2 : ℕ) : ℚ) ≤ 1 := by
    exact_mod_cast Nat.le_of_lt_succ (Nat.mod_lt _ (by decide))
  have parity' : (0 : ℚ) ≤ ((⌊q⌋₊ % 2 : ℕ) : ℚ) := Nat.cast_nonneg _
  unfold roundEven
  dsimp only
  split_ifs <;> push_cast at * <;> rw [abs_le] <;> constructor <;> linarith

theorem roundEven_zero : roundEven 0 = 0 := by
  unfold roundEven
  simp

section Scientific

variable {d : ℕ} {q : ℚ}

theorem scientific_zero : scientific d 0 = (0, 0) := by
  have apart : (0 : ℕ) ≠ 10 ^ (d + 1) := (Nat.pow_pos (by decide)).ne
  unfold scientific
  rw [Int.log_zero_right]
  dsimp only
  rw [zero_mul, roundEven_zero]
  exact if_neg apart

/-- The carry does not change the number. -/
theorem roundTo_eq (d : ℕ) (q : ℚ) :
    roundTo d q = roundEven (q * 10 ^ (d - Int.log 10 q)) * 10 ^ (Int.log 10 q - d) := by
  unfold roundTo scientific
  dsimp only
  split
  · next carry =>
    rw [carry]
    push_cast
    rw [← zpow_natCast, ← zpow_natCast, ← zpow_add₀ (by norm_num), ← zpow_add₀ (by norm_num)]
    congr 1
    push_cast
    ring
  · rfl

/-- The rounded number is within half a unit of the last digit of the number. -/
theorem rounded_error (d : ℕ) {q : ℚ} (nonneg : 0 ≤ q) : |roundTo d q - q| ≤ q / (2 * 10 ^ d) := by
  rcases nonneg.eq_or_lt with rfl | positive
  · unfold roundTo
    rw [scientific_zero]
    simp
  · have ulp : (0 : ℚ) < 10 ^ (Int.log 10 q - d) := zpow_pos (by norm_num) _
    have scale : (0 : ℚ) < 10 ^ (d - Int.log 10 q) := zpow_pos (by norm_num) _
    have inverse : (10 : ℚ) ^ (d - Int.log 10 q) * 10 ^ (Int.log 10 q - d) = 1 := by
      rw [← zpow_add₀ (by norm_num), sub_add_sub_cancel, sub_self, zpow_zero]
    have error := roundEven_error (mul_nonneg nonneg scale.le)
    have unit : (10 : ℚ) ^ (Int.log 10 q - d) ≤ q / 10 ^ d := by
      rw [le_div_iff₀ (by positivity), ← zpow_natCast, ← zpow_add₀ (by norm_num), sub_add_cancel]
      exact_mod_cast Int.zpow_log_le_self (b := 10) (by decide) positive
    calc |roundTo d q - q|
        = |(roundEven (q * 10 ^ (d - Int.log 10 q)) : ℚ) - q * 10 ^ (d - Int.log 10 q)| *
            10 ^ (Int.log 10 q - d) := by
          rw [roundTo_eq, ← abs_of_pos ulp, ← abs_mul, abs_of_pos ulp, sub_mul, mul_assoc, inverse,
            mul_one]
      _ ≤ 1 / 2 * 10 ^ (Int.log 10 q - d) := mul_le_mul_of_nonneg_right error ulp.le
      _ ≤ 1 / 2 * (q / 10 ^ d) := mul_le_mul_of_nonneg_left unit (by norm_num)
      _ = q / (2 * 10 ^ d) := by field_simp

end Scientific

/-! ## Texts -/

/-- The digits of `n`, at least `width` of them. -/
def paddedDigits (width n : ℕ) : List Char := (Nat.toDigits 10 n).leftpad width '0'

/-- The fraction with its point, if anything is left of it without the zeros at its end. -/
def pointed (frac : List Char) : List Char :=
  match frac.rdropWhile (· = '0') with
  | [] => []
  | c :: cs => '.' :: c :: cs

/-- The digits of `n` with a point before the last `k` of them. -/
def positional (k n : ℕ) : List Char :=
  let ds := paddedDigits (k + 1) n
  ds.take (ds.length - k) ++ pointed (ds.drop (ds.length - k))

/-- The exponent part, of at least two digits. -/
def exponentText (x : ℤ) : List Char :=
  'e' :: (if x < 0 then ['-'] else ['+']) ++ paddedDigits 2 x.natAbs

/-- `q` to `d + 1` digits: with an exponent where the point would be far from the digits. -/
def general (d : ℕ) (q : ℚ) : List Char :=
  let (m, x) := scientific d q
  if -4 ≤ x ∧ x ≤ d then positional (d - x).toNat m
  else positional d m ++ exponentText x

/-- How a stream of this precision writes a number; no precision at all is that of one
digit. -/
def streamText (precision : ℕ) (l : Literal) : List Char :=
  (if l.neg then ['-'] else []) ++ match l.magnitude with
    | .finite q => general (precision - 1) q
    | .infinity => "inf".toList
    | .nan => "nan".toList

/-- The number that is written. -/
def Literal.rounded (precision : ℕ) (l : Literal) : Literal :=
  match l.magnitude with
  | .finite q => { l with magnitude := .finite (roundTo (precision - 1) q) }
  | _ => l

/-- What the values of a floating type denote. -/
structure Meaning (F : Type) where
  literal : F → Literal
  nonneg : ∀ x q, (literal x).magnitude = .finite q → 0 ≤ q

/-- How a stream writes a value of a floating type. -/
abbrev Meaning.text {F : Type} (M : Meaning F) (precision : ℕ) (x : F) : List Char :=
  streamText precision (M.literal x)

/-! ### Digits -/

theorem paddedDigits_isDigit {width n : ℕ} : ∀ c ∈ paddedDigits width n, c.isDigit := by
  intro c mem
  rcases List.mem_append.mp mem with zero | digit
  · rw [List.eq_of_mem_replicate zero]
    rfl
  · exact Nat.isDigit_of_mem_toDigits (by decide) (by decide) digit

theorem le_length_paddedDigits (width n : ℕ) : width ≤ (paddedDigits width n).length := by
  unfold paddedDigits
  rw [List.length_leftpad]
  exact le_max_left _ _

theorem decimalValue_paddedDigits (width n : ℕ) : decimalValue (paddedDigits width n) = n := by
  unfold decimalValue paddedDigits List.leftpad
  rw [Nat.ofDigitChars_append, Nat.ofDigitChars_replicate_zero, Nat.mul_zero,
    Nat.ofDigitChars_ten_toDigits]

theorem decimalValue_append (ds fs : List Char) :
    decimalValue (ds ++ fs) = 10 ^ fs.length * decimalValue ds + decimalValue fs := by
  unfold decimalValue
  rw [Nat.ofDigitChars_append, Nat.ofDigitChars_eq_ofDigitChars_zero]

/-- What is left of a fraction, and the zeros that are left out. -/
theorem rdropWhile_zeros (frac : List Char) :
    ∃ n, frac = frac.rdropWhile (· = '0') ++ List.replicate n '0' := by
  refine ⟨(frac.rtakeWhile (· = '0')).length, ?_⟩
  have zeros : frac.rtakeWhile (· = '0') =
      List.replicate (frac.rtakeWhile (· = '0')).length '0' := by
    refine List.eq_replicate_iff.mpr ⟨rfl, fun c mem => ?_⟩
    have zero := List.mem_rtakeWhile_imp (p := fun c => decide (c = '0')) mem
    exact of_decide_eq_true zero
  rw [← zeros, List.rdropWhile_append_rtakeWhile]

/-- The zeros at the end of a fraction do not count. -/
theorem decimalValue_rdropWhile (whole frac : List Char) :
    (decimalValue (whole ++ frac.rdropWhile (· = '0')) : ℚ) /
        10 ^ (frac.rdropWhile (· = '0')).length =
      decimalValue (whole ++ frac) / 10 ^ frac.length := by
  obtain ⟨n, split⟩ := rdropWhile_zeros frac
  generalize frac.rdropWhile (· = '0') = fs at split ⊢
  subst split
  have zeros : decimalValue (List.replicate n '0') = 0 := Nat.ofDigitChars_replicate_zero
  rw [← List.append_assoc, decimalValue_append (whole ++ fs), zeros, List.length_append,
    List.length_replicate, pow_add]
  push_cast
  field_simp
  ring

/-! ### What strtod reads -/

section

variable {ds fs rest : List Char}

theorem mantissa_whole (digits : ∀ c ∈ ds, c.isDigit) (nonempty : ds ≠ [])
    (stop : ∀ c ∈ rest.head?, c.isDigit = false ∧ c ≠ '.') :
    mantissa Char.isDigit (ds ++ rest) = some ⟨ds, [], ds.length⟩ := by
  unfold mantissa
  dsimp only
  rw [takeWhile_append_stop digits fun c mem => (stop c mem).1, List.drop_left]
  split
  · next rest' => exact absurd rfl (stop '.' rfl).2
  · rw [if_neg (by simpa using nonempty)]

theorem mantissa_point (digits : ∀ c ∈ ds, c.isDigit) (digits' : ∀ c ∈ fs, c.isDigit)
    (nonempty : ds ≠ []) (stop : ∀ c ∈ rest.head?, c.isDigit = false ∧ c ≠ '.') :
    mantissa Char.isDigit (ds ++ '.' :: fs ++ rest) = some ⟨ds, fs, (ds ++ '.' :: fs).length⟩ := by
  have whole : (ds ++ '.' :: (fs ++ rest)).takeWhile Char.isDigit = ds :=
    takeWhile_append_stop digits (by rintro c ⟨⟩; decide)
  have frac : (fs ++ rest).takeWhile Char.isDigit = fs :=
    takeWhile_append_stop digits' fun c mem => (stop c mem).1
  rw [List.append_assoc, List.cons_append]
  unfold mantissa
  dsimp only
  rw [whole, List.drop_left]
  simp only [frac]
  rw [if_neg (by simp [nonempty]), List.length_append, List.length_cons, Nat.add_assoc,
    Nat.add_comm 1]

/-- The mantissa that is read of digits with a fraction. -/
theorem mantissa_pointed (digits : ∀ c ∈ ds, c.isDigit) (digits' : ∀ c ∈ fs, c.isDigit)
    (nonempty : ds ≠ []) (stop : ∀ c ∈ rest.head?, c.isDigit = false ∧ c ≠ '.') :
    ∃ m, mantissa Char.isDigit (ds ++ pointed fs ++ rest) = some m ∧
      m.length = (ds ++ pointed fs).length ∧
      (decimalValue (m.whole ++ m.frac) : ℚ) / 10 ^ m.frac.length =
        decimalValue (ds ++ fs) / 10 ^ fs.length := by
  have same := decimalValue_rdropWhile ds fs
  have inside : ∀ c ∈ fs.rdropWhile (· = '0'), c.isDigit := fun c mem =>
    digits' c ((List.rdropWhile_prefix _ _).subset mem)
  unfold pointed
  generalize fs.rdropWhile (· = '0') = kept at same inside
  cases kept with
  | nil =>
    rw [List.append_nil]
    exact ⟨_, mantissa_whole digits nonempty stop, rfl, same⟩
  | cons c cs => exact ⟨_, mantissa_point digits inside nonempty stop, rfl, same⟩

theorem isMantissa_pointed (digits : ∀ c ∈ ds, c.isDigit) (digits' : ∀ c ∈ fs, c.isDigit)
    (nonempty : ds ≠ []) : IsMantissa Char.isDigit (ds ++ pointed fs) := by
  have inside : ∀ c ∈ fs.rdropWhile (· = '0'), c.isDigit := fun c mem =>
    digits' c ((List.rdropWhile_prefix _ _).subset mem)
  unfold pointed
  generalize fs.rdropWhile (· = '0') = kept at inside
  cases kept with
  | nil =>
    rw [List.append_nil]
    exact .whole digits nonempty
  | cons c cs => exact .point digits inside (List.append_ne_nil_of_left_ne_nil nonempty _)

end

/-- An exponent part as a text, and the power that is read of it. -/
structure IsPower (x : ℤ) (e : List Char) : Prop where
  isExponent : IsExponent 'e' e
  read : exponent 'e' e = (x, e.length)

theorem isPower_absent : IsPower 0 [] := ⟨.absent, rfl⟩

theorem exponent_part {mark c : Char} {sgn ds : List Char} (letter : c.toLower = mark)
    (isSign : IsSign sgn) (digits : ∀ d ∈ ds, d.isDigit) (nonempty : ds ≠ []) :
    exponent mark (c :: (sgn ++ ds)) =
      (if sgn = ['-'] then -(decimalValue ds : ℤ) else decimalValue ds, (c :: (sgn ++ ds)).length) := by
  have first : ∀ d ∈ ds.head?, d ≠ '-' ∧ d ≠ '+' := fun d mem =>
    IsPlain.not_sign (.inl (digits d (List.mem_of_mem_head? mem)))
  have length : (c :: (sgn ++ ds)).length = 1 + sgn.length + ds.length := by
    rw [List.length_cons, List.length_append]
    omega
  unfold exponent
  dsimp only
  rw [sign_complete isSign first]
  dsimp only
  rw [List.drop_left, takeWhile_digits digits, if_pos ⟨letter, nonempty⟩, length]
  simp only [decide_eq_true_eq]

theorem isPower_exponentText (x : ℤ) : IsPower x (exponentText x) := by
  have digits : ∀ c ∈ paddedDigits 2 x.natAbs, c.isDigit := paddedDigits_isDigit
  have nonempty : paddedDigits 2 x.natAbs ≠ [] :=
    List.ne_nil_of_length_pos (Nat.lt_of_lt_of_le Nat.two_pos (le_length_paddedDigits 2 _))
  have isSign : IsSign (if x < 0 then ['-'] else ['+']) := by
    split
    · exact .minus
    · exact .plus
  refine ⟨.part rfl isSign digits nonempty, (exponent_part rfl isSign digits nonempty).trans ?_⟩
  refine Prod.ext ?_ rfl
  show (if (if x < 0 then ['-'] else ['+']) = ['-'] then -(decimalValue _ : ℤ) else decimalValue _) = x
  rw [decimalValue_paddedDigits]
  by_cases negative : x < 0
  · rw [if_pos negative, if_pos rfl]
    omega
  · rw [if_neg negative, if_neg (by decide)]
    omega

/-- A text is a decimal numeral, and `q` is what it denotes. -/
structure IsDecimal (q : ℚ) (text : List Char) : Prop where
  isUnsigned : IsUnsigned text
  read : unsignedNumeral text = some (.finite q, text.length)

theorem isDecimal_positional (k n : ℕ) {x : ℤ} {e : List Char} (power : IsPower x e) :
    IsDecimal (n * 10 ^ (x - k)) (positional k n ++ e) := by
  have digits : ∀ c ∈ paddedDigits (k + 1) n, c.isDigit := paddedDigits_isDigit
  have width := le_length_paddedDigits (k + 1) n
  have value := decimalValue_paddedDigits (k + 1) n
  unfold positional
  generalize paddedDigits (k + 1) n = ds at digits width value
  have split := List.take_append_drop (ds.length - k) ds
  have length : (ds.drop (ds.length - k)).length = k := by
    rw [List.length_drop]
    omega
  have nonempty : ds.take (ds.length - k) ≠ [] := by
    refine List.ne_nil_of_length_pos ?_
    rw [List.length_take]
    omega
  have whole : ∀ c ∈ ds.take (ds.length - k), c.isDigit := fun c mem =>
    digits c (List.mem_of_mem_take mem)
  have frac : ∀ c ∈ ds.drop (ds.length - k), c.isDigit := fun c mem =>
    digits c (List.mem_of_mem_drop mem)
  dsimp only
  generalize ds.take (ds.length - k) = us at *
  generalize ds.drop (ds.length - k) = fs at *
  have isMantissa := isMantissa_pointed whole frac nonempty
  refine ⟨.decimal isMantissa power.isExponent, ?_⟩
  obtain ⟨m, read, taken, same⟩ := mantissa_pointed whole frac nonempty
    (power.isExponent.stop fun c => not_digit_of_letter)
  rw [unsignedNumeral_other (decimal_other isMantissa power.isExponent)]
  unfold decimal
  rw [read]
  dsimp only
  rw [taken, List.drop_left, power.read]
  dsimp only
  rw [← List.length_append]
  refine congrArg (fun q => some (Magnitude.finite q, _)) ?_
  calc (decimalValue (m.whole ++ m.frac) : ℚ) * 10 ^ (x - m.frac.length)
      = decimalValue (m.whole ++ m.frac) / 10 ^ m.frac.length * 10 ^ x := by
        rw [zpow_sub₀ (by norm_num), zpow_natCast]
        ring
    _ = n / 10 ^ k * 10 ^ x := by rw [same, split, value, length]
    _ = n * 10 ^ (x - k) := by
        rw [zpow_sub₀ (by norm_num), zpow_natCast]
        ring

theorem isDecimal_general (d : ℕ) (q : ℚ) : IsDecimal (roundTo d q) (general d q) := by
  unfold roundTo general
  generalize scientific d q = r
  obtain ⟨m, x⟩ := r
  dsimp only
  split
  · next near =>
    have text := isDecimal_positional (d - x).toNat m isPower_absent
    have places : (0 : ℤ) - (d - x).toNat = x - d := by
      rw [Int.toNat_of_nonneg (by omega)]
      ring
    rwa [List.append_nil, places] at text
  · exact isDecimal_positional d m (isPower_exponentText x)

/-- A sign, and a numeral that is read whole. -/
theorem strtod_signed (neg : Bool) {body : List Char} {q : Magnitude} (isUnsigned : IsUnsigned body)
    (read : unsignedNumeral body = some (q, body.length)) :
    strtod ((if neg then ['-'] else []) ++ body) =
      (⟨neg, q⟩, ((if neg then ['-'] else []) ++ body).length) := by
  have isSign : IsSign (if neg then ['-'] else []) := by
    cases neg
    · exact .absent
    · exact .minus
  have minus : decide ((if neg then ['-'] else []) = ['-']) = neg := by
    cases neg <;> rfl
  have spaces : ∀ c ∈ ([] : List Char), isspace c := List.forall_mem_nil _
  obtain ⟨q', read', parts⟩ := strtod_parts spaces isSign isUnsigned
  rw [read] at read'
  obtain rfl := (Prod.mk.inj (Option.some.inj read')).1
  rw [minus] at parts
  exact parts

/-- `strtod` takes the text of a number whole and reads the rounded number. -/
theorem strtod_streamText (precision : ℕ) (l : Literal) :
    strtod (streamText precision l) = (l.rounded precision, (streamText precision l).length) := by
  obtain ⟨neg, magnitude⟩ := l
  cases magnitude with
  | finite q =>
    have text := isDecimal_general (precision - 1) q
    exact strtod_signed neg text.isUnsigned text.read
  | infinity => exact strtod_signed neg (.inf rfl) rfl
  | nan => exact strtod_signed neg (.nan rfl) rfl

/-! ### Integers -/

/-- A stream writes an integer with its sign, if it is negative, and its digits. -/
theorem toList_toString (n : ℤ) :
    (toString n).toList = (if decide (n < 0) then ['-'] else []) ++ Nat.toDigits 10 n.natAbs := by
  cases n with
  | ofNat m =>
    show (toString m).toList = _
    simp
  | negSucc m =>
    show ("-" ++ toString (m + 1)).toList = _
    simp

theorem isDecimal_digits (n : ℕ) : IsDecimal n (Nat.toDigits 10 n) := by
  have text := isDecimal_positional 0 n isPower_absent
  have digits : positional 0 n = Nat.toDigits 10 n := by
    have padded : paddedDigits 1 n = Nat.toDigits 10 n := by
      unfold paddedDigits List.leftpad
      rw [Nat.sub_eq_zero_of_le (List.length_pos_of_ne_nil Nat.toDigits_ne_nil)]
      rfl
    unfold positional
    dsimp only
    rw [padded, Nat.sub_zero, List.take_length, List.drop_length]
    exact List.append_nil _
  rw [List.append_nil, digits] at text
  simpa using text

/-- `strtod` reads an integer as it is. -/
theorem strtod_toString (n : ℤ) :
    strtod (toString n).toList = (⟨decide (n < 0), .finite n.natAbs⟩, (toString n).toList.length) := by
  have text := isDecimal_digits n.natAbs
  rw [toList_toString]
  exact strtod_signed _ text.isUnsigned text.read

/-- `p` is the value of `x` but for what is cut off: half a unit of the last digit. -/
def Meaning.Near {F : Type} (M : Meaning F) (precision : ℕ) (x : F) (p : ℚ) : Prop :=
  ∃ q, (M.literal x).number = some q ∧ |p - q| ≤ |q| / (2 * 10 ^ (precision - 1))

theorem Literal.isSome_rounded (precision : ℕ) (l : Literal) :
    (l.rounded precision).number.isSome ↔ l.number.isSome := by
  obtain ⟨neg, magnitude⟩ := l
  cases magnitude <;> exact Iff.rfl

/-- What is written is near. -/
theorem Meaning.near_rounded {F : Type} (M : Meaning F) {precision : ℕ} {x : F} {p : ℚ}
    (written : ((M.literal x).rounded precision).number = some p) : M.Near precision x p := by
  have nonneg := M.nonneg x
  unfold Meaning.Near
  generalize M.literal x = l at nonneg written
  obtain ⟨neg, magnitude⟩ := l
  cases magnitude with
  | infinity => cases written
  | nan => cases written
  | finite q =>
    have magnitude : 0 ≤ q := nonneg q rfl
    have error := rounded_error (precision - 1) magnitude
    refine ⟨_, rfl, ?_⟩
    obtain rfl := Option.some.inj written
    cases neg with
    | false =>
      show |roundTo _ q - q| ≤ |q| / _
      rwa [abs_of_nonneg magnitude]
    | true =>
      show |-roundTo _ q - -q| ≤ |-q| / _
      rwa [abs_neg, abs_of_nonneg magnitude, neg_sub_neg, abs_sub_comm]

example : streamText 6 ⟨true, .finite (9999996 / 10)⟩ = "-1e+06".toList := by decide +kernel

/-! ### The characters of a text -/

/-- A character that no text of a number has. -/
def IsForeign (c : Char) : Prop := ¬ IsPlain c ∧ c ∉ ['-', '+', 'e', 'i', 'n', 'f', 'a']

instance (c : Char) : Decidable (IsForeign c) :=
  inferInstanceAs (Decidable (¬ (c.isDigit ∨ c = '.') ∧ c ∉ ['-', '+', 'e', 'i', 'n', 'f', 'a']))

theorem positional_mem (k n : ℕ) : ∀ c ∈ positional k n, IsPlain c := by
  have digits : ∀ c ∈ paddedDigits (k + 1) n, c.isDigit := paddedDigits_isDigit
  intro c mem
  rcases List.mem_append.mp mem with whole | frac
  · exact .inl (digits c (List.mem_of_mem_take whole))
  · unfold pointed at frac
    split at frac
    · exact absurd frac List.not_mem_nil
    · next kept =>
      rcases List.mem_cons.mp frac with point | frac
      · exact .inr point
      · rw [← kept] at frac
        exact .inl (digits c (List.mem_of_mem_drop ((List.rdropWhile_prefix _ _).subset frac)))

theorem exponentText_mem (x : ℤ) : ∀ c ∈ exponentText x, IsPlain c ∨ c ∈ ['-', '+', 'e'] := by
  intro c mem
  rcases List.mem_cons.mp mem with rfl | mem
  · exact .inr (by decide)
  · rcases List.mem_append.mp mem with sgn | digit
    · split at sgn
      · obtain rfl := List.mem_singleton.mp sgn
        exact .inr (by decide)
      · obtain rfl := List.mem_singleton.mp sgn
        exact .inr (by decide)
    · exact .inl (.inl (paddedDigits_isDigit c digit))

theorem general_mem (d : ℕ) (q : ℚ) : ∀ c ∈ general d q, IsPlain c ∨ c ∈ ['-', '+', 'e'] := by
  intro c mem
  unfold general at mem
  dsimp only at mem
  split at mem
  · exact .inl (positional_mem _ _ c mem)
  · rcases List.mem_append.mp mem with digit | power
    · exact .inl (positional_mem _ _ c digit)
    · exact exponentText_mem _ c power

/-- A foreign character separates texts. -/
theorem IsForeign.notMem {c : Char} (foreign : IsForeign c) (precision : ℕ) (l : Literal) :
    c ∉ streamText precision l := by
  have letters : ∀ {cs : List Char}, (∀ d ∈ cs, d ∈ ['-', '+', 'e', 'i', 'n', 'f', 'a']) → c ∉ cs :=
    fun inside mem => foreign.2 (inside c mem)
  unfold streamText
  refine List.not_mem_append ?_ ?_
  · split
    · exact letters (by simp)
    · exact List.not_mem_nil
  · split
    · intro mem
      rcases general_mem _ _ c mem with plain | letter
      · exact foreign.1 plain
      · exact letters (by simp) letter
    · exact letters (show ∀ d ∈ ['i', 'n', 'f'], _ by simp)
    · exact letters (show ∀ d ∈ ['n', 'a', 'n'], _ by simp)

theorem IsForeign.notMem_toString {c : Char} (foreign : IsForeign c) (n : ℤ) :
    c ∉ (toString n).toList := by
  rw [toList_toString]
  refine List.not_mem_append ?_ fun mem =>
    foreign.1 (.inl (Nat.isDigit_of_mem_toDigits (by decide) (by decide) mem))
  split
  · exact fun mem => foreign.2 (List.mem_cons.mpr (.inl (List.mem_singleton.mp mem)))
  · exact List.not_mem_nil

end Numeral
