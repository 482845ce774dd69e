import Mathlib.Data.Rat.Defs
import Mathlib.Algebra.Order.Field.Rat
import Mathlib.Data.List.TakeWhile
import Mathlib.Tactic.IntervalCases

/-!
# Numerals of the C and C++ standard libraries

What `strtod` and `std::from_chars` read at the start of a text: how many characters
they take and which number these denote. Nothing is rounded here, the number is the
one the characters spell.

* `strtod` follows the C standard in the C locale: white space, a sign, and then a
  decimal or hexadecimal numeral, `inf`, `infinity` or `nan`, in any case.
* `fromChars` is `std::from_chars` for an integer type in base 10: no white space, a
  minus sign for the signed types only, and an error for what does not fit the type.
-/

namespace Numeral

/-! ## Literals -/

/-- What a floating numeral denotes, but for its sign. -/
inductive Magnitude
  | finite (q : ℚ)
  | infinity
  | nan
  deriving DecidableEq

/-- A floating numeral: a sign and a magnitude, so that `-0` is not `0`. -/
structure Literal where
  neg : Bool
  magnitude : Magnitude
  deriving DecidableEq

/-- The number that a finite numeral denotes. -/
def Literal.number : Literal → Option ℚ
  | ⟨neg, .finite q⟩ => some (if neg then -q else q)
  | _ => none

/-- `isspace` in the C locale. -/
def isspace (c : Char) : Bool :=
  c = ' ' || c = '\t' || c = '\n' || c = '\x0b' || c = '\x0c' || c = '\r'

def isHexDigit (c : Char) : Bool :=
  c.isDigit || (decide ('a' ≤ c.toLower) && decide (c.toLower ≤ 'f'))

def hexValue (c : Char) : Nat :=
  if c.isDigit then c.toNat - '0'.toNat else c.toLower.toNat - 'a'.toNat + 10

/-- The number the decimal digits `ds` spell. -/
def decimalValue (ds : List Char) : Nat := Nat.ofDigitChars 10 ds 0

def hexadecimalValue (ds : List Char) : Nat := ds.foldl (fun n c => 16 * n + hexValue c) 0

/-! ## strtod -/

/-- Digits with an optional point among them, and how many characters they take. -/
structure Mantissa where
  whole : List Char
  frac : List Char
  length : Nat

/-- The longest mantissa at the start of `s`: at least one digit, before or after the
point. -/
def mantissa (digit : Char → Bool) (s : List Char) : Option Mantissa :=
  let whole := s.takeWhile digit
  match s.drop whole.length with
  | '.' :: rest =>
    let frac := rest.takeWhile digit
    if whole.isEmpty && frac.isEmpty then none
    else some ⟨whole, frac, whole.length + 1 + frac.length⟩
  | _ => if whole.isEmpty then none else some ⟨whole, [], whole.length⟩

/-- An optional sign: whether it is a minus, and how many characters it takes. -/
def sign : List Char → Bool × Nat
  | '-' :: _ => (true, 1)
  | '+' :: _ => (false, 1)
  | _ => (false, 0)

/-- An optional exponent part after the letter `mark`, and how many characters it takes.
A letter that no digit follows is not taken. -/
def exponent (mark : Char) : List Char → Int × Nat
  | [] => (0, 0)
  | c :: rest =>
    let (neg, n) := sign rest
    let digits := (rest.drop n).takeWhile Char.isDigit
    if c.toLower = mark ∧ digits ≠ [] then
      (if neg then -(decimalValue digits : Int) else decimalValue digits, 1 + n + digits.length)
    else (0, 0)

/-- A decimal numeral without a sign. -/
def decimal (s : List Char) : Option (Magnitude × Nat) :=
  match mantissa Char.isDigit s with
  | none => none
  | some m =>
    let (e, n) := exponent 'e' (s.drop m.length)
    some (.finite (decimalValue (m.whole ++ m.frac) * 10 ^ (e - m.frac.length)), m.length + n)

/-- A hexadecimal numeral without a sign; its exponent is a power of two. -/
def hexadecimal : List Char → Option (Magnitude × Nat)
  | '0' :: x :: rest =>
    if x.toLower = 'x' then
      match mantissa isHexDigit rest with
      | none => none
      | some m =>
        let (e, n) := exponent 'p' (rest.drop m.length)
        some (.finite (hexadecimalValue (m.whole ++ m.frac) * 2 ^ (e - 4 * m.frac.length)),
          2 + m.length + n)
    else none
  | _ => none

/-- `s` starts with the word `w` in any case. -/
def hasWord (w : String) (s : List Char) : Bool :=
  decide ((s.take w.length).map Char.toLower = w.toList)

/-- The optional `(tag)` after `nan`. -/
def nanTag : List Char → Nat
  | '(' :: rest =>
    let tag := rest.takeWhile fun c => c.isAlphanum || c = '_'
    match rest.drop tag.length with
    | ')' :: _ => tag.length + 2
    | _ => 0
  | _ => 0

/-- A floating numeral without a sign. -/
def unsignedNumeral (s : List Char) : Option (Magnitude × Nat) :=
  if hasWord "infinity" s then some (.infinity, 8)
  else if hasWord "inf" s then some (.infinity, 3)
  else if hasWord "nan" s then some (.nan, 3 + nanTag (s.drop 3))
  else match hexadecimal s with
    | some r => some r
    | none => decimal s

/-- `strtod`: the numeral at the start of `s` and `endPtr - s`, which is 0 where there
is no numeral. -/
def strtod (s : List Char) : Literal × Nat :=
  let blank := (s.takeWhile isspace).length
  let (neg, n) := sign (s.drop blank)
  match unsignedNumeral (s.drop (blank + n)) with
  | some (magnitude, k) => (⟨neg, magnitude⟩, blank + n + k)
  | none => (⟨false, .finite 0⟩, 0)

/-! ## from_chars -/

inductive Errc
  | ok
  | invalidArgument
  | resultOutOfRange
  deriving DecidableEq

/-- The result of `from_chars`: where it stopped, its error code and the value, which is
stored only if there is no error. -/
structure FromChars where
  ptr : Nat
  ec : Errc
  value : Int

/-- `std::from_chars` for the integer type with the values from `lo` to `hi`. -/
def fromChars (lo hi : Int) (s : List Char) : FromChars :=
  let (neg, n) := match s with
    | '-' :: _ => if lo < 0 then (true, 1) else (false, 0)
    | _ => (false, 0)
  let digits := (s.drop n).takeWhile Char.isDigit
  let value : Int := if neg then -(decimalValue digits : Int) else decimalValue digits
  if digits = [] then ⟨0, .invalidArgument, 0⟩
  else if lo ≤ value ∧ value ≤ hi then ⟨n + digits.length, .ok, value⟩
  else ⟨n + digits.length, .resultOutOfRange, 0⟩

/-! ## Plain numerals

Texts of digits and points, which no word and no hexadecimal numeral starts. -/

theorem exists_digitChar {c : Char} (digit : c.isDigit) : ∃ n < 10, c = n.digitChar := by
  obtain ⟨low, high⟩ := Char.isDigit_iff_toNat.mp digit
  change 48 ≤ c.toNat at low
  change c.toNat ≤ 57 at high
  refine ⟨c.toNat - 48, by omega, ?_⟩
  rw [← Char.ofNat_toNat c]
  generalize c.toNat = n at low high
  interval_cases n <;> rfl

/-- A digit or the point. -/
def IsPlain (c : Char) : Prop := c.isDigit ∨ c = '.'

/-- What holds of the ten digits and of the point holds of every plain character. -/
theorem IsPlain.elim {P : Char → Prop} (digits : ∀ n < 10, P n.digitChar) (point : P '.') {c : Char}
    (plain : IsPlain c) : P c := by
  rcases plain with digit | rfl
  · obtain ⟨n, small, rfl⟩ := exists_digitChar digit
    exact digits n small
  · exact point

theorem IsPlain.toLower_notMem {c : Char} : IsPlain c → c.toLower ∉ ['i', 'n', 'x'] :=
  IsPlain.elim (P := fun c => c.toLower ∉ ['i', 'n', 'x']) (by decide) (by decide)

theorem IsPlain.isspace {c : Char} : IsPlain c → isspace c = false :=
  IsPlain.elim (P := fun c => Numeral.isspace c = false) (by decide) (by decide)

theorem IsPlain.not_sign {c : Char} : IsPlain c → c ≠ '-' ∧ c ≠ '+' :=
  IsPlain.elim (P := fun c => c ≠ '-' ∧ c ≠ '+') (by decide) (by decide)

theorem hasWord_eq_false {w : String} (a : Char) (as : List Char) (word : w.toList = a :: as)
    {s : List Char} (first : ∀ c ∈ s.head?, c.toLower ≠ a) : hasWord w s = false := by
  have length : w.length = as.length + 1 := by
    rw [← String.length_toList, word]
    rfl
  unfold hasWord
  rw [word, length, decide_eq_false_iff_not]
  cases s with
  | nil => exact List.cons_ne_nil _ _ ∘ Eq.symm
  | cons c s =>
    intro equal
    exact first c rfl (List.cons.inj equal).1

/-- A text without the letters that words start with, and without an `'x'`. -/
theorem unsignedNumeral_other {s : List Char} (other : ∀ c ∈ s, c.toLower ∉ ['i', 'n', 'x']) :
    unsignedNumeral s = decimal s := by
  have hex : hexadecimal s = none := by
    unfold hexadecimal
    split
    · next x rest =>
      have other := other x (by simp)
      rw [if_neg (fun equal => other (by simp [equal]))]
    · rfl
  have first : ∀ a ∈ ['i', 'n', 'x'], ∀ c ∈ s.head?, c.toLower ≠ a := by
    intro a mem c head equal
    exact other c (List.mem_of_mem_head? head) (equal ▸ mem)
  have infinity : hasWord "infinity" s = false :=
    hasWord_eq_false 'i' "nfinity".toList rfl (first 'i' (by decide))
  have inf : hasWord "inf" s = false :=
    hasWord_eq_false 'i' "nf".toList rfl (first 'i' (by decide))
  have nan : hasWord "nan" s = false :=
    hasWord_eq_false 'n' "an".toList rfl (first 'n' (by decide))
  unfold unsignedNumeral
  rw [infinity, inf, nan, hex]
  rfl

theorem unsignedNumeral_plain {s : List Char} (plain : ∀ c ∈ s, IsPlain c) :
    unsignedNumeral s = decimal s :=
  unsignedNumeral_other fun c mem => (plain c mem).toLower_notMem

/-- The result of `strtod` for a numeral of the sign `neg` that starts after `n`
characters. -/
def signed (neg : Bool) (n : Nat) : Option (Magnitude × Nat) → Literal × Nat
  | some (magnitude, k) => (⟨neg, magnitude⟩, n + k)
  | none => (⟨false, .finite 0⟩, 0)

theorem strtod_plain {s : List Char} (plain : ∀ a ∈ s, IsPlain a) :
    strtod s = signed false 0 (decimal s) := by
  have blank : s.takeWhile isspace = [] := by
    cases s with
    | nil => rfl
    | cons c s =>
      rw [List.takeWhile_cons, (plain c List.mem_cons_self).isspace]
      rfl
  have sgn : sign s = (false, 0) := by
    unfold sign
    split
    · next s => exact absurd rfl (plain '-' List.mem_cons_self).not_sign.1
    · next s => exact absurd rfl (plain '+' List.mem_cons_self).not_sign.2
    · rfl
  unfold strtod
  rw [blank]
  simp only [List.length_nil, List.drop_zero, sgn, Nat.add_zero, unsignedNumeral_plain plain]
  unfold signed
  cases decimal s <;> rfl

theorem strtod_minus {s : List Char} (plain : ∀ a ∈ s, IsPlain a) :
    strtod ('-' :: s) = signed true 1 (decimal s) := by
  have blank : ('-' :: s).takeWhile isspace = [] := rfl
  unfold strtod
  rw [blank]
  simp only [List.length_nil, List.drop_zero, sign, Nat.zero_add, List.drop_succ_cons,
    unsignedNumeral_plain plain]
  unfold signed
  cases decimal s <;> rfl

theorem strtod_spaces (n : Nat) : strtod (List.replicate n ' ') = signed false 0 none := by
  have blank : (List.replicate n ' ').takeWhile isspace = List.replicate n ' ' := by
    rw [List.takeWhile_replicate]
    rfl
  unfold strtod
  rw [blank]
  simp only [List.drop_length, sign, Nat.add_zero]
  rfl

section

variable {ds fs : List Char}

theorem takeWhile_digits (digits : ∀ c ∈ ds, c.isDigit) : ds.takeWhile Char.isDigit = ds := by
  rw [List.takeWhile_eq_self_iff]
  exact digits

theorem decimal_digits (digits : ∀ c ∈ ds, c.isDigit) (nonempty : ds ≠ []) :
    decimal ds = some (.finite (decimalValue ds), ds.length) := by
  have m : mantissa Char.isDigit ds = some ⟨ds, [], ds.length⟩ := by
    unfold mantissa
    simp only [takeWhile_digits digits, List.drop_length, List.isEmpty_iff, nonempty, if_false]
  unfold decimal
  rw [m]
  simp [exponent]

theorem decimal_point (digits : ∀ c ∈ ds, c.isDigit) (digits' : ∀ c ∈ fs, c.isDigit)
    (nonempty : ds ++ fs ≠ []) :
    decimal (ds ++ '.' :: fs) =
      some (.finite (decimalValue (ds ++ fs) / 10 ^ fs.length), (ds ++ '.' :: fs).length) := by
  have whole : (ds ++ '.' :: fs).takeWhile Char.isDigit = ds := by
    rw [List.takeWhile_append_of_pos digits]
    simp
  have length : (ds ++ '.' :: fs).length = ds.length + 1 + fs.length := by
    rw [List.length_append, List.length_cons, Nat.add_assoc, Nat.add_comm fs.length]
  have m : mantissa Char.isDigit (ds ++ '.' :: fs) =
      some ⟨ds, fs, (ds ++ '.' :: fs).length⟩ := by
    unfold mantissa
    rw [whole]
    simp only [List.drop_left, takeWhile_digits digits']
    rw [if_neg (by simpa using nonempty), length]
  unfold decimal
  rw [m]
  simp [exponent, div_eq_mul_inv]

theorem decimal_points (n : Nat) : decimal (List.replicate n '.') = none := by
  rcases n with _ | _ | n <;> rfl

/-- The digits `ds` spell a number below the power of ten. -/
theorem decimalValue_lt (digits : ∀ c ∈ ds, c.isDigit) : decimalValue ds < 10 ^ ds.length := by
  induction ds with
  | nil => decide
  | cons c ds ih =>
    obtain ⟨n, small, rfl⟩ := exists_digitChar (digits c List.mem_cons_self)
    have rest := ih fun c mem => digits c (List.mem_cons_of_mem _ mem)
    unfold decimalValue at rest ⊢
    rw [Nat.ofDigitChars_cons_digitChar_of_lt_ten small, Nat.ofDigitChars_eq_ofDigitChars_zero,
      List.length_cons, Nat.pow_succ, Nat.mul_zero, Nat.zero_add]
    have := Nat.mul_le_mul_left (10 ^ ds.length) (show n ≤ 9 by omega)
    omega

theorem fromChars_digits {lo hi : Int} (digits : ∀ c ∈ ds, c.isDigit) (nonempty : ds ≠ [])
    (low : lo ≤ 0) (high : (decimalValue ds : Int) ≤ hi) :
    fromChars lo hi ds = ⟨ds.length, .ok, decimalValue ds⟩ := by
  cases ds with
  | nil => exact absurd rfl nonempty
  | cons c ds =>
    have minus : c ≠ '-' := (IsPlain.not_sign (.inl (digits c List.mem_cons_self))).1
    have value : lo ≤ (decimalValue (c :: ds) : Int) ∧ (decimalValue (c :: ds) : Int) ≤ hi := by
      omega
    unfold fromChars
    split
    next neg n equal =>
    have start : neg = false ∧ n = 0 := by
      split at equal
      · next equal' => exact absurd (List.cons.inj equal').1 minus
      · exact ⟨(Prod.mk.inj equal).1.symm, (Prod.mk.inj equal).2.symm⟩
    obtain ⟨rfl, rfl⟩ := start
    simp only [List.drop_zero, takeWhile_digits digits, nonempty, if_false, Bool.false_eq_true,
      value, and_self, if_true, Nat.zero_add]

end

end Numeral
