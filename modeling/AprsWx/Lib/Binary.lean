import AprsWx.Lib.NumberText

/-!
# Binary floating numbers

The arithmetic of `float`, and of `double` where a `float` is computed with it: an operation gives
the nearest number with so many binary digits, a tie to the even one. Zeros have a sign.
There are no infinities: what is computed with it stays far below them.

* `rounded_error`: how far the nearest number is.
* `fixed`: what `%.1f` writes; `fixed_of_near`: a small error is not seen in it.
-/

namespace Binary

open Numeral

/-! ## Rounding -/

theorem roundEven_eq {q : ℚ} {n : ℕ} (nonneg : 0 ≤ q) (near : |q - n| < 1 / 2) : roundEven q = n := by
  have error := abs_le.mp (roundEven_error nonneg)
  obtain ⟨low, high⟩ := abs_lt.mp near
  have less : (roundEven q : ℚ) < (n + 1 : ℕ) := by
    push_cast
    linarith [error.2]
  have more : (n : ℚ) < (roundEven q + 1 : ℕ) := by
    push_cast
    linarith [error.1]
  exact Nat.le_antisymm (Nat.lt_succ_iff.mp (by exact_mod_cast less))
    (Nat.lt_succ_iff.mp (by exact_mod_cast more))

theorem roundEven_natCast (n : ℕ) : roundEven (n : ℚ) = n :=
  roundEven_eq (Nat.cast_nonneg n) (by norm_num)

/-- The digits after the first one, and the least exponent of the first one. -/
structure Format where
  digits : ℕ
  least : ℤ

def single : Format := ⟨23, -126⟩

def double : Format := ⟨52, -1022⟩

/-- The distance of the numbers of a format around `q`. -/
def Format.unit (f : Format) (q : ℚ) : ℚ := 2 ^ (max (Int.log 2 q) f.least - f.digits)

/-- The number of the format that is nearest to `q`. -/
def Format.round (f : Format) (q : ℚ) : ℚ := roundEven (q / f.unit q) * f.unit q

section Rounding

variable {f : Format} {q : ℚ}

theorem Format.unit_pos (f : Format) (q : ℚ) : 0 < f.unit q := zpow_pos (by norm_num) _

theorem Format.round_nonneg (f : Format) (q : ℚ) : 0 ≤ f.round q :=
  mul_nonneg (Nat.cast_nonneg _) (f.unit_pos q).le

theorem Format.round_zero (f : Format) : f.round 0 = 0 := by
  unfold Format.round
  rw [zero_div, roundEven_zero, Nat.cast_zero, zero_mul]

theorem Format.unit_le (f : Format) (positive : 0 < q) :
    f.unit q ≤ q / 2 ^ f.digits + 2 ^ (f.least - f.digits) := by
  have least : (0 : ℚ) < 2 ^ (f.least - f.digits) := zpow_pos (by norm_num) _
  unfold Format.unit
  rcases le_total (Int.log 2 q) f.least with small | large
  · rw [max_eq_right small]
    exact le_add_of_nonneg_left (by positivity)
  · rw [max_eq_left large]
    have first : (2 : ℚ) ^ Int.log 2 q ≤ q := by
      exact_mod_cast Int.zpow_log_le_self (b := 2) (by decide) positive
    calc (2 : ℚ) ^ (Int.log 2 q - f.digits) = 2 ^ Int.log 2 q / 2 ^ f.digits := by
          rw [zpow_sub₀ (by norm_num), zpow_natCast]
      _ ≤ q / 2 ^ f.digits := by gcongr
      _ ≤ _ := le_add_of_nonneg_right least.le

/-- The nearest number is within half a unit. -/
theorem Format.rounded_error (f : Format) (nonneg : 0 ≤ q) :
    |f.round q - q| ≤ (q / 2 ^ f.digits + 2 ^ (f.least - f.digits)) / 2 := by
  rcases nonneg.eq_or_lt with rfl | positive
  · have least : (0 : ℚ) < 2 ^ (f.least - f.digits) := zpow_pos (by norm_num) _
    rw [f.round_zero, sub_zero, abs_zero, zero_div, zero_add]
    exact div_nonneg least.le (by norm_num)
  · have unit := f.unit_pos q
    have error := roundEven_error (div_nonneg nonneg unit.le)
    have scaled : q / f.unit q * f.unit q = q := div_mul_cancel₀ q unit.ne'
    calc |f.round q - q| = |(roundEven (q / f.unit q) : ℚ) - q / f.unit q| * f.unit q := by
          rw [← abs_of_pos unit, ← abs_mul, abs_of_pos unit, sub_mul, scaled]
          rfl
      _ ≤ 1 / 2 * f.unit q := mul_le_mul_of_nonneg_right error unit.le
      _ ≤ 1 / 2 * (q / 2 ^ f.digits + 2 ^ (f.least - f.digits)) :=
          mul_le_mul_of_nonneg_left (f.unit_le positive) (by norm_num)
      _ = _ := by ring

/-- A small integer is a number of the format. -/
theorem Format.round_natCast (f : Format) {n : ℕ} (least : f.least ≤ 0) (small : n < 2 ^ (f.digits + 1)) :
    f.round n = n := by
  rcases Nat.eq_zero_or_pos n with rfl | positive
  · rw [Nat.cast_zero, f.round_zero]
  · have log : Nat.log 2 n ≤ f.digits :=
      Nat.lt_succ_iff.mp (Nat.log_lt_of_lt_pow positive.ne' small)
    have unit : f.unit n = (2 ^ (f.digits - Nat.log 2 n) : ℚ)⁻¹ := by
      have exponent : (Nat.log 2 n : ℤ) - f.digits = -((f.digits - Nat.log 2 n : ℕ) : ℤ) := by
        rw [Nat.cast_sub log, neg_sub]
      unfold Format.unit
      rw [Int.log_natCast, max_eq_left (least.trans (Int.natCast_nonneg _)), exponent, zpow_neg,
        zpow_natCast]
    have scaled : (n : ℚ) / f.unit n = ((n * 2 ^ (f.digits - Nat.log 2 n) : ℕ) : ℚ) := by
      rw [unit, div_inv_eq_mul]
      push_cast
      rfl
    unfold Format.round
    rw [scaled, roundEven_natCast, unit]
    push_cast
    exact mul_inv_cancel_right₀ (by positivity) _

/-- The nearest number, where the first digit is known. -/
theorem Format.round_eq (f : Format) {q : ℚ} {x : ℤ} {n : ℕ} (normal : f.least ≤ x)
    (low : (2 : ℚ) ^ x ≤ q) (high : q < 2 ^ (x + 1)) (near : |q / 2 ^ (x - f.digits) - n| < 1 / 2) :
    f.round q = n * 2 ^ (x - f.digits) := by
  have positive : 0 < q := (zpow_pos (by norm_num) x).trans_le low
  have least : x ≤ Int.log 2 q :=
    (Int.zpow_le_iff_le_log (b := 2) (by decide) positive).mp (by exact_mod_cast low)
  have most : Int.log 2 q < x + 1 :=
    (Int.lt_zpow_iff_log_lt (b := 2) (by decide) positive).mp (by exact_mod_cast high)
  have log : Int.log 2 q = x := le_antisymm (Int.lt_add_one_iff.mp most) least
  have unit : f.unit q = 2 ^ (x - f.digits) := by
    unfold Format.unit
    rw [log, max_eq_left normal]
  unfold Format.round
  rw [unit, roundEven_eq (div_nonneg positive.le (zpow_pos (by norm_num) _).le) near]

/-- What the error of one operation is relative to, where the result is no more than `bound`. -/
def Format.error (f : Format) (bound : ℚ) : ℚ := (bound / 2 ^ f.digits + 2 ^ (f.least - f.digits)) / 2

theorem Format.rounded_error_of_le (f : Format) (bound : ℚ) (nonneg : 0 ≤ q) (le : q ≤ bound) :
    |f.round q - q| ≤ f.error bound := by
  refine (f.rounded_error nonneg).trans ?_
  unfold Format.error
  gcongr

end Rounding

/-! ## Numbers -/

/-- A number of either format, with its sign. -/
@[ext] structure Floating where
  negative : Bool
  magnitude : ℚ
  nonneg : 0 ≤ magnitude
  deriving DecidableEq

namespace Floating

def value (x : Floating) : ℚ := if x.negative then -x.magnitude else x.magnitude

/-- The nearest number of the format to `q`. -/
def ofRat (f : Format) (q : ℚ) : Floating := ⟨decide (q < 0), f.round |q|, f.round_nonneg _⟩

/-- The product and the quotient: their sign is that of the numbers, also where they are zero. -/
def mul (f : Format) (x y : Floating) : Floating :=
  ⟨x.negative != y.negative, f.round (x.magnitude * y.magnitude), f.round_nonneg _⟩

def div (f : Format) (x y : Floating) : Floating :=
  ⟨x.negative != y.negative, f.round (x.magnitude / y.magnitude), f.round_nonneg _⟩

/-- The sum, which is no negative zero unless of two of them. -/
def add (f : Format) (x y : Floating) : Floating :=
  if x.value + y.value = 0 then ⟨x.negative && y.negative, 0, le_rfl⟩
  else ofRat f (x.value + y.value)

/-- A conversion to the format. -/
def convert (f : Format) (x : Floating) : Floating := ⟨x.negative, f.round x.magnitude, f.round_nonneg _⟩

section Errors

variable {f : Format} {x y : Floating} {q : ℚ}

theorem value_ofRat (f : Format) (q : ℚ) :
    (ofRat f q).value = if q < 0 then -f.round |q| else f.round |q| := by
  unfold value ofRat
  by_cases negative : q < 0
  · simp [negative]
  · simp [negative]

theorem ofRat_natCast (f : Format) {n : ℕ} (least : f.least ≤ 0) (small : n < 2 ^ (f.digits + 1)) :
    (ofRat f n).negative = false ∧ (ofRat f n).magnitude = n := by
  have nonneg : (0 : ℚ) ≤ n := Nat.cast_nonneg n
  constructor
  · show decide ((n : ℚ) < 0) = false
    exact decide_eq_false (not_lt.mpr nonneg)
  · show f.round |(n : ℚ)| = n
    rw [abs_of_nonneg nonneg, f.round_natCast least small]

theorem ofRat_error (bound : ℚ) (le : |q| ≤ bound) : |(ofRat f q).value - q| ≤ f.error bound := by
  have error := f.rounded_error_of_le _ (abs_nonneg q) le
  rw [value_ofRat]
  split
  · next negative =>
    rw [abs_of_neg negative] at error ⊢
    rwa [← abs_neg, neg_sub, sub_neg_eq_add, add_comm, ← sub_neg_eq_add]
  · next positive =>
    rwa [abs_of_nonneg (not_lt.mp positive)] at error ⊢

theorem add_error (bound : ℚ) (le : |x.value + y.value| ≤ bound) :
    |(add f x y).value - (x.value + y.value)| ≤ f.error bound := by
  unfold add
  split
  · next zero =>
    have error := f.rounded_error_of_le _ (abs_nonneg _) le
    rw [zero] at error ⊢
    rw [abs_zero, f.round_zero, sub_zero, abs_zero] at error
    unfold value
    split <;> simpa using error
  · exact ofRat_error bound le

/-- The sum of numbers that are not negative. -/
theorem add_magnitude (left : x.negative = false) (right : y.negative = false) (bound : ℚ)
    (le : x.magnitude + y.magnitude ≤ bound) :
    (add f x y).negative = false ∧
      |(add f x y).magnitude - (x.magnitude + y.magnitude)| ≤ f.error bound := by
  have valueLeft : x.value = x.magnitude := if_neg (by rw [left]; exact Bool.false_ne_true)
  have valueRight : y.value = y.magnitude := if_neg (by rw [right]; exact Bool.false_ne_true)
  have nonneg : 0 ≤ x.magnitude + y.magnitude := add_nonneg x.nonneg y.nonneg
  have error := f.rounded_error_of_le _ nonneg le
  unfold add
  rw [valueLeft, valueRight]
  split
  · next zero =>
    rw [zero, f.round_zero] at error
    rw [zero]
    exact ⟨by rw [left, right]; rfl, error⟩
  · constructor
    · show decide (x.magnitude + y.magnitude < 0) = false
      exact decide_eq_false (not_lt.mpr nonneg)
    · show |f.round |x.magnitude + y.magnitude| - (x.magnitude + y.magnitude)| ≤ _
      rwa [abs_of_nonneg nonneg]

theorem mul_error (bound : ℚ) (le : x.magnitude * y.magnitude ≤ bound) :
    |(mul f x y).magnitude - x.magnitude * y.magnitude| ≤ f.error bound :=
  f.rounded_error_of_le _ (mul_nonneg x.nonneg y.nonneg) le

theorem div_error (bound : ℚ) (le : x.magnitude / y.magnitude ≤ bound) :
    |(div f x y).magnitude - x.magnitude / y.magnitude| ≤ f.error bound :=
  f.rounded_error_of_le _ (div_nonneg x.nonneg y.nonneg) le

/-- What is near to a number that is not as near to zero has its sign. -/
theorem magnitude_near {error : ℚ} (near : |x.value - q| ≤ error) (apart : error < |q|) :
    x.negative = decide (q < 0) ∧ |x.magnitude - (|q|)| ≤ error := by
  have nonneg := x.nonneg
  unfold value at near
  rw [abs_le] at near
  rcases lt_or_ge q 0 with negative | positive
  · rw [abs_of_neg negative] at apart ⊢
    cases sign : x.negative with
    | false =>
      rw [sign, if_neg Bool.false_ne_true] at near
      linarith [near.2]
    | true =>
      rw [sign, if_pos rfl] at near
      refine ⟨(decide_eq_true negative).symm, abs_le.mpr ?_⟩
      constructor <;> linarith [near.1, near.2]
  · rw [abs_of_nonneg positive] at apart ⊢
    cases sign : x.negative with
    | false =>
      rw [sign, if_neg Bool.false_ne_true] at near
      exact ⟨(decide_eq_false (not_lt.mpr positive)).symm, abs_le.mpr near⟩
    | true =>
      rw [sign, if_pos rfl] at near
      linarith [near.1]

end Errors

end Floating

/-! ## Texts -/

/-- A number of tenths with one decimal. -/
def tenths (negative : Bool) (n : ℕ) : List Char :=
  (if negative then ['-'] else []) ++ Nat.toDigits 10 (n / 10) ++ '.' :: Nat.toDigits 10 (n % 10)

/-- `%.1f` -/
def Floating.fixed (x : Floating) : List Char := tenths x.negative (roundEven (x.magnitude * 10))

/-- Within half a tenth the text is the same. -/
theorem Floating.fixed_of_near {x : Floating} {n : ℕ} (near : |x.magnitude * 10 - n| < 1 / 2) :
    x.fixed = tenths x.negative n := by
  unfold fixed
  rw [roundEven_eq (mul_nonneg x.nonneg (by norm_num)) near]

theorem toDigits_inj {n m : ℕ} (same : Nat.toDigits 10 n = Nat.toDigits 10 m) : n = m := by
  rw [← Nat.ofDigitChars_toDigits (b := 10) (n := n) (by decide) (by decide), same,
    Nat.ofDigitChars_toDigits (by decide) (by decide)]

theorem notMem_toDigits {c : Char} (other : c.isDigit = false) (n : ℕ) : c ∉ Nat.toDigits 10 n :=
  fun mem => Bool.false_ne_true
    (other.symm.trans (Nat.isDigit_of_mem_toDigits (by decide) (by decide) mem))

/-- Different numbers have different texts. -/
theorem tenths_inj {a b : Bool} {n m : ℕ} : tenths a n = tenths b m ↔ a = b ∧ n = m := by
  refine ⟨fun same => ?_, fun ⟨sign, number⟩ => by rw [sign, number]⟩
  have unsigned : ∀ (n : ℕ) (tail : List Char), '-' :: tail ≠ Nat.toDigits 10 (n / 10) ++
      '.' :: Nat.toDigits 10 (n % 10) := by
    intro n tail same
    obtain ⟨d, ds, digits⟩ := List.exists_cons_of_ne_nil (Nat.toDigits_ne_nil (n := n / 10) (b := 10))
    have minus : '-' ∈ Nat.toDigits 10 (n / 10) := by
      rw [digits, List.cons_append] at same
      rw [digits, (List.cons.inj same).1]
      exact List.mem_cons_self
    exact notMem_toDigits (by decide) _ minus
  have parts : Nat.toDigits 10 (n / 10) ++ '.' :: Nat.toDigits 10 (n % 10) =
      Nat.toDigits 10 (m / 10) ++ '.' :: Nat.toDigits 10 (m % 10) → n = m := by
    intro same
    obtain ⟨whole, -, rest⟩ := (List.append_cons_inj_of_notMem (notMem_toDigits (by decide) _)
      (notMem_toDigits (by decide) _)).mp same
    rw [← Nat.div_add_mod n 10, ← Nat.div_add_mod m 10, toDigits_inj whole, toDigits_inj rest]
  unfold tenths at same
  cases a with
  | false =>
    cases b with
    | false => exact ⟨rfl, parts same⟩
    | true => exact absurd same.symm (unsigned n _)
  | true =>
    cases b with
    | false => exact absurd same (unsigned m _)
    | true => exact ⟨rfl, parts (List.cons.inj same).2⟩

end Binary
