import AprsWx.Lib.Binary
import AprsWx.Lib.Bits
import AprsWx.Lib.Runs

/-!
# What a sensor says

A DHT22 sends its two measurements in tenths, the temperature with a sign, and the sum of the four
bytes. A DHT11 sends units and tenths.

* `Sample`: the two measurements, with the texts that are right for them.
* `fixed_fahrenheit`: the temperature in Fahrenheit is right in spite of the rounding in its
  computation.
* `numbers_line`: the numbers that a line shows.
-/

namespace AprsWx.Dht

open Bits Binary Floating

/-- The programs number the bytes from 0. -/
scoped instance neZeroFive : NeZero 5 := ⟨Nat.succ_ne_zero 4⟩

/-- A measurement in tenths of a percent and of a degree, `below` zero or not. -/
structure Sample where
  humidity : ℕ
  below : Bool
  temperature : ℕ
  deriving DecidableEq

namespace Sample

variable (r : Sample)

/-- The numbers that a DHT22 has the bits for. -/
structure Fits : Prop where
  humidity : r.humidity < 65536
  temperature : r.temperature < 32768

/-- The bytes of a DHT22; the sign is the highest bit of the temperature. -/
def bytes : List ℕ :=
  [r.humidity / 256, r.humidity % 256, (if r.below then 128 else 0) + r.temperature / 256,
    r.temperature % 256]

/-- The five bytes on the line. -/
def frame : List ℕ := r.bytes ++ [r.bytes.sum % 256]

theorem frame_lt (fits : r.Fits) : ∀ n ∈ r.frame, n < 256 := by
  have humidity := fits.humidity
  have temperature := fits.temperature
  have sign : (if r.below then 128 else 0) ≤ 128 := by split <;> decide
  intro n mem
  simp only [frame, bytes, List.cons_append, List.nil_append, List.mem_cons,
    List.not_mem_nil, or_false] at mem
  rcases mem with rfl | rfl | rfl | rfl | rfl <;> omega

theorem frame_whole : Whole r.frame := ⟨_, _, rfl, rfl⟩

/-- Fiftieths of a degree Fahrenheit. -/
def fiftieths : ℤ := 1600 + 9 * (if r.below then -r.temperature else r.temperature : ℤ)

def celsiusText : List Char := tenths r.below r.temperature

/-- The nearest tenth of a degree. -/
def fahrenheitText : List Char := tenths (decide (r.fiftieths < 0)) ((2 * r.fiftieths.natAbs + 5) / 10)

def humidityText : List Char := tenths false r.humidity

end Sample

/-! ## Single precision -/

/-- A small integer as a `float`. -/
abbrev float (n : ℕ) : Floating := ofRat single n

theorem float_negative {n : ℕ} (small : n < 2 ^ 24) : (float n).negative = false :=
  (ofRat_natCast single (by decide) small).1

theorem float_magnitude {n : ℕ} (small : n < 2 ^ 24) : (float n).magnitude = n :=
  (ofRat_natCast single (by decide) small).2

/-- The error of an operation with a result of no more than `bound`, in simpler numbers. -/
theorem single_error_le {bound : ℚ} (simple : ℚ) (le : bound / 2 ^ 24 + 1 / 2 ^ 140 ≤ simple) :
    single.error bound ≤ simple := by
  refine le_trans ?_ le
  unfold Format.error single
  norm_num
  linarith

/-- `x` is `q` with the sign `negative`, but for an error. -/
structure Near (x : Floating) (negative : Bool) (q error : ℚ) : Prop where
  sign : x.negative = negative
  error : |x.magnitude - q| ≤ error

section Numbers

variable {x : Floating} {n : ℕ} {negative : Bool}

/-- A tenth of a small integer. -/
theorem near_tenth (bound : ℚ) (small : n < 2 ^ 24) (le : n / 10 ≤ bound) :
    Near (div single (float n) (float 10)) false (n / 10) (single.error bound) := by
  have ten : (float 10).magnitude = 10 := by
    rw [float_magnitude (by decide)]
    norm_num
  have error := div_error (f := single) (x := float n) (y := float 10) bound
  rw [float_magnitude small, ten] at error
  refine ⟨?_, error le⟩
  show ((float n).negative != (float 10).negative) = false
  rw [float_negative small, float_negative (by decide)]
  rfl

/-- `x *= -1.0f` -/
theorem near_negated {q error : ℚ} (near : Near x negative q error) (bound : ℚ)
    (le : q + error ≤ bound) :
    Near (mul single x (ofRat single (-1))) (!negative) q (error + single.error bound) := by
  have one : (ofRat single (-1)).magnitude = 1 := by
    have exactly := float_magnitude (show 1 < 2 ^ 24 by decide)
    rw [Nat.cast_one] at exactly
    show single.round |(-1 : ℚ)| = 1
    rw [abs_neg]
    exact exactly
  have given := abs_le.mp near.error
  have product := mul_error (f := single) (x := x) (y := ofRat single (-1)) bound
    (by rw [one]; linarith [given.2])
  rw [one, mul_one] at product
  have product := abs_le.mp product
  constructor
  · show (x.negative != (ofRat single (-1)).negative) = !negative
    have minus : (ofRat single (-1)).negative = true := by
      show decide ((-1 : ℚ) < 0) = true
      exact decide_eq_true (by norm_num)
    rw [near.sign, minus]
    cases negative <;> rfl
  · rw [abs_le]
    constructor <;> linarith [given.1, given.2, product.1, product.2]

/-- What is near to a number of tenths is printed as this number. -/
theorem Near.fixed {error : ℚ} (near : Near x negative (n / 10) error) (small : error < 1 / 20) :
    x.fixed = tenths negative n := by
  rw [← near.sign]
  refine fixed_of_near ?_
  have apart := abs_le.mp near.error
  rw [abs_lt]
  constructor <;> linarith [apart.1, apart.2]

/-- `9.0f * tempC / 5.0f + 32.0f` -/
def fahrenheit (tempC : Floating) : Floating :=
  add single (div single (mul single (float 9) tempC) (float 5)) (float 32)

/-- The magnitude before 32 is added. -/
theorem fahrenheit_scaled (near : Near x negative (n / 10) (1 / 2000)) (small : n < 32768) :
    Near (div single (mul single (float 9) x) (float 5)) negative (9 * n / 50) (1 / 400) := by
  have size : (n : ℚ) ≤ 32767 := by exact_mod_cast Nat.lt_succ_iff.mp small
  have nine : (float 9).magnitude = 9 := by
    rw [float_magnitude (by decide)]
    norm_num
  have five : (float 5).magnitude = 5 := by
    rw [float_magnitude (by decide)]
    norm_num
  have given := abs_le.mp near.error
  have product := mul_error (f := single) (x := float 9) (y := x) (29500 : ℚ)
    (by rw [nine]; linarith [given.2])
  have product := abs_le.mp (product.trans (single_error_le (1 / 550) (by norm_num)))
  rw [nine] at product
  have quotient := div_error (f := single) (x := mul single (float 9) x) (y := float 5) (5910 : ℚ)
    (by rw [five]; linarith [given.2, product.2])
  have quotient := abs_le.mp (quotient.trans (single_error_le (1 / 2800) (by norm_num)))
  rw [five] at quotient
  constructor
  · show (((float 9).negative != x.negative) != (float 5).negative) = negative
    rw [float_negative (by decide), float_negative (by decide), near.sign]
    cases negative <;> rfl
  · rw [abs_le]
    constructor <;> linarith [given.1, given.2, product.1, product.2, quotient.1, quotient.2]

theorem value_near {q error : ℚ} (near : Near x negative q error) :
    |x.value - (if negative then -q else q)| ≤ error := by
  unfold value
  rw [near.sign]
  cases negative with
  | false => exact near.error
  | true =>
    rw [if_pos rfl, if_pos rfl, neg_sub_neg, abs_sub_comm]
    exact near.error

/-- The nearest tenth of a number of fiftieths. -/
theorem nearest_tenth (k : ℕ) : |(k : ℚ) / 5 - ((2 * k + 5) / 10 : ℕ)| ≤ 2 / 5 := by
  have split : 10 * ((2 * k + 5) / 10) + (2 * k + 5) % 10 = 2 * k + 5 := Nat.div_add_mod _ _
  have odd : (2 * k + 5) % 10 = 1 ∨ (2 * k + 5) % 10 = 3 ∨ (2 * k + 5) % 10 = 5 ∨
      (2 * k + 5) % 10 = 7 ∨ (2 * k + 5) % 10 = 9 := by omega
  have cast : 10 * (((2 * k + 5) / 10 : ℕ) : ℚ) + ((2 * k + 5) % 10 : ℕ) = 2 * k + 5 := by
    exact_mod_cast split
  rw [abs_le]
  rcases odd with rest | rest | rest | rest | rest <;> rw [rest] at cast <;> push_cast at cast <;>
    constructor <;> linarith

theorem Sample.fiftieths_ne_zero (r : Sample) : r.fiftieths ≠ 0 := by
  unfold Sample.fiftieths
  split <;> omega

/-- What is near to a number of fiftieths is printed as its nearest tenth: there is no tie and no zero
among them. -/
theorem fixed_fiftieths (r : Sample) (near : |x.value - r.fiftieths / 50| ≤ 1 / 200) :
    x.fixed = r.fahrenheitText := by
  have some : (1 : ℚ) ≤ |(r.fiftieths : ℚ)| := by
    exact_mod_cast Int.one_le_abs r.fiftieths_ne_zero
  obtain ⟨sign, near⟩ := magnitude_near near (by
    rw [abs_div, abs_of_pos (show (0 : ℚ) < 50 by norm_num)]
    linarith)
  have negative : x.negative = decide (r.fiftieths < 0) := by
    rw [sign, decide_eq_decide, div_neg_iff]
    constructor
    · rintro (⟨-, absurd⟩ | ⟨negative, -⟩)
      · norm_num at absurd
      · exact_mod_cast negative
    · exact fun negative => .inr ⟨by exact_mod_cast negative, by norm_num⟩
  have magnitude : |(r.fiftieths : ℚ) / 50| = (r.fiftieths.natAbs : ℚ) / 50 := by
    rw [abs_div, abs_of_pos (show (0 : ℚ) < 50 by norm_num), Nat.cast_natAbs, Int.cast_abs]
  unfold Sample.fahrenheitText
  rw [← negative]
  refine fixed_of_near ?_
  have tenth := abs_le.mp (nearest_tenth r.fiftieths.natAbs)
  rw [magnitude] at near
  have near := abs_le.mp near
  rw [abs_lt]
  constructor <;> linarith [near.1, near.2, tenth.1, tenth.2]

/-- Adding 32 to nine fifths of the degrees. -/
theorem fixed_add (r : Sample) (near : Near x r.below (9 * r.temperature / 50) (1 / 250))
    (small : r.temperature < 65536) : (add single x (float 32)).fixed = r.fahrenheitText := by
  have size : (r.temperature : ℚ) ≤ 65535 := by exact_mod_cast Nat.lt_succ_iff.mp small
  have thirtyTwo : (float 32).value = 32 := by
    unfold value
    rw [float_negative (by decide), float_magnitude (by decide), if_neg Bool.false_ne_true]
    norm_num
  have scaled := value_near near
  obtain ⟨part, part_eq⟩ :
      ∃ part, (if r.below then -(9 * r.temperature / 50) else 9 * r.temperature / 50 : ℚ) = part :=
    ⟨_, rfl⟩
  have whole : (r.fiftieths : ℚ) / 50 = part + 32 := by
    rw [← part_eq]
    unfold Sample.fiftieths
    split <;> push_cast <;> ring
  have most : |part| ≤ 11797 := by
    rw [← part_eq, abs_le]
    split <;> constructor <;> linarith
  rw [part_eq] at scaled
  obtain ⟨low, high⟩ := abs_le.mp scaled
  obtain ⟨least, most⟩ := abs_le.mp most
  have sum := add_error (f := single) (x := x) (y := float 32) (11830 : ℚ) (by
    rw [thirtyTwo, abs_le]
    constructor <;> linarith)
  rw [thirtyTwo] at sum
  have sum := abs_le.mp (sum.trans (single_error_le (1 / 1400) (by norm_num)))
  refine fixed_fiftieths r ?_
  rw [whole, abs_le]
  constructor <;> linarith [sum.1, sum.2]

/-- The temperature in Fahrenheit has the right text. -/
theorem fixed_fahrenheit (r : Sample) (near : Near x r.below (r.temperature / 10) (1 / 2000))
    (small : r.temperature < 32768) : (fahrenheit x).fixed = r.fahrenheitText := by
  have scaled := fahrenheit_scaled near small
  exact fixed_add r ⟨scaled.sign, scaled.error.trans (by norm_num)⟩ (by omega)

end Numbers

/-! ## Lines -/

/-- A character of a number. -/
def numeric (c : Char) : Bool := c.isDigit || c == '.' || c == '-'

/-- The numbers in a line that is printed, whatever is said around them. -/
def numbers (line : List Char) : List (List Char) := Numeral.runs numeric line

section Lines

variable {first second third last : List Char}

theorem numeric_tenths (negative : Bool) (n : ℕ) : ∀ c ∈ tenths negative n, numeric c = true := by
  have digits : ∀ n, ∀ c ∈ Nat.toDigits 10 n, numeric c = true := fun n c mem => by
    unfold numeric
    rw [Nat.isDigit_of_mem_toDigits (by decide) (by decide) mem]
    rfl
  unfold tenths
  refine List.forall_mem_append.mpr ⟨List.forall_mem_append.mpr ⟨?_, digits _⟩, ?_⟩
  · cases negative <;> simp [numeric]
  · exact List.forall_mem_cons.mpr ⟨rfl, digits _⟩

theorem tenths_ne_nil (negative : Bool) (n : ℕ) : tenths negative n ≠ [] := by
  simp [tenths]

/-- A line shows the numbers of the sample in it. -/
theorem numbers_line (other : (first ++ second ++ third ++ last).any numeric = false)
    (apart : second ≠ [] ∧ third ≠ [] ∧ last ≠ []) (r : Sample) :
    numbers (first ++ r.celsiusText ++ second ++ r.fahrenheitText ++ third ++ r.humidityText ++ last) =
      [r.celsiusText, r.fahrenheitText, r.humidityText] := by
  obtain ⟨second_some, third_some, last_some⟩ := apart
  have other : ∀ c ∈ first ++ second ++ third ++ last, numeric c = false := fun c mem =>
    Bool.eq_false_iff.mpr (List.any_eq_false.mp other c mem)
  obtain ⟨other, last_other⟩ := List.forall_mem_append.mp other
  obtain ⟨other, third_other⟩ := List.forall_mem_append.mp other
  obtain ⟨first_other, second_other⟩ := List.forall_mem_append.mp other
  have word : ∀ {sep : List Char} (negative : Bool) (n : ℕ) (text : List Char),
      (∀ c ∈ sep, numeric c = false) → sep ≠ [] →
      numbers (tenths negative n ++ (sep ++ text)) = tenths negative n :: numbers text :=
    fun negative n text other apart =>
      Numeral.runs_word (numeric_tenths negative n) (tenths_ne_nil negative n) other apart text
  have start : ∀ text, numbers (first ++ text) = numbers text := Numeral.runs_append first_other
  unfold Sample.celsiusText Sample.fahrenheitText Sample.humidityText
  simp only [List.append_assoc]
  rw [start, word _ _ _ second_other second_some, word _ _ _ third_other third_some,
    ← List.append_nil last, word _ _ _ last_other last_some]
  rfl

end Lines

/-! ## Attempts

Either program makes the first of the attempts that it is given. -/

section Attempts

variable {α : Type} {before after made rest others more : List α} {a b : α}

/-- It has made an attempt, or the attempt is still ahead. -/
theorem made_or_ahead (given : before ++ a :: after = made ++ rest) :
    (∃ more, made = before ++ a :: more) ∨
      ∃ others, before = made ++ others ∧ rest = others ++ a :: after := by
  rcases List.append_eq_append_iff.mp given with ⟨others, made_eq, rest_eq⟩ | ahead
  · cases others with
    | nil => exact .inr ⟨[], by rw [made_eq, List.append_nil, List.append_nil], rest_eq.symm⟩
    | cons b more =>
      obtain ⟨rfl, -⟩ := List.cons.inj rest_eq
      exact .inl ⟨more, made_eq⟩
  · exact .inr ahead

/-- The next one that is ahead is no later than a given one. -/
theorem next_ahead (ahead : others ++ a :: after = b :: more) :
    ∃ between, others ++ [a] = b :: between := by
  cases others with
  | nil => exact ⟨[], by rw [(List.cons.inj ahead).1]; rfl⟩
  | cons c others => exact ⟨others ++ [a], by rw [(List.cons.inj ahead).1]; rfl⟩

end Attempts

end AprsWx.Dht
