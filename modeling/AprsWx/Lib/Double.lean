import Mathlib.Analysis.SpecialFunctions.Complex.Arg
import Mathlib.Analysis.SpecialFunctions.Pow.Real
import Mathlib.Analysis.SpecialFunctions.Trigonometric.Inverse
import AprsWx.Lib.Numeral

/-!
# Doubles

A program that computes with `double` is modelled over an arbitrary type `F` with the
operations it uses (`CDouble`), and no laws: what is proved over every such `F` holds
for binary64 arithmetic with its rounding, and for any other. Where a result is about
numbers, `F` is `ExReal`: exact real arithmetic, with the infinities and the nan that a
numeral can spell and that an operation outside its domain gives.
-/

namespace Double

open Numeral

/-- A floating type as the C++ library has it: `ofRat` rounds a number, `lt` is `<`. -/
class CDouble (F : Type) extends Add F, Sub F, Mul F, Div F, Neg F where
  ofRat : ℚ → F
  infinity : F
  nan : F
  lt : F → F → Bool
  pi : F
  sin : F → F
  cos : F → F
  asin : F → F
  sqrt : F → F
  exp : F → F
  atan2 : F → F → F
  pow : F → F → F

export CDouble (ofRat)

/-- The value of a literal: its magnitude, negated under a minus sign. -/
def ofLiteral {F : Type} [CDouble F] (l : Literal) : F :=
  let v : F := match l.magnitude with
    | .finite q => ofRat q
    | .infinity => CDouble.infinity
    | .nan => CDouble.nan
  if l.neg then -v else v

/-! ## Exact arithmetic -/

/-- A real number, a signed infinity or nan. Zeros have no sign here. -/
inductive ExReal
  | fin (x : ℝ)
  | inf (neg : Bool)
  | nan

namespace ExReal

noncomputable section

open Classical

def neg : ExReal → ExReal
  | fin x => fin (-x)
  | inf s => inf !s
  | nan => nan

def add : ExReal → ExReal → ExReal
  | fin x, fin y => fin (x + y)
  | fin _, inf t => inf t
  | inf s, fin _ => inf s
  | inf s, inf t => if s = t then inf s else nan
  | _, _ => nan

def mul : ExReal → ExReal → ExReal
  | fin x, fin y => fin (x * y)
  | fin x, inf t => if x = 0 then nan else inf (decide (x < 0) != t)
  | inf s, fin y => if y = 0 then nan else inf (s != decide (y < 0))
  | inf s, inf t => inf (s != t)
  | _, _ => nan

def div : ExReal → ExReal → ExReal
  | fin x, fin y =>
    if y ≠ 0 then fin (x / y) else if x = 0 then nan else inf (decide (x < 0))
  | fin _, inf _ => fin 0
  | inf s, fin y => inf (s != decide (y < 0))
  | _, _ => nan

def lt : ExReal → ExReal → Bool
  | fin x, fin y => decide (x < y)
  | fin _, inf t => !t
  | inf s, fin _ => s
  | inf s, inf t => s && !t
  | _, _ => false

/-- A function that is real where its argument is in `dom`, and nan elsewhere. -/
def lift (dom : ℝ → Prop) (f : ℝ → ℝ) : ExReal → ExReal
  | fin x => if dom x then fin (f x) else nan
  | _ => nan

def sqrt : ExReal → ExReal
  | inf false => inf false
  | x => lift (fun x => 0 ≤ x) Real.sqrt x

def exp : ExReal → ExReal
  | inf s => if s then fin 0 else inf false
  | x => lift (fun _ => True) Real.exp x

/-- `atan2 y x` is the argument of `x + iy`; of an infinite argument it is not used. -/
def atan2 : ExReal → ExReal → ExReal
  | fin y, fin x => fin (Complex.arg ⟨x, y⟩)
  | _, _ => nan

/-- `pow` to a power that is no integer: nan of a negative base. -/
def pow : ExReal → ExReal → ExReal
  | fin x, fin y => if 0 ≤ x then fin (x ^ y) else nan
  | inf _, fin y => if 0 < y then inf false else fin 0
  | _, _ => nan

instance : CDouble ExReal where
  add := add
  sub x y := add x (neg y)
  mul := mul
  div := div
  neg := neg
  ofRat q := fin q
  infinity := inf false
  nan := nan
  lt := lt
  pi := fin Real.pi
  sin := lift (fun _ => True) Real.sin
  cos := lift (fun _ => True) Real.cos
  asin := lift (fun x => -1 ≤ x ∧ x ≤ 1) Real.arcsin
  sqrt := sqrt
  exp := exp
  atan2 := atan2
  pow := pow

end

@[simp] theorem ofRat_eq (q : ℚ) : (ofRat q : ExReal) = fin q := rfl

@[simp] theorem fin_add (x y : ℝ) : fin x + fin y = fin (x + y) := rfl

@[simp] theorem fin_mul (x y : ℝ) : fin x * fin y = fin (x * y) := rfl

@[simp] theorem fin_sub (x y : ℝ) : fin x - fin y = fin (x - y) := by
  show fin (x + -y) = _
  rw [sub_eq_add_neg]

@[simp] theorem pi_eq : (CDouble.pi : ExReal) = fin Real.pi := rfl

@[simp] theorem sin_fin (x : ℝ) : CDouble.sin (fin x) = fin (Real.sin x) := if_pos trivial

@[simp] theorem cos_fin (x : ℝ) : CDouble.cos (fin x) = fin (Real.cos x) := if_pos trivial

@[simp] theorem atan2_fin (y x : ℝ) : CDouble.atan2 (fin y) (fin x) = fin (Complex.arg ⟨x, y⟩) := rfl

theorem sqrt_fin {x : ℝ} (hx : 0 ≤ x) : CDouble.sqrt (fin x) = fin (√x) := if_pos hx

theorem asin_fin {x : ℝ} (low : -1 ≤ x) (high : x ≤ 1) :
    CDouble.asin (fin x) = fin (Real.arcsin x) := if_pos ⟨low, high⟩

@[simp] theorem lt_fin {x y : ℝ} : CDouble.lt (fin x) (fin y) = true ↔ x < y := decide_eq_true_iff

theorem fin_div {x y : ℝ} (hy : y ≠ 0) : fin x / fin y = fin (x / y) := if_pos hy

/-- The value of a finite literal. -/
theorem ofLiteral_finite (b : Bool) (q : ℚ) :
    (ofLiteral ⟨b, .finite q⟩ : ExReal) = fin (if b then -q else q : ℚ) := by
  cases b with
  | false => rfl
  | true =>
    show fin (-(q : ℝ)) = fin ((-q : ℚ) : ℝ)
    rw [Rat.cast_neg]

/-! ### Finite results

An operation with a finite result has finite arguments. -/

theorem fin_of_add {a b : ExReal} {x : ℝ} (sum : a + b = fin x) :
    (∃ y, a = fin y) ∧ ∃ z, b = fin z := by
  cases a with
  | fin y =>
    cases b with
    | fin z => exact ⟨⟨y, rfl⟩, z, rfl⟩
    | inf t => exact ExReal.noConfusion (show inf t = fin x from sum)
    | nan => exact ExReal.noConfusion (show nan = fin x from sum)
  | inf s =>
    cases b with
    | fin z => exact ExReal.noConfusion (show inf s = fin x from sum)
    | inf t =>
      change (if s = t then inf s else nan) = fin x at sum
      split at sum <;> exact ExReal.noConfusion sum
    | nan => exact ExReal.noConfusion (show nan = fin x from sum)
  | nan => exact ExReal.noConfusion (show nan = fin x from sum)

theorem fin_of_neg {a : ExReal} {x : ℝ} (negated : neg a = fin x) : ∃ y, a = fin y := by
  cases a with
  | fin y => exact ⟨y, rfl⟩
  | inf s => exact ExReal.noConfusion negated
  | nan => exact ExReal.noConfusion negated

theorem fin_of_sub {a b : ExReal} {x : ℝ} (difference : a - b = fin x) :
    (∃ y, a = fin y) ∧ ∃ z, b = fin z := by
  obtain ⟨left, z, right⟩ := fin_of_add (show a + neg b = fin x from difference)
  exact ⟨left, fin_of_neg right⟩

theorem fin_of_mul {a b : ExReal} {x : ℝ} (product : a * b = fin x) :
    (∃ y, a = fin y) ∧ ∃ z, b = fin z := by
  cases a with
  | fin y =>
    cases b with
    | fin z => exact ⟨⟨y, rfl⟩, z, rfl⟩
    | inf t =>
      change (if y = 0 then nan else inf (decide (y < 0) != t)) = fin x at product
      split at product <;> exact ExReal.noConfusion product
    | nan => exact ExReal.noConfusion (show nan = fin x from product)
  | inf s =>
    cases b with
    | fin z =>
      change (if z = 0 then nan else inf (s != decide (z < 0))) = fin x at product
      split at product <;> exact ExReal.noConfusion product
    | inf t => exact ExReal.noConfusion (show inf _ = fin x from product)
    | nan => exact ExReal.noConfusion (show nan = fin x from product)
  | nan => exact ExReal.noConfusion (show nan = fin x from product)

/-- An infinite divisor would give 0. -/
theorem fin_of_div {a : ExReal} {x y : ℝ} (quotient : a / fin y = fin x) : ∃ z, a = fin z := by
  cases a with
  | fin z => exact ⟨z, rfl⟩
  | inf s => exact ExReal.noConfusion (show inf _ = fin x from quotient)
  | nan => exact ExReal.noConfusion (show nan = fin x from quotient)

theorem fin_of_lift {dom : ℝ → Prop} {f : ℝ → ℝ} {a : ExReal} {x : ℝ}
    (value : lift dom f a = fin x) : ∃ y, a = fin y := by
  cases a with
  | fin y => exact ⟨y, rfl⟩
  | inf s => exact ExReal.noConfusion value
  | nan => exact ExReal.noConfusion value

theorem fin_of_sqrt {a : ExReal} {x : ℝ} (root : CDouble.sqrt a = fin x) : ∃ y, a = fin y := by
  cases a with
  | fin y => exact ⟨y, rfl⟩
  | inf s => cases s <;> exact ExReal.noConfusion root
  | nan => exact ExReal.noConfusion root

/-- Only a finite literal has a finite value. -/
theorem fin_of_ofLiteral {l : Literal} {x : ℝ} (value : ofLiteral l = fin x) :
    ∃ q, l.number = some q ∧ x = q := by
  obtain ⟨neg, magnitude⟩ := l
  cases magnitude with
  | finite q =>
    rw [ofLiteral_finite] at value
    exact ⟨_, rfl, (ExReal.fin.inj value).symm⟩
  | infinity => cases neg <;> exact ExReal.noConfusion value
  | nan => cases neg <;> exact ExReal.noConfusion value

end ExReal

end Double
