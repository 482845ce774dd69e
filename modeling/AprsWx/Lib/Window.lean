import Mathlib.Analysis.SpecialFunctions.Trigonometric.Basic
import Mathlib.Tactic.LinearCombination
import Mathlib.Tactic.Positivity

/-!
# The sine window

The weight of what is at a distance `D` from the centre of a window of the radius `R`: 1 at the
centre, and falling to 0 at the radius. Past the radius the sine goes on.

* `window_anti`: within the radius the weight does not grow with the distance.
* `window_eq_zero_iff`: the weight is 0 at the odd multiples of the radius only.
-/

namespace SineWindow

open Real

noncomputable section

/-- The square of the sine of `π (R - D) / 2R`. -/
def window (R D : ℝ) : ℝ := sin (π * (R - D) / (R + R)) * sin (π * (R - D) / (R + R))

variable {R D D₁ D₂ : ℝ}

theorem window_nonneg (R D : ℝ) : 0 ≤ window R D := mul_self_nonneg _

theorem window_le_one (R D : ℝ) : window R D ≤ 1 := by
  have bound := sin_sq_le_one (π * (R - D) / (R + R))
  rwa [sq] at bound

theorem add_self_ne_zero (radius : R ≠ 0) : R + R ≠ 0 := by
  rw [← two_mul]
  exact mul_ne_zero two_ne_zero radius

theorem window_center (radius : R ≠ 0) : window R 0 = 1 := by
  have quarter : π * (R - 0) / (R + R) = π / 2 := by
    field_simp
    ring
  unfold window
  rw [quarter, sin_pi_div_two, mul_one]

/-- The distance is an odd multiple of the radius. -/
def OddMultiple (R D : ℝ) : Prop := ∃ k : ℤ, D = (2 * k + 1 : ℤ) * R

theorem window_eq_zero_iff (radius : R ≠ 0) : window R D = 0 ↔ OddMultiple R D := by
  unfold window OddMultiple
  rw [mul_self_eq_zero, sin_eq_zero_iff]
  have pi := pi_ne_zero
  constructor
  · rintro ⟨n, equal⟩
    refine ⟨-n, ?_⟩
    rw [eq_div_iff (add_self_ne_zero radius)] at equal
    have cancelled : (n : ℝ) * (R + R) = R - D :=
      mul_left_cancel₀ pi (by linear_combination equal)
    push_cast
    linear_combination cancelled
  · rintro ⟨k, rfl⟩
    refine ⟨-k, ?_⟩
    rw [eq_div_iff (add_self_ne_zero radius)]
    push_cast
    ring

theorem window_pos_iff (radius : R ≠ 0) : 0 < window R D ↔ ¬ OddMultiple R D := by
  rw [← window_eq_zero_iff radius, (window_nonneg R D).lt_iff_ne, ne_comm]

/-- Within the radius the argument of the sine falls from `π / 2` to 0. -/
theorem window_anti (radius : 0 < R) (start : 0 ≤ D₁) (farther : D₁ ≤ D₂) (inside : D₂ ≤ R) :
    window R D₂ ≤ window R D₁ := by
  have twice : 0 < R + R := by positivity
  have low : 0 ≤ π * (R - D₂) / (R + R) := by
    have := sub_nonneg.mpr inside
    positivity
  have order : π * (R - D₂) / (R + R) ≤ π * (R - D₁) / (R + R) := by
    gcongr
  have high : π * (R - D₁) / (R + R) ≤ π / 2 := by
    rw [div_le_iff₀ twice]
    nlinarith [pi_pos]
  have sines : sin (π * (R - D₂) / (R + R)) ≤ sin (π * (R - D₁) / (R + R)) :=
    sin_le_sin_of_le_of_le_pi_div_two (by linarith [pi_pos]) high order
  have nonneg : 0 ≤ sin (π * (R - D₂) / (R + R)) :=
    sin_nonneg_of_nonneg_of_le_pi low (by linarith [pi_pos])
  exact mul_self_le_mul_self nonneg sines

/-- At a distance `D` a weight is that of a window: it is between 0 and 1, 1 at the centre, 0
from the radius on, and not above the weight of what is closer. -/
structure DecaysAt (weight : ℝ → ℝ) (R D : ℝ) : Prop where
  nonneg : 0 ≤ weight D
  le_one : weight D ≤ 1
  center : D = 0 → weight D = 1
  outside : R ≤ D → weight D = 0
  anti : ∀ D₁, 0 ≤ D₁ → D₁ ≤ D → weight D ≤ weight D₁

/-- The sine window decays within the radius and, past it, at its odd multiples. -/
theorem window_decaysAt_iff (radius : 0 < R) :
    DecaysAt (window R) R D ↔ D ≤ R ∨ OddMultiple R D := by
  constructor
  · intro decays
    rcases le_total D R with inside | outside
    · exact .inl inside
    · exact .inr ((window_eq_zero_iff radius.ne').mp (decays.outside outside))
  · intro place
    refine ⟨window_nonneg R D, window_le_one R D, ?_, ?_, ?_⟩
    · rintro rfl
      exact window_center radius.ne'
    · intro outside
      rw [window_eq_zero_iff radius.ne']
      rcases place with inside | odd
      · exact ⟨0, by rw [le_antisymm inside outside]; simp⟩
      · exact odd
    · intro D₁ start closer
      rcases place with inside | odd
      · exact window_anti radius start closer inside
      · rw [(window_eq_zero_iff radius.ne').mpr odd]
        exact window_nonneg R D₁

end

end SineWindow
