import Mathlib.Analysis.SpecialFunctions.Complex.Arg
import Mathlib.Analysis.SpecialFunctions.Trigonometric.Inverse
import Mathlib.Tactic.LinearCombination

/-!
# Points on a sphere

Two points on the unit sphere, given by latitude and longitude: the angle between them by the
haversine formula, and the direction of the second as seen from the first. The latitudes are any
real numbers, so poles, equal points and antipodal points are included.

* `cos_angle`, `sin_angle_mul_cos`, `sin_angle_mul_sin`: angle and direction are the polar
  coordinates of the second point.
* `sin_lat`, `cos_lat_mul_sin`, `cos_lat_mul_cos`: the second point from its polar coordinates.
* `cos_wrapped`, `sin_wrapped`: a direction is the same with the wrap to the angles from 0 on.
-/

namespace Sphere

open Real

noncomputable section

/-- The haversine of the angle between the points with latitudes `φ₁`, `φ₂` and longitudes `l₁`,
`l₂`. -/
def hav (φ₁ l₁ φ₂ l₂ : ℝ) : ℝ :=
  sin ((φ₁ - φ₂) / 2) * sin ((φ₁ - φ₂) / 2) +
    cos φ₁ * cos φ₂ * (sin ((l₁ - l₂) / 2) * sin ((l₁ - l₂) / 2))

/-- The angle between the points, by the haversine formula. -/
def angle (φ₁ l₁ φ₂ l₂ : ℝ) : ℝ := 2 * arcsin (√(hav φ₁ l₁ φ₂ l₂))

/-- The parts of the second point in the direction of the first one, of the north and of the
east there. -/
def up (φ₁ l₁ φ₂ l₂ : ℝ) : ℝ := sin φ₁ * sin φ₂ + cos φ₁ * cos φ₂ * cos (l₂ - l₁)

def north (φ₁ l₁ φ₂ l₂ : ℝ) : ℝ := cos φ₁ * sin φ₂ - sin φ₁ * cos φ₂ * cos (l₂ - l₁)

def east (l₁ φ₂ l₂ : ℝ) : ℝ := sin (l₂ - l₁) * cos φ₂

/-- The direction of the second point, clockwise from the north. -/
def direction (φ₁ l₁ φ₂ l₂ : ℝ) : ℝ := Complex.arg ⟨north φ₁ l₁ φ₂ l₂, east l₁ φ₂ l₂⟩

variable (φ₁ l₁ φ₂ l₂ : ℝ)

theorem up_sq_add : up φ₁ l₁ φ₂ l₂ ^ 2 + north φ₁ l₁ φ₂ l₂ ^ 2 + east l₁ φ₂ l₂ ^ 2 = 1 := by
  unfold up north east
  have first := sin_sq_add_cos_sq φ₁
  have second := sin_sq_add_cos_sq φ₂
  have longitude := sin_sq_add_cos_sq (l₂ - l₁)
  linear_combination (sin φ₂ ^ 2 + cos φ₂ ^ 2 * cos (l₂ - l₁) ^ 2) * first + second +
    cos φ₂ ^ 2 * longitude

theorem abs_up_le_one : |up φ₁ l₁ φ₂ l₂| ≤ 1 := by
  rw [← sq_le_one_iff_abs_le_one]
  have sum := up_sq_add φ₁ l₁ φ₂ l₂
  have := sq_nonneg (north φ₁ l₁ φ₂ l₂)
  have := sq_nonneg (east l₁ φ₂ l₂)
  linarith

theorem hav_eq : hav φ₁ l₁ φ₂ l₂ = (1 - up φ₁ l₁ φ₂ l₂) / 2 := by
  have half : ∀ x : ℝ, sin (x / 2) * sin (x / 2) = (1 - cos x) / 2 := by
    intro x
    have double := cos_sq (x / 2)
    rw [mul_div_cancel₀ x two_ne_zero] at double
    have one := sin_sq_add_cos_sq (x / 2)
    linear_combination one - double
  unfold hav up
  rw [half, half, cos_sub φ₁, ← cos_neg (l₂ - l₁), neg_sub]
  ring

theorem hav_nonneg : 0 ≤ hav φ₁ l₁ φ₂ l₂ := by
  rw [hav_eq]
  have := (abs_le.mp (abs_up_le_one φ₁ l₁ φ₂ l₂)).2
  linarith

theorem hav_le_one : hav φ₁ l₁ φ₂ l₂ ≤ 1 := by
  rw [hav_eq]
  have := (abs_le.mp (abs_up_le_one φ₁ l₁ φ₂ l₂)).1
  linarith

theorem hav_comm : hav φ₁ l₁ φ₂ l₂ = hav φ₂ l₂ φ₁ l₁ := by
  rw [hav_eq, hav_eq]
  unfold up
  rw [← cos_neg (l₂ - l₁), neg_sub]
  ring

theorem sqrt_hav_le_one : √(hav φ₁ l₁ φ₂ l₂) ≤ 1 := sqrt_le_one.mpr (hav_le_one φ₁ l₁ φ₂ l₂)

theorem neg_one_le_sqrt_hav : -1 ≤ √(hav φ₁ l₁ φ₂ l₂) := by
  have := sqrt_nonneg (hav φ₁ l₁ φ₂ l₂)
  linarith

/-! ## The angle -/

theorem angle_nonneg : 0 ≤ angle φ₁ l₁ φ₂ l₂ :=
  mul_nonneg zero_le_two (arcsin_nonneg.mpr (sqrt_nonneg _))

theorem angle_le_pi : angle φ₁ l₁ φ₂ l₂ ≤ π := by
  have := arcsin_le_pi_div_two (√(hav φ₁ l₁ φ₂ l₂))
  unfold angle
  linarith

theorem cos_angle : cos (angle φ₁ l₁ φ₂ l₂) = up φ₁ l₁ φ₂ l₂ := by
  have sine : sin (arcsin (√(hav φ₁ l₁ φ₂ l₂))) = √(hav φ₁ l₁ φ₂ l₂) :=
    sin_arcsin (neg_one_le_sqrt_hav φ₁ l₁ φ₂ l₂) (sqrt_hav_le_one φ₁ l₁ φ₂ l₂)
  unfold angle
  rw [cos_two_mul, cos_sq', sine, sq_sqrt (hav_nonneg φ₁ l₁ φ₂ l₂), hav_eq]
  ring

/-- The haversine formula gives the angle whose cosine is the inner product of the points. -/
theorem angle_eq_arccos : angle φ₁ l₁ φ₂ l₂ = arccos (up φ₁ l₁ φ₂ l₂) := by
  rw [← cos_angle, arccos_cos (angle_nonneg φ₁ l₁ φ₂ l₂) (angle_le_pi φ₁ l₁ φ₂ l₂)]

theorem sin_angle_sq :
    sin (angle φ₁ l₁ φ₂ l₂) ^ 2 = north φ₁ l₁ φ₂ l₂ ^ 2 + east l₁ φ₂ l₂ ^ 2 := by
  have sum := up_sq_add φ₁ l₁ φ₂ l₂
  rw [sin_sq, cos_angle]
  linarith

theorem sin_angle :
    sin (angle φ₁ l₁ φ₂ l₂) = ‖(⟨north φ₁ l₁ φ₂ l₂, east l₁ φ₂ l₂⟩ : ℂ)‖ := by
  have nonneg := sin_nonneg_of_nonneg_of_le_pi (angle_nonneg φ₁ l₁ φ₂ l₂) (angle_le_pi φ₁ l₁ φ₂ l₂)
  rw [Complex.norm_def, Complex.normSq_mk, ← sq, ← sq, ← sin_angle_sq, sqrt_sq nonneg]

theorem angle_comm : angle φ₁ l₁ φ₂ l₂ = angle φ₂ l₂ φ₁ l₁ := by
  unfold angle
  rw [hav_comm]

/-! ## Polar coordinates -/

/-- An angle with the sine and the cosine of the direction: at a pole, for equal points and for
antipodal points the sine of the angle is 0, and any direction will do. -/
theorem sin_angle_mul_cos :
    sin (angle φ₁ l₁ φ₂ l₂) * cos (direction φ₁ l₁ φ₂ l₂) = north φ₁ l₁ φ₂ l₂ := by
  rw [sin_angle]
  exact Complex.norm_mul_cos_arg _

theorem sin_angle_mul_sin :
    sin (angle φ₁ l₁ φ₂ l₂) * sin (direction φ₁ l₁ φ₂ l₂) = east l₁ φ₂ l₂ := by
  rw [sin_angle]
  exact Complex.norm_mul_sin_arg _

variable {θ : ℝ}

/-- The latitude of the second point, from its angle and direction. -/
theorem sin_lat (cosine : sin (angle φ₁ l₁ φ₂ l₂) * cos θ = north φ₁ l₁ φ₂ l₂) :
    sin φ₂ = sin φ₁ * cos (angle φ₁ l₁ φ₂ l₂) + cos φ₁ * sin (angle φ₁ l₁ φ₂ l₂) * cos θ := by
  rw [mul_assoc, cosine, cos_angle]
  unfold up north
  linear_combination -sin φ₂ * sin_sq_add_cos_sq φ₁

theorem cos_lat_mul_sin (sine : sin (angle φ₁ l₁ φ₂ l₂) * sin θ = east l₁ φ₂ l₂) :
    cos φ₂ * sin (l₂ - l₁) = sin (angle φ₁ l₁ φ₂ l₂) * sin θ := by
  rw [sine]
  exact mul_comm _ _

theorem cos_lat_mul_cos (cosine : sin (angle φ₁ l₁ φ₂ l₂) * cos θ = north φ₁ l₁ φ₂ l₂) :
    cos φ₂ * cos (l₂ - l₁) =
      cos φ₁ * cos (angle φ₁ l₁ φ₂ l₂) - sin φ₁ * sin (angle φ₁ l₁ φ₂ l₂) * cos θ := by
  rw [mul_assoc, cosine, cos_angle]
  unfold up north
  linear_combination -cos φ₂ * cos (l₂ - l₁) * sin_sq_add_cos_sq φ₁

/-! ## Directions from 0 on -/

/-- A direction with the wrap to the angles from 0 on. -/
def wrapped (θ : ℝ) : ℝ := if θ < 0 then 2 * π + θ else θ

theorem wrapped_nonneg (low : -π < θ) : 0 ≤ wrapped θ := by
  unfold wrapped
  split
  · linarith [pi_pos]
  · next positive => exact not_lt.mp positive

theorem wrapped_lt (high : θ ≤ π) : wrapped θ < 2 * π := by
  unfold wrapped
  split
  · linarith
  · linarith [pi_pos]

theorem cos_wrapped : cos (wrapped θ) = cos θ := by
  unfold wrapped
  split
  · rw [add_comm, cos_add_two_pi]
  · rfl

theorem sin_wrapped : sin (wrapped θ) = sin θ := by
  unfold wrapped
  split
  · rw [add_comm, sin_add_two_pi]
  · rfl

end

end Sphere
