import AprsWx.Lib.Sphere
import AprsWx.Packet

/-!
# Distance and bearing

In exact arithmetic, `setBearingDistance` computes the polar coordinates of a position as seen
from another.

* `distanceBearing_eq`: the numbers it computes.
* `setBearingDistance_polar`: distance and bearing give the position back.
-/

namespace AprsWx

open Double Sphere

/-- The radius of the earth in km. -/
noncomputable def earthRadius : ℝ := 6371

/-- Degrees as radians. -/
noncomputable def radians (degrees : ℝ) : ℝ := Real.pi * (degrees / 180)

theorem deg2rad_fin (x : ℝ) : deg2rad (.fin x : ExReal) = .fin (radians x) := by
  unfold deg2rad radians
  rw [ExReal.pi_eq, ExReal.ofRat_eq, ExReal.fin_div (by norm_num), ExReal.fin_mul]
  norm_num

theorem rad2deg_fin (x : ℝ) : rad2deg (.fin x : ExReal) = .fin (180 * (x / Real.pi)) := by
  unfold rad2deg
  rw [ExReal.pi_eq, ExReal.ofRat_eq, ExReal.fin_div Real.pi_ne_zero, ExReal.fin_mul]
  norm_num

section Distance

variable (lat₁ lon₁ lat₂ lon₂ : ℝ)

/-- The distance and the bearing, in km and in degrees. -/
theorem distanceBearing_eq :
    distanceBearing (.fin lat₁ : ExReal) (.fin lon₁) (.fin lat₂) (.fin lon₂) =
      (.fin (angle (radians lat₁) (radians lon₁) (radians lat₂) (radians lon₂) * earthRadius),
        .fin (180 * (wrapped (direction (radians lat₁) (radians lon₁) (radians lat₂) (radians lon₂)) /
          Real.pi))) := by
  have half : ∀ x : ℝ, ExReal.fin x / ExReal.fin 2 = ExReal.fin (x / 2) := fun _ =>
    ExReal.fin_div two_ne_zero
  have two : (ofRat 2 : ExReal) = .fin 2 := by
    rw [ExReal.ofRat_eq]
    norm_num
  have zero : (ofRat 0 : ExReal) = .fin 0 := by
    rw [ExReal.ofRat_eq]
    norm_num
  have km : (ofRat 6371 : ExReal) = .fin earthRadius := by
    rw [ExReal.ofRat_eq, earthRadius]
    norm_num
  unfold distanceBearing
  simp only [deg2rad_fin, ExReal.fin_sub, half, ExReal.sin_fin, ExReal.cos_fin, ExReal.fin_mul,
    ExReal.fin_add, ExReal.atan2_fin, ExReal.pi_eq, zero, two, km, ExReal.lt_fin]
  -- inside its domain the sine of half the angle is a number
  have nonneg := hav_nonneg (radians lat₁) (radians lon₁) (radians lat₂) (radians lon₂)
  have low := neg_one_le_sqrt_hav (radians lat₁) (radians lon₁) (radians lat₂) (radians lon₂)
  have high := sqrt_hav_le_one (radians lat₁) (radians lon₁) (radians lat₂) (radians lon₂)
  unfold hav at nonneg low high
  rw [ExReal.sqrt_fin nonneg, ExReal.asin_fin low high]
  simp only [ExReal.fin_mul]
  refine Prod.ext rfl ?_
  rw [← rad2deg_fin, wrapped, apply_ite ExReal.fin]
  rfl

/-- A position with coordinates. -/
noncomputable def AprsPosition.placed (p : AprsPosition ExReal) (lat lon : ℝ) :
    AprsPosition ExReal :=
  { p with mLat := some (.fin lat), mLon := some (.fin lon) }

variable {σ : Type} (st : σ) (this other : AprsPosition ExReal)

theorem setBearingDistance_run :
    ((this.placed lat₂ lon₂).setBearingDistance (other.placed lat₁ lon₁) :
        EStateM Stop σ (AprsPosition ExReal × Bool)).run st =
      .ok ({ this.placed lat₂ lon₂ with
        mDistance := some (.fin
          (angle (radians lat₁) (radians lon₁) (radians lat₂) (radians lon₂) * earthRadius))
        mBearing := some (.fin (180 * (wrapped
          (direction (radians lat₁) (radians lon₁) (radians lat₂) (radians lon₂)) / Real.pi))) },
        true) st := by
  have numbers := distanceBearing_eq lat₁ lon₁ lat₂ lon₂
  have computed : ((this.placed lat₂ lon₂).setBearingDistance (other.placed lat₁ lon₁) :
      EStateM Stop σ (AprsPosition ExReal × Bool)) =
        pure ({ this.placed lat₂ lon₂ with
          mDistance := some (distanceBearing (.fin lat₁) (.fin lon₁) (.fin lat₂) (.fin lon₂)).1
          mBearing := some (distanceBearing (.fin lat₁) (.fin lon₁) (.fin lat₂) (.fin lon₂)).2 },
          true) := rfl
  rw [computed, numbers]
  rfl

/-- A position with the distance and the bearing that were computed for it. -/
noncomputable def AprsPosition.seen (p : AprsPosition ExReal) (distance bearing : ℝ) :
    AprsPosition ExReal :=
  { p with mDistance := some (.fin distance), mBearing := some (.fin bearing) }

/-- The place `φ₂`, `l₂` is at the angle `δ` and in the direction `θ` as seen from `φ₁`, `l₁`. -/
structure IsPolar (φ₁ l₁ φ₂ l₂ δ θ : ℝ) : Prop where
  angle_nonneg : 0 ≤ δ
  angle_le_pi : δ ≤ Real.pi
  angle_eq_arccos : δ = Real.arccos
    (Real.sin φ₁ * Real.sin φ₂ + Real.cos φ₁ * Real.cos φ₂ * Real.cos (l₂ - l₁))
  sin_lat : Real.sin φ₂ = Real.sin φ₁ * Real.cos δ + Real.cos φ₁ * Real.sin δ * Real.cos θ
  cos_lat_mul_sin : Real.cos φ₂ * Real.sin (l₂ - l₁) = Real.sin δ * Real.sin θ
  cos_lat_mul_cos : Real.cos φ₂ * Real.cos (l₂ - l₁) =
    Real.cos φ₁ * Real.cos δ - Real.sin φ₁ * Real.sin δ * Real.cos θ

end Distance

/-- Where all coordinates are present, `setBearingDistance` returns true and computes polar
coordinates: the haversine is in the domain of the arcsine, the distance is that on the great
circle and the same from both sides, and angle and bearing give the position back. -/
theorem setBearingDistance_polar {σ : Type} (st : σ) (this other : AprsPosition ExReal)
    (lat₁ lon₁ lat₂ lon₂ : ℝ) :
    0 ≤ hav (radians lat₁) (radians lon₁) (radians lat₂) (radians lon₂) ∧
      hav (radians lat₁) (radians lon₁) (radians lat₂) (radians lon₂) ≤ 1 ∧
      ∃ distance bearing back : ℝ,
        ((this.placed lat₂ lon₂).setBearingDistance (other.placed lat₁ lon₁) :
            EStateM Stop σ (AprsPosition ExReal × Bool)).run st =
          .ok ((this.placed lat₂ lon₂).seen distance bearing, true) st ∧
        ((other.placed lat₁ lon₁).setBearingDistance (this.placed lat₂ lon₂) :
            EStateM Stop σ (AprsPosition ExReal × Bool)).run st =
          .ok ((other.placed lat₁ lon₁).seen distance back, true) st ∧
        0 ≤ bearing ∧ bearing < 360 ∧
        IsPolar (radians lat₁) (radians lon₁) (radians lat₂) (radians lon₂) (distance / 6371)
          (radians bearing) := by
  have there := setBearingDistance_run lat₁ lon₁ lat₂ lon₂ st this other
  have back := setBearingDistance_run lat₂ lon₂ lat₁ lon₁ st other this
  rw [angle_comm (radians lat₂)] at back
  refine ⟨hav_nonneg .., hav_le_one .., _, _, _, there, back, ?_, ?_, ?_⟩
  all_goals generalize radians lat₁ = φ₁, radians lon₁ = l₁, radians lat₂ = φ₂, radians lon₂ = l₂
  · have nonneg : 0 ≤ wrapped (direction φ₁ l₁ φ₂ l₂) := wrapped_nonneg (Complex.neg_pi_lt_arg _)
    have := Real.pi_pos
    positivity
  · have less : wrapped (direction φ₁ l₁ φ₂ l₂) < 2 * Real.pi := wrapped_lt (Complex.arg_le_pi _)
    have turn : wrapped (direction φ₁ l₁ φ₂ l₂) / Real.pi < 2 := by
      rw [div_lt_iff₀ Real.pi_pos]
      exact less
    linarith
  · have angle_eq : angle φ₁ l₁ φ₂ l₂ * earthRadius / 6371 = angle φ₁ l₁ φ₂ l₂ :=
      mul_div_cancel_right₀ _ (by norm_num [earthRadius])
    have direction_eq : radians (180 * (wrapped (direction φ₁ l₁ φ₂ l₂) / Real.pi)) =
        wrapped (direction φ₁ l₁ φ₂ l₂) := by
      have pi := Real.pi_ne_zero
      unfold radians
      field_simp
    have cosine : Real.sin (angle φ₁ l₁ φ₂ l₂) * Real.cos (wrapped (direction φ₁ l₁ φ₂ l₂)) =
        north φ₁ l₁ φ₂ l₂ := by
      rw [cos_wrapped, sin_angle_mul_cos]
    have sine : Real.sin (angle φ₁ l₁ φ₂ l₂) * Real.sin (wrapped (direction φ₁ l₁ φ₂ l₂)) =
        east l₁ φ₂ l₂ := by
      rw [sin_wrapped, sin_angle_mul_sin]
    rw [angle_eq, direction_eq]
    exact ⟨angle_nonneg .., angle_le_pi .., angle_eq_arccos .., sin_lat _ _ _ _ cosine,
      cos_lat_mul_sin _ _ _ _ sine, cos_lat_mul_cos _ _ _ _ cosine⟩

end AprsWx
