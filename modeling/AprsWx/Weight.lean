import Mathlib.Analysis.Real.Pi.Bounds
import Mathlib.Analysis.Real.Pi.Irrational
import AprsWx.Bearing
import AprsWx.Lib.Window
import AprsWx.WeatherReport
import AprsWx.WeatherText

/-!
# The weight of a report

In exact arithmetic, the weight that `decode` gives a report is the sine window of the radius at
its distance, wherever the station is.

* `decode_hannValue`: the weight of a decoded report.
* `hannValue_decays_iff`: at which distances it is the weight of a window.
* `decode_farPacket`: a station far beyond the radius that has weight.
-/

namespace AprsWx

open Double Prog SineWindow

/-! ## The weight -/

theorem hannValue_fin {R : ℝ} (radius : R ≠ 0) (D : ℝ) (mHannValue : Option ExReal) :
    hannValue (some (.fin R)) (some (.fin D)) mHannValue = some (.fin (window R D)) := by
  unfold hannValue window
  have two : (ofRat 2 : ExReal) = .fin 2 := by
    rw [ExReal.ofRat_eq]
    norm_num
  simp only [ExReal.pi_eq, ExReal.fin_sub, ExReal.fin_mul, two]
  rw [mul_two, ExReal.fin_div (add_self_ne_zero radius), ExReal.sin_fin, ExReal.fin_mul]

/-- The weight at a distance, in an object with the radius `R`. -/
noncomputable def weightAt (R D : ℝ) : ℝ :=
  match hannValue (some (.fin R : ExReal)) (some (.fin D)) none with
  | some (.fin w) => w
  | _ => 0

section Decode

variable {F : Type} [CDouble F]

/-- Distance and weight of a report come from its coordinates. -/
theorem weatherReport_weight (mQthPosition : AprsPosition F) (mRadius : Option F)
    (text : List Char) (wxReport : AprsWxReport F) :
    (weatherReport mQthPosition mRadius text wxReport).mDistance =
        (wxReport.toAprsPosition.located mQthPosition).mDistance ∧
      (weatherReport mQthPosition mRadius text wxReport).mHannValue =
        hannValue mRadius (wxReport.toAprsPosition.located mQthPosition).mDistance
          wxReport.mHannValue := by
  have fields := (weatherFields_frame (text.drop 7) (windValues text wxReport)).1
  have wind : (windValues text wxReport).toAprsPosition = wxReport.toAprsPosition := by
    simp [windValues]
  rw [wind] at fields
  have same : (wxReport.toAprsPosition.located mQthPosition).mHannValue = wxReport.mHannValue := by
    unfold AprsPosition.located
    split <;> rfl
  constructor
  · rw [← fields]
    rfl
  · rw [← same, ← fields]
    rfl

/-- Distance and weight of what `decode` fills in, from its coordinates. -/
theorem weatherOf_weight (now : Int) (mQthPosition : AprsPosition F) (mRadius : Option F)
    (name text : List Char) (mLat mLon : F) :
    ((weatherOf now mQthPosition mRadius name text mLat mLon).mDistance =
        match mQthPosition.mLat, mQthPosition.mLon with
        | some lat, some lon => some (distanceBearing lat lon mLat mLon).1
        | _, _ => none) ∧
      (weatherOf now mQthPosition mRadius name text mLat mLon).mHannValue =
        hannValue mRadius (weatherOf now mQthPosition mRadius name text mLat mLon).mDistance none := by
  unfold weatherOf
  generalize (positionText text).drop 19 = weather
  rw [(weatherReport_weight _ _ _ _).1, (weatherReport_weight _ _ _ _).2]
  refine ⟨?_, rfl⟩
  unfold AprsPosition.located
  cases mQthPosition.mLat with
  | none => rfl
  | some lat =>
    cases mQthPosition.mLon with
    | none => rfl
    | some lon => rfl

/-- A decoded weather report has the weight of its distance. -/
theorem decode_hannValue {now : Int} {s t : AprsIs F} {packet : StdString} {wx : AprsWxReport F}
    (decoded : (decode now).run (s.received packet) = .ok (.report wx) t)
    (status : wx.mPacketStatus = .WxPacket) :
    wx.mHannValue = hannValue s.mRadius wx.mDistance none := by
  obtain ⟨-, mLat, mLon, equal⟩ := decode_weather decoded status
  cases equal
  exact (weatherOf_weight _ _ _ _ _ _ _).2

end Decode

theorem weightAt_eq {R : ℝ} (radius : R ≠ 0) : weightAt R = window R := by
  funext D
  unfold weightAt
  rw [hannValue_fin radius]

/-- The weight of a decoded report at the distance `D` from an object with the radius `R` is
`weightAt R D`. It is the weight of a window up to the radius, and past it at the odd multiples of
the radius only: everywhere else past the radius it is more than 0. -/
theorem hannValue_decays_iff {R : ℝ} (radius : 0 < R) (D : ℝ) :
    (∀ (now : Int) (s t : AprsIs ExReal) (packet : StdString) (wx : AprsWxReport ExReal),
      (decode now).run (s.received packet) = .ok (.report wx) t → wx.mPacketStatus = .WxPacket →
      s.mRadius = some (.fin R) → wx.mDistance = some (.fin D) →
      wx.mHannValue = some (.fin (weightAt R D))) ∧
    (DecaysAt (weightAt R) R D ↔ D ≤ R ∨ OddMultiple R D) := by
  rw [weightAt_eq radius.ne']
  refine ⟨?_, window_decaysAt_iff radius⟩
  intro now s t packet wx decoded status mRadius mDistance
  rw [decode_hannValue decoded status, mRadius, mDistance, hannValue_fin radius.ne']

/-! ## A far station -/

/-- A report from the equator at 180 degrees east. -/
def farText : WeatherText :=
  .still (.whole .zeros) (.whole (.of ['1', '8', '0'] rfl))

def farPacket : StdString := ⟨"A>B:!0000.00N/18000.00E_   /   \n".toList, by decide⟩

/-- An object at the other side of the earth, with a radius of 1 km. -/
noncomputable def farStation : AprsIs ExReal :=
  { mCallSign := "N0CALL".toList, mPassCode := "12345".toList, mFilter := []
    mQthPosition := { mTimePoint := 0, mLat := some (.fin 0), mLon := some (.fin 0) }
    mRadius := some (.fin 1) }

/-- Half the circumference of the earth is no whole number of kilometres. -/
theorem not_oddMultiple_far : ¬ OddMultiple 1 (Real.pi * earthRadius) := by
  rintro ⟨k, equal⟩
  have rational : Real.pi * ((6371 : ℕ) : ℝ) = ((2 * k + 1 : ℤ) : ℝ) := by
    rw [mul_one] at equal
    rw [← equal, earthRadius]
    norm_num
  have irrational : Irrational (Real.pi * ((6371 : ℕ) : ℝ)) :=
    irrational_pi.mul_natCast (by norm_num)
  exact irrational.ne_int _ rational

theorem hannValue_decays_iff_farStation :
    DecaysAt (weightAt 1) 1 (Real.pi * earthRadius) ↔
      Real.pi * earthRadius ≤ 1 ∨ OddMultiple 1 (Real.pi * earthRadius) :=
  (hannValue_decays_iff one_pos _).2

/-- Its report has weight, at about 20015 times the radius. -/
theorem decode_farPacket : ∃ wx t D w,
    (decode 0).run (farStation.received farPacket) = .ok (.report wx) t ∧
      wx.mPacketStatus = .WxPacket ∧ wx.mDistance = some (.fin D) ∧ 20000 ≤ D ∧
      wx.mHannValue = some (.fin w) ∧ w ≠ 0 := by
  have text : farPacket.chars = farText.text := by decide
  have parsed := farText.parse_text 0 farStation.mQthPosition farStation.mRadius
  rw [← text] at parsed
  obtain ⟨t, decoded⟩ := decode_of_parse parsed
  obtain ⟨distance, weight⟩ := weatherReport_weight farStation.mQthPosition farStation.mRadius
    farText.weather (farText.header 0)
  have lat : farText.lat.value = 0 := by decide +kernel
  have lon : farText.lon.value = 180 := by decide +kernel
  have far : ((farText.header 0).toAprsPosition.located farStation.mQthPosition).mDistance =
      some (.fin (Real.pi * earthRadius)) := by
    show some (distanceBearing (.fin 0 : ExReal) (.fin 0) (exact farText.lat.value)
      (exact farText.lon.value)).1 = _
    rw [lat, lon, exact, exact, distanceBearing_eq]
    have half : Sphere.angle (radians 0) (radians 0) (radians ((0 : ℚ) : ℝ))
        (radians ((180 : ℚ) : ℝ)) = Real.pi := by
      rw [Sphere.angle_eq_arccos]
      norm_num [Sphere.up, radians]
    rw [half]
  rw [far] at distance weight
  refine ⟨_, _, _, window 1 (Real.pi * earthRadius), decoded, ?_, distance, ?_, ?_, ?_⟩
  · exact congrArg AprsPacket.mPacketStatus (weatherReport_frame _ _ _ _).1
  · have := Real.pi_gt_d2
    rw [earthRadius]
    linarith
  · rw [weight]
    exact hannValue_fin one_ne_zero _ _
  · rw [Ne, window_eq_zero_iff one_ne_zero]
    exact not_oddMultiple_far

end AprsWx
