import AprsWx.Heard
import AprsWx.Lib.ExtendedSum
import AprsWx.Reports
import AprsWx.Weight

/-!
# Divisors

The numbers that the daemon divides by for a pushed value, over whole runs in exact arithmetic:
twice the radius in the weight of a report, and the sums of weights.

* `aggregates_weights`: the weights that a slot adds up.
* `IsHeard.weight`: the weight of a report that is heard, from its place and that of the station.
* `main_divides_iff`: the runs without a divisor that is 0 or no number.
-/

namespace AprsWx

open Double Prog SineWindow

/-! ## The weights of a slot -/

section Weights

variable {F : Type} [CDouble F]

/-- The weights that a report adds in the turns of the loop over the table. -/
def AprsWxReport.weights (wx : AprsWxReport F) (items : List WeatherItem)
    (i : Fin weatherItemCount) : List F :=
  items.flatMap fun item =>
    if item.wxSym.idx = i ∧ (wx.mWeatherValue i).isSome then wx.mHannValue.toList else []

variable {sums : Sums F} {i : Fin weatherItemCount} {ws : List F}

theorem addTo_summed {slots : Slots F} (sum : slots i = summed ws) (x : F) :
    addTo slots i x i = summed (ws ++ [x]) := by
  rw [summed_concat]
  cases before : summed ws with
  | none => rw [addTo, Function.update_self, sum, before]
  | some s => rw [addTo, Function.update_self, sum, before]

theorem addItem_weights (sum : sums.2 i = summed ws) {wx : AprsWxReport F} {hann : F}
    (weight : wx.mHannValue = some hann) (item : WeatherItem) :
    (Sums.addItem wx hann sums item).2 i = summed (ws ++ wx.weights [item] i) := by
  unfold Sums.addItem AprsWxReport.weights
  rw [List.flatMap_singleton, weight, Option.toList_some]
  by_cases here : item.wxSym.idx = i
  · subst here
    cases wx.mWeatherValue item.wxSym.idx with
    | none => simpa using sum
    | some v =>
      rw [if_pos ⟨rfl, rfl⟩]
      exact addTo_summed sum hann
  · rw [if_neg fun visited => here visited.1, List.append_nil]
    cases wx.mWeatherValue item.wxSym.idx with
    | none => exact sum
    | some v => exact (Function.update_of_ne (Ne.symm here) _ _).trans sum

theorem addItems_weights (sum : sums.2 i = summed ws) {wx : AprsWxReport F} {hann : F}
    (weight : wx.mHannValue = some hann) (items : List WeatherItem) :
    (items.foldl (Sums.addItem wx hann) sums).2 i = summed (ws ++ wx.weights items i) := by
  induction items generalizing sums ws with
  | nil =>
    rw [AprsWxReport.weights, List.flatMap_nil, List.append_nil]
    exact sum
  | cons item items ih =>
    have rest := ih (addItem_weights sum weight item)
    rw [List.append_assoc] at rest
    have split : wx.weights (item :: items) i = wx.weights [item] i ++ wx.weights items i := by
      simp [AprsWxReport.weights]
    rw [List.foldl_cons, split]
    exact rest

/-- The weights of a slot are added up, report by report. -/
theorem aggregates_weights (reports : List (AprsWxReport F)) (i : Fin weatherItemCount) :
    (aggregates reports).2 i = summed (reports.flatMap fun wx => wx.weights weatherItemList i) := by
  induction reports using List.reverseRecOn with
  | nil => rfl
  | append_singleton reports wx ih =>
    unfold aggregates at ih ⊢
    rw [List.foldl_append, List.flatMap_append, List.flatMap_singleton, List.foldl_cons,
      List.foldl_nil]
    unfold Sums.addReport
    cases weight : wx.mHannValue with
    | none =>
      have unweighed : wx.weights weatherItemList i = [] := by
        rw [AprsWxReport.weights, weight]
        simp
      rw [unweighed, List.append_nil]
      exact ih
    | some hann => exact addItems_weights ih weight weatherItemList

omit [CDouble F] in
theorem mem_weights {reports : List (AprsWxReport F)} {w : WxSym} {hann : F} :
    hann ∈ (reports.flatMap fun wx => wx.weights weatherItemList w.idx) ↔
      ∃ wx ∈ reports, (wx.mWeatherValue w.idx).isSome ∧ wx.mHannValue = some hann := by
  obtain ⟨item, listed, symbol⟩ := exists_item w
  simp only [AprsWxReport.weights, List.mem_flatMap, List.mem_ite_nil_right, Option.mem_toList]
  constructor
  · rintro ⟨wx, stored, _, _, ⟨-, set⟩, weight⟩
    exact ⟨wx, stored, set, weight⟩
  · rintro ⟨wx, stored, set, weight⟩
    exact ⟨wx, stored, item, listed, ⟨congrArg WxSym.idx symbol, set⟩, weight⟩

end Weights

/-! ## The weight of a place -/

theorem deg2rad_finite {d : ExReal} {x : ℝ} (angle : deg2rad d = .fin x) : ∃ y, d = .fin y := by
  unfold deg2rad at angle
  obtain ⟨-, y, quotient⟩ := ExReal.fin_of_mul angle
  exact ExReal.fin_of_div quotient

/-- A distance that is a number is one between places whose coordinates are numbers. -/
theorem distanceBearing_finite {lat₁ lon₁ lat₂ lon₂ : ExReal} {x : ℝ}
    (distance : (distanceBearing lat₁ lon₁ lat₂ lon₂).1 = .fin x) :
    (∃ y, lat₁ = .fin y) ∧ (∃ y, lon₁ = .fin y) ∧ (∃ y, lat₂ = .fin y) ∧ ∃ y, lon₂ = .fin y := by
  have sines : ∀ {a b : ExReal} {y : ℝ}, CDouble.sin ((deg2rad a - deg2rad b) / ofRat 2) = .fin y →
      (∃ z, a = .fin z) ∧ ∃ z, b = .fin z := by
    intro a b y sine
    obtain ⟨z, half⟩ := ExReal.fin_of_lift sine
    obtain ⟨_, difference⟩ := ExReal.fin_of_div half
    obtain ⟨⟨_, left⟩, _, right⟩ := ExReal.fin_of_sub difference
    exact ⟨deg2rad_finite left, deg2rad_finite right⟩
  unfold distanceBearing at distance
  obtain ⟨⟨_, twice⟩, -⟩ := ExReal.fin_of_mul distance
  obtain ⟨-, _, arc⟩ := ExReal.fin_of_mul twice
  obtain ⟨_, root⟩ := ExReal.fin_of_lift arc
  obtain ⟨_, hav⟩ := ExReal.fin_of_sqrt root
  obtain ⟨⟨_, sinLatSq⟩, _, product⟩ := ExReal.fin_of_add hav
  obtain ⟨-, _, sinLonSq⟩ := ExReal.fin_of_mul product
  obtain ⟨⟨_, sinLat⟩, -⟩ := ExReal.fin_of_mul sinLatSq
  obtain ⟨⟨_, sinLon⟩, -⟩ := ExReal.fin_of_mul sinLonSq
  obtain ⟨lat₁, lat₂⟩ := sines sinLat
  obtain ⟨lon₁, lon₂⟩ := sines sinLon
  exact ⟨lat₁, lon₁, lat₂, lon₂⟩

/-- A weight that is a number is that of a distance. -/
theorem hannValue_finite {R w : ℝ} {distance : ExReal}
    (weight : hannValue (some (.fin R)) (some distance) none = some (.fin w)) :
    ∃ D, distance = .fin D := by
  have weight := Option.some.inj weight
  obtain ⟨⟨_, sine⟩, -⟩ := ExReal.fin_of_mul weight
  obtain ⟨_, quotient⟩ := ExReal.fin_of_lift sine
  obtain ⟨_, product⟩ := ExReal.fin_of_div (y := R * (2 : ℚ)) quotient
  obtain ⟨-, _, difference⟩ := ExReal.fin_of_mul product
  exact (ExReal.fin_of_sub difference).2

/-- The configured place and that of a report are at the distance `D`. -/
def StationAt (config : Config ExReal) (wx : AprsWxReport ExReal) (D : ℝ) : Prop :=
  ∃ lat₁ lon₁ lat₂ lon₂ : ℝ, config.qthLatitude = some (.fin lat₁) ∧
    config.qthLongitude = some (.fin lon₁) ∧ wx.mLat = some (.fin lat₂) ∧
    wx.mLon = some (.fin lon₂) ∧
    D = Sphere.angle (radians lat₁) (radians lon₁) (radians lat₂) (radians lon₂) * earthRadius

section Heard

variable {config : Config ExReal} {wx : AprsWxReport ExReal}

/-- A report that is heard and has a distance has the one between its place and the configured
one. -/
theorem IsHeard.distance (heard : IsHeard config wx) (present : wx.mDistance.isSome) :
    ∃ lat₁ lon₁ lat₂ lon₂, config.qthLatitude = some lat₁ ∧ config.qthLongitude = some lon₁ ∧
      wx.mLat = some lat₂ ∧ wx.mLon = some lon₂ ∧
      wx.mDistance = some (distanceBearing lat₁ lon₁ lat₂ lon₂).1 := by
  obtain ⟨now, sock, packet, t, configured, decoded, status⟩ := heard
  obtain ⟨-, lat₂, lon₂, equal⟩ := decode_weather decoded status
  cases equal
  obtain ⟨hlat, hlon⟩ := weatherOf_coordinates now sock.mQthPosition sock.mRadius
    (textBefore '>' packet.chars) (payload packet.chars) lat₂ lon₂
  have distance := (weatherOf_weight now sock.mQthPosition sock.mRadius
    (textBefore '>' packet.chars) (payload packet.chars) lat₂ lon₂).1
  rw [configured.mLat, configured.mLon] at distance
  cases lat : config.qthLatitude with
  | none =>
    rw [lat] at distance
    rw [distance] at present
    cases present
  | some lat₁ =>
    cases lon : config.qthLongitude with
    | none =>
      rw [lat, lon] at distance
      rw [distance] at present
      cases present
    | some lon₁ =>
      rw [lat, lon] at distance
      exact ⟨lat₁, lon₁, lat₂, lon₂, rfl, rfl, hlat, hlon, distance⟩

/-- The weight of a report that is heard is a number exactly when its distance is one, and then it
is that of the window. -/
theorem IsHeard.weight (heard : IsHeard config wx) (present : wx.mDistance.isSome) {radius : ℤ}
    (filterRadius : config.filterRadius = some radius) (nonzero : radius ≠ 0) {w : ℝ} :
    wx.mHannValue = some (.fin w) ↔ ∃ D, StationAt config wx D ∧ w = window radius D := by
  obtain ⟨lat₁, lon₁, lat₂, lon₂, qthLat, qthLon, hlat, hlon, distance⟩ := heard.distance present
  obtain ⟨now, sock, packet, t, configured, decoded, status⟩ := heard
  have weight := decode_hannValue decoded status
  have mRadius : sock.mRadius = some (.fin radius) := by
    rw [configured.mRadius, filterRadius, Option.map_some, ExReal.ofRat_eq]
    norm_num
  have nonzero' : (radius : ℝ) ≠ 0 := Int.cast_ne_zero.mpr nonzero
  rw [mRadius, distance] at weight
  constructor
  · intro real
    obtain ⟨D, hD⟩ := hannValue_finite (weight.symm.trans real)
    obtain ⟨⟨x₁, rfl⟩, ⟨y₁, rfl⟩, ⟨x₂, rfl⟩, y₂, rfl⟩ := distanceBearing_finite hD
    rw [distanceBearing_eq, hannValue_fin nonzero'] at weight
    refine ⟨_, ⟨x₁, y₁, x₂, y₂, qthLat, qthLon, hlat, hlon, rfl⟩, ?_⟩
    exact ExReal.fin.inj (Option.some.inj (real.symm.trans weight))
  · rintro ⟨D, ⟨x₁, y₁, x₂, y₂, hx₁, hy₁, hx₂, hy₂, rfl⟩, rfl⟩
    obtain rfl := Option.some.inj (qthLat.symm.trans hx₁)
    obtain rfl := Option.some.inj (qthLon.symm.trans hy₁)
    obtain rfl := Option.some.inj (hlat.symm.trans hx₂)
    obtain rfl := Option.some.inj (hlon.symm.trans hy₂)
    rw [weight, distanceBearing_eq, hannValue_fin nonzero']

end Heard

/-! ## Sums of weights -/

/-- A report with a value of the symbol. -/
def AprsWxReport.Has (wx : AprsWxReport ExReal) (w : WxSym) : Prop := (wx.mWeatherValue w.idx).isSome

/-- Every value that `printInfluxFormat` divides is divided by a positive number. -/
def WeatherAggregator.Divides (s : WeatherAggregator ExReal) : Prop :=
  ∀ w : WxSym, (s.mValueAggregate w.idx).isSome →
    ∃ weight, 0 < weight ∧ s.mHannAggregate w.idx = some (.fin weight)

/-- The stations of the reports with a value of the symbol are at places, and one of them is not at
an odd multiple of the radius. -/
structure Spread (config : Config ExReal) (reports : List (AprsWxReport ExReal)) (w : WxSym) :
    Prop where
  placed : ∀ wx ∈ reports, wx.Has w → ∃ D, StationAt config wx D
  counts : ∃ wx ∈ reports, wx.Has w ∧ ∃ D, StationAt config wx D ∧
    ∀ radius : ℤ, config.filterRadius = some radius → ¬ OddMultiple radius D

section Aggregates

variable {config : Config ExReal} {reports : List (AprsWxReport ExReal)} {radius : ℤ}

/-- The weight of a symbol is a positive number exactly when its stations are spread. -/
theorem aggregates_pos_iff (heard : ∀ wx ∈ reports, IsHeard config wx)
    (present : ∀ wx ∈ reports, wx.mDistance.isSome) (weighed : ∀ wx ∈ reports, wx.mHannValue.isSome)
    (filterRadius : config.filterRadius = some radius) (nonzero : radius ≠ 0) (w : WxSym) :
    (∃ weight, 0 < weight ∧ (aggregates reports).2 w.idx = some (.fin weight)) ↔
      Spread config reports w := by
  have nonzero' : (radius : ℝ) ≠ 0 := Int.cast_ne_zero.mpr nonzero
  have weights : ∀ wx ∈ reports, ∀ x, wx.mHannValue = some (.fin x) ↔
      ∃ D, StationAt config wx D ∧ x = window radius D := fun wx stored x =>
    (heard wx stored).weight (present wx stored) filterRadius nonzero
  have nonneg : ∀ x, ExReal.fin x ∈ (reports.flatMap fun wx => wx.weights weatherItemList w.idx) →
      0 ≤ x := by
    intro x mem
    obtain ⟨wx, stored, -, weight⟩ := mem_weights.mp mem
    obtain ⟨D, -, rfl⟩ := (weights wx stored x).mp weight
    exact window_nonneg _ _
  rw [aggregates_weights, ExReal.summed_pos_iff nonneg]
  constructor
  · rintro ⟨finite, x, positive, mem⟩
    constructor
    · intro wx stored has
      obtain ⟨hann, weight⟩ := Option.isSome_iff_exists.mp (weighed wx stored)
      obtain ⟨y, rfl⟩ := finite hann (mem_weights.mpr ⟨wx, stored, has, weight⟩)
      obtain ⟨D, station, -⟩ := (weights wx stored y).mp weight
      exact ⟨D, station⟩
    · obtain ⟨wx, stored, has, weight⟩ := mem_weights.mp mem
      obtain ⟨D, station, rfl⟩ := (weights wx stored x).mp weight
      refine ⟨wx, stored, has, D, station, fun radius' equal => ?_⟩
      obtain rfl := Option.some.inj (filterRadius.symm.trans equal)
      exact (window_pos_iff nonzero').mp positive
  · rintro ⟨placed, wx, stored, has, D, station, even⟩
    constructor
    · intro hann mem
      obtain ⟨wx', stored', has', weight⟩ := mem_weights.mp mem
      obtain ⟨D', station'⟩ := placed wx' stored' has'
      have real := (weights wx' stored' _).mpr ⟨D', station', rfl⟩
      exact ⟨_, Option.some.inj (weight.symm.trans real)⟩
    · refine ⟨window radius D, (window_pos_iff nonzero').mpr (even radius filterRadius), ?_⟩
      exact mem_weights.mpr ⟨wx, stored, has, (weights wx stored _).mpr ⟨D, station, rfl⟩⟩

end Aggregates

/-! ## Runs -/

/-- The database is configured: without it `printInfluxFormat` is not called. -/
structure Config.Influx (config : Config ExReal) : Prop where
  influxHost : config.influxHost.isSome
  influxPort : config.influxPort.isSome
  influxDb : config.influxDb.isSome
  influxTls : config.influxTls.isSome

/-- No divisor is 0: `decode` never divides by twice a radius of 0, and the weights are positive
after every aggregation, which is then printed, and now. -/
structure Main.Divides (config : Config ExReal) (s : Main ExReal) : Prop where
  radius : ∀ (now : Int) (sock t : AprsIs ExReal) (packet : StdString) (wx : AprsWxReport ExReal),
    .received wx ∈ s.history → sock.Configured config →
    (decode now).run (sock.received packet) = .ok (.report wx) t →
    ∀ mRadius, sock.mRadius = some mRadius → mRadius * ofRat 2 ≠ ofRat 0
  aggregated : config.Influx → ∀ now t, .aggregated now t ∈ s.history → t.Divides
  current : config.Influx → s.weatherAggregator.Divides

/-- The radius is not 0 where a weather report is received, and where the database is configured,
at each aggregation the stations of each value that is aggregated are spread. -/
structure Main.Spreads (config : Config ExReal) (s : Main ExReal) : Prop where
  radius : ∀ wx, .received wx ∈ s.history → config.filterRadius ≠ some 0
  stations : config.Influx → ∀ now t, .aggregated now t ∈ s.history → ∀ w : WxSym,
    (∃ wx ∈ stored t.reports, wx.Has w) → Spread config (stored t.reports) w

section Runs

variable {config : Config ExReal} {whole : Bool} {h : List (Obs ExReal)}
  {s : WeatherAggregator ExReal}

/-- The arrays are those of an aggregation, or empty. -/
theorem Story.arrays {F : Type} [CDouble F] {config : Config F} {whole : Bool} {h : List (Obs F)}
    {s : WeatherAggregator F} (story : Story config whole h s) :
    (∃ now t, .aggregated now t ∈ h ∧ s.sums = t.sums) ∨ s.sums = (fun _ => none, fun _ => none) := by
  induction story with
  | start => exact .inr rfl
  | received _ _ ih =>
    rcases ih with ⟨now, t, mem, same⟩ | empty
    · exact .inl ⟨now, t, List.mem_append_left _ mem, same⟩
    · exact .inr empty
  | aggregated _ _ => exact .inl ⟨_, _, List.mem_append_right _ List.mem_cons_self, rfl⟩
  | pushed _ _ _ ih =>
    rcases ih with ⟨now, t, mem, same⟩ | empty
    · exact .inl ⟨now, t, List.mem_append_left _ mem, same⟩
    · exact .inr empty

/-- What holds of the divisors after every aggregation holds of those of the moment. -/
theorem Story.divides (story : Story config whole h s)
    (aggregated : ∀ now t, .aggregated now t ∈ h → t.Divides) : s.Divides := by
  intro w set
  rcases story.arrays with ⟨now, t, mem, same⟩ | empty
  · have values : s.mValueAggregate = t.mValueAggregate := congrArg Prod.fst same
    have weights : s.mHannAggregate = t.mHannAggregate := congrArg Prod.snd same
    rw [values] at set
    rw [weights]
    exact aggregated now t mem w set
  · have values : s.mValueAggregate = fun _ => none := congrArg Prod.fst empty
    rw [values] at set
    cases set

/-- What is aggregated at a step of a run. -/
structure Aggregation (config : Config ExReal) (h : List (Obs ExReal))
    (t : WeatherAggregator ExReal) : Prop where
  sums : t.sums = aggregates (stored t.reports)
  setAt : t.sums.SetAt fun i => ∃ wx ∈ stored t.reports, (wx.mWeatherValue i).isSome
  located : ∀ wx ∈ stored t.reports, ∃ name, wx.Located name
  received : ∀ wx ∈ stored t.reports, .received wx ∈ h

theorem Story.aggregation (story : Story config whole h s) {now : Int}
    {t : WeatherAggregator ExReal} (mem : .aggregated now t ∈ h) : Aggregation config h t := by
  obtain ⟨pre, post, rfl⟩ := List.append_of_mem mem
  obtain ⟨before, earlier, rfl⟩ := story.made pre _ post rfl
  have after : Story config true _ (before.aggregated now) := earlier.aggregated
  refine ⟨after.sums, after.setAt, after.filled.located, fun wx stored => ?_⟩
  have heard := after.received_of_stored wx stored
  rcases List.mem_append.mp heard with heard | last
  · exact List.mem_append_left _ heard
  · cases List.mem_singleton.mp last

/-- A report was received with a radius that is set, so by the assumption with one that is not 0. -/
theorem Aggregation.filterRadius {s : Main ExReal} (hears : s.Hears config)
    {t : WeatherAggregator ExReal} (made : Aggregation config s.history t)
    {wx : AprsWxReport ExReal} (mem : wx ∈ stored t.reports)
    (nonzero : ∀ wx, .received wx ∈ s.history → config.filterRadius ≠ some 0) :
    ∃ radius, config.filterRadius = some radius ∧ radius ≠ 0 := by
  have received := made.received wx mem
  obtain ⟨now, sock, packet, u, configured, decoded, status⟩ := hears wx received
  obtain ⟨name, located⟩ := made.located wx mem
  have weight := located.mHannValue
  rw [decode_hannValue decoded status, configured.mRadius] at weight
  cases present : config.filterRadius with
  | none =>
    rw [present] at weight
    cases weight
  | some radius =>
    refine ⟨radius, rfl, ?_⟩
    rintro rfl
    exact nonzero wx received present

theorem Aggregation.divides_iff {s : Main ExReal} (hears : s.Hears config)
    {t : WeatherAggregator ExReal} (made : Aggregation config s.history t) {radius : ℤ}
    (filterRadius : config.filterRadius = some radius) (nonzero : radius ≠ 0) :
    t.Divides ↔ ∀ w : WxSym, (∃ wx ∈ stored t.reports, wx.Has w) →
      Spread config (stored t.reports) w := by
  have weights : t.mHannAggregate = (aggregates (stored t.reports)).2 := congrArg Prod.snd made.sums
  refine forall_congr' fun w => imp_congr (made.setAt w.idx).1 ?_
  rw [weights]
  refine aggregates_pos_iff ?_ ?_ ?_ filterRadius nonzero w
  · exact fun wx stored => hears wx (made.received wx stored)
  · intro wx stored
    obtain ⟨name, located⟩ := made.located wx stored
    exact located.mDistance
  · intro wx stored
    obtain ⟨name, located⟩ := made.located wx stored
    exact located.mHannValue

end Runs

/-- In every run, wherever it stops, no divisor is 0 exactly when the radius is not 0 and, at every
aggregation, the stations are spread. -/
theorem main_divides_iff (format : ExReal → List Char) (config : Config ExReal)
    (script : List Ext) :
    (Main.after format config script).Divides config ↔
      (Main.after format config script).Spreads config := by
  obtain ⟨whole, ⟨story, -⟩⟩ := main_tells format config script
  have hears := main_hears format config script
  generalize Main.after format config script = s at story hears ⊢
  constructor
  · rintro ⟨divides, aggregated, -⟩
    have nonzero : ∀ wx, .received wx ∈ s.history → config.filterRadius ≠ some 0 := by
      intro wx mem zero
      obtain ⟨now, sock, packet, t, configured, decoded, -⟩ := hears wx mem
      have mRadius : sock.mRadius = some (ofRat 0) := by
        rw [configured.mRadius, zero]
        rfl
      refine divides now sock t packet wx mem configured decoded _ mRadius ?_
      simp
    refine ⟨nonzero, fun influx now t mem w ⟨wx, stored, has⟩ => ?_⟩
    have made := story.aggregation mem
    obtain ⟨radius, filterRadius, nonzero'⟩ := made.filterRadius hears stored nonzero
    exact (made.divides_iff hears filterRadius nonzero').mp (aggregated influx now t mem) w
      ⟨wx, stored, has⟩
  · rintro ⟨nonzero, spread⟩
    have aggregated : config.Influx → ∀ now t, .aggregated now t ∈ s.history → t.Divides := by
      intro influx now t mem w set
      have made := story.aggregation mem
      obtain ⟨wx, stored, has⟩ := (made.setAt w.idx).1.mp set
      obtain ⟨radius, filterRadius, nonzero'⟩ := made.filterRadius hears stored nonzero
      exact (made.divides_iff hears filterRadius nonzero').mpr (spread influx now t mem) w set
    refine ⟨?_, aggregated, ?_⟩
    · intro now sock t packet wx mem configured _ mRadius present zero
      rw [configured.mRadius] at present
      obtain ⟨radius, filterRadius, rfl⟩ := Option.map_eq_some_iff.mp present
      have twice : ((radius : ℚ) : ℝ) * (2 : ℚ) = (0 : ℚ) := ExReal.fin.inj zero
      have zero' : radius = 0 := by
        norm_num at twice
        exact twice
      exact nonzero wx mem (zero' ▸ filterRadius)
    · exact fun influx => story.divides (aggregated influx)

/-- A configuration with a radius of 0. -/
noncomputable def zeroConfig : Config ExReal := { sampleConfig with filterRadius := some 0 }

/-- A connection with one temperature. -/
def zeroScript : List Ext :=
  [.running true, .now 0, .getaddrinfo (some [⟨afInet, 1, 6, []⟩]), .socket (some 5),
    .bindConnect true] ++ lineAnswers "#\n".toList ++ [.write 1] ++ lineAnswers "#\n".toList ++
  lineAnswers "W>A:!4500.00N/07500.00W_000/000t077\n".toList ++ [.now 0, .now 0, .perform 0 true]

/-- The weight of its report is divided by 0. -/
theorem main_zeroScript :
    ¬ (Main.after (fun _ => []) zeroConfig zeroScript).Divides zeroConfig := by
  have told : (Main.after (fun _ => []) zeroConfig zeroScript).history.map
      (fun o => o.report.isSome) = [true, false, false] := by decide +kernel
  have hears := main_hears (fun _ => []) zeroConfig zeroScript
  generalize Main.after (fun _ => []) zeroConfig zeroScript = s at told hears ⊢
  rintro ⟨divides, -, -⟩
  obtain ⟨o, mem, report⟩ := List.mem_map.mp (told ▸ List.mem_cons_self : true ∈ _)
  cases o with
  | received wx =>
    obtain ⟨now, sock, packet, t, configured, decoded, -⟩ := hears wx mem
    refine divides now sock t packet wx mem configured decoded (ofRat 0) ?_ (by simp)
    rw [configured.mRadius]
    rfl
  | aggregated now t => cases report
  | pushed cause t url body => cases report

end AprsWx
