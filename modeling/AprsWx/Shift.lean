import AprsWx.Lib.Twin
import AprsWx.Payload
import AprsWx.WeatherText

/-!
# Packets with the same payload

`decode` works with positions in the whole packet. Two packets with the same text after their
first `':'` are decoded in step, with cursors that are shifted by what comes before.

* `Shifted`: the relation of the two objects.
* `weatherLoop_twin`, `decodePosition_twin`: one lemma for each function.
* `decode_shifted`: the same outcome, but for the name and the time.
-/

namespace AprsWx

open Double Prog

variable {F : Type}

/-! ## Two objects -/

/-- The same text from `base` and from `base'` on, and cursors that are at the same place in it, at
most `slack` characters past its end. -/
structure Shifted (base base' : Nat) (text : List Char) (slack : Nat) (s s' : AprsIs F) : Prop where
  here : s.mPacket.chars.drop base = text
  there : s'.mPacket.chars.drop base' = text
  base_le : base ≤ s.mPacket.size
  base_le' : base' ≤ s'.mPacket.size
  start : base ≤ s.p0
  cursor : s.p0 + base' = s'.p0 + base
  near : s.p0 ≤ s.mPacket.size + slack
  mQthPosition : s.mQthPosition = s'.mQthPosition
  mRadius : s.mRadius = s'.mRadius

/-- The index of the access that fails. In `mPacket[p0++]` the cursor has moved before it. -/
def failedAt (e : Stop) (s : AprsIs F) : Nat := if e = .undefined then s.p0 - 1 else s.p0

/-- Both stop in the same access past the end of the text. -/
structure Overruns (base base' : Nat) (text : List Char) (e : Stop) (s : AprsIs F) (e' : Stop)
    (s' : AprsIs F) : Prop where
  same : e = e'
  access : e = .thrown .outOfRange ∨ e = .undefined
  place : ∃ offset, text.length < offset ∧ failedAt e s = base + offset ∧
    failedAt e' s' = base' + offset

section Shifted

variable {base base' slack : Nat} {text : List Char} {s s' : AprsIs F}

theorem Shifted.size (shifted : Shifted base base' text slack s s') :
    s.mPacket.size = base + text.length ∧ s'.mPacket.size = base' + text.length := by
  have length := congrArg List.length shifted.here
  have length' := congrArg List.length shifted.there
  have inside := shifted.base_le
  have inside' := shifted.base_le'
  rw [List.length_drop] at length length'
  unfold StdString.size at inside inside' ⊢
  omega

theorem Shifted.start' (shifted : Shifted base base' text slack s s') : base' ≤ s'.p0 := by
  have start := shifted.start
  have cursor := shifted.cursor
  omega

theorem Shifted.le_iff (shifted : Shifted base base' text slack s s') :
    s.p0 ≤ s.mPacket.size ↔ s'.p0 ≤ s'.mPacket.size := by
  have size := shifted.size
  have cursor := shifted.cursor
  omega

theorem Shifted.lt_iff (shifted : Shifted base base' text slack s s') :
    s.p0 < s.mPacket.size ↔ s'.p0 < s'.mPacket.size := by
  have size := shifted.size
  have cursor := shifted.cursor
  omega

theorem Shifted.past_iff (shifted : Shifted base base' text slack s s') :
    s.mPacket.size < s.p0 ↔ s'.mPacket.size < s'.p0 := by
  rw [← Nat.not_le, ← Nat.not_le, shifted.le_iff]

theorem Shifted.near' (shifted : Shifted base base' text slack s s') :
    s'.p0 ≤ s'.mPacket.size + slack := by
  have size := shifted.size
  have cursor := shifted.cursor
  have near := shifted.near
  omega

/-- Neither cursor wraps. -/
theorem Shifted.addSize_eq (shifted : Shifted base base' text slack s s') {n : Nat}
    (near : slack ≤ 100) (small : n ≤ 100) :
    addSize s.p0 n = s.p0 + n ∧ addSize s'.p0 n = s'.p0 + n :=
  ⟨addSize_cursor (shifted.near.trans (Nat.add_le_add_left near _)) small,
    addSize_cursor (shifted.near'.trans (Nat.add_le_add_left near _)) small⟩

/-- The text at the cursors is the same. -/
theorem Shifted.rest (shifted : Shifted base base' text slack s s') : s.rest = s'.rest := by
  have left : s.rest = (s.mPacket.chars.drop base).drop (s.p0 - base) := by
    rw [List.drop_drop, Nat.add_sub_cancel' shifted.start]
    rfl
  have right : s'.rest = (s'.mPacket.chars.drop base').drop (s'.p0 - base') := by
    rw [List.drop_drop, Nat.add_sub_cancel' shifted.start']
    rfl
  have same : s.p0 - base = s'.p0 - base' := by
    have start := shifted.start
    have cursor := shifted.cursor
    omega
  rw [left, right, shifted.here, shifted.there, same]

/-- Both cursors move on by `n`. -/
theorem Shifted.moved (shifted : Shifted base base' text slack s s') {n slack' : Nat}
    (near : s.p0 + n ≤ s.mPacket.size + slack') :
    Shifted base base' text slack' (s.moved (s.p0 + n)) (s'.moved (s'.p0 + n)) where
  here := shifted.here
  there := shifted.there
  base_le := shifted.base_le
  base_le' := shifted.base_le'
  start := shifted.start.trans (Nat.le_add_right _ _)
  cursor := by
    have cursor := shifted.cursor
    simp only [AprsIs.moved_p0]
    omega
  near := near
  mQthPosition := shifted.mQthPosition
  mRadius := shifted.mRadius

theorem Shifted.mono (shifted : Shifted base base' text slack s s') {slack' : Nat}
    (more : slack ≤ slack') : Shifted base base' text slack' s s' :=
  { shifted with near := shifted.near.trans (Nat.add_le_add_left more _) }

/-- Both fail where the cursors are. -/
theorem Shifted.overruns (shifted : Shifted base base' text slack s s')
    (past : s.mPacket.size < s.p0) {e : Stop} (access : e = .thrown .outOfRange ∨ e = .undefined)
    {t t' : AprsIs F} (here : failedAt e t = s.p0) (there : failedAt e t' = s'.p0) :
    Overruns base base' text e t e t' := by
  obtain ⟨size, -⟩ := shifted.size
  have cursor := shifted.cursor
  refine ⟨rfl, access, s.p0 - base, ?_, ?_, ?_⟩
  · omega
  · omega
  · omega

end Shifted

/-! ## Reading -/

section Reading

variable {base base' : Nat} {text : List Char} {s s' : AprsIs F}

theorem decodeCharAtIndex_twin (shifted : Shifted base base' text 50 s s') :
    Twin decodeCharAtIndex decodeCharAtIndex s s'
      (fun c t c' t' => c = c' ∧ Shifted base base' text 1 t t') (Overruns base base' text) := by
  rcases Nat.lt_or_ge s.mPacket.size s.p0 with past | inside
  · have past' := shifted.past_iff.mp past
    obtain ⟨next, next'⟩ := shifted.addSize_eq (n := 1) (by decide) (by decide)
    refine .of_error (decodeCharAtIndex_past past) (decodeCharAtIndex_past past') ?_
    rw [next, next']
    exact shifted.overruns past (.inr rfl) rfl rfl
  · refine .of_ok (decodeCharAtIndex_run inside) (decodeCharAtIndex_run (shifted.le_iff.mp inside)) ?_
    rw [shifted.rest]
    exact ⟨rfl, shifted.moved (Nat.add_le_add_right inside 1)⟩

/-- A function that reads the next `n` characters. -/
theorem Shifted.reads {α : Type} {x : Decoder F α} {n : Nat} {f : List Char → α}
    (shifted : Shifted base base' text 50 s s')
    (inside : ∀ s : AprsIs F, s.p0 ≤ s.mPacket.size →
      x.run s = .ok (f (s.rest.take n)) (s.moved (s.p0 + n)))
    (past : ∀ s : AprsIs F, s.mPacket.size < s.p0 → x.run s = .error (.thrown .outOfRange) s)
    (small : n ≤ 7) :
    Twin x x s s' (fun a t a' t' => a = a' ∧ Shifted base base' text 7 t t') (Overruns base base' text) := by
  rcases Nat.lt_or_ge s.mPacket.size s.p0 with out | fits
  · have out' := shifted.past_iff.mp out
    exact .of_error (past s out) (past s' out') (shifted.overruns out (.inl rfl) rfl rfl)
  · refine .of_ok (inside s fits) (inside s' (shifted.le_iff.mp fits)) ?_
    rw [shifted.rest]
    exact ⟨rfl, shifted.moved (Nat.add_le_add fits small)⟩

theorem decodeString_twin (shifted : Shifted base base' text 50 s s') {n : Nat} (small : n ≤ 7) :
    Twin (decodeString n) (decodeString n) s s'
      (fun a t a' t' => a = a' ∧ Shifted base base' text 7 t t') (Overruns base base' text) :=
  shifted.reads (f := id) (fun _ fits => decodeString_run fits (by omega))
    (fun _ => decodeString_past) small

theorem decodeValueLong_twin (shifted : Shifted base base' text 50 s s') {n : Nat} (small : n ≤ 7) :
    Twin (decodeValueLong n) (decodeValueLong n) s s'
      (fun a t a' t' => a = a' ∧ Shifted base base' text 7 t t') (Overruns base base' text) :=
  shifted.reads (f := fun str => (safeConvertLong str).map (Int.tdiv · 1))
    (fun _ fits => decodeValueLong_run fits (by omega)) (fun _ => decodeValueLong_past) small

variable [CDouble F]

theorem decodeValueDouble_twin (shifted : Shifted base base' text 50 s s') {n : Nat} (small : n ≤ 7)
    (factor : F) :
    Twin (decodeValueDouble n factor) (decodeValueDouble n factor) s s'
      (fun a t a' t' => a = a' ∧ Shifted base base' text 7 t t') (Overruns base base' text) :=
  shifted.reads (f := fun str => numberIn str factor)
    (fun _ fits => decodeValueDouble_run factor fits (by omega)) (fun _ => decodeValueDouble_past) small

theorem decodeCoordinate_twin (shifted : Shifted base base' text 50 s s') (t : CoordinateType) :
    Twin (decodeCoordinate t) (decodeCoordinate t) s s'
      (fun (a : Option F) u a' u' => a = a' ∧ Shifted base base' text 1 u u') (Overruns base base' text) := by
  have degreeLength := t.degreeLength_le
  have minuteLength := t.minuteLength_le
  unfold decodeCoordinate
  refine (decodeValueLong_twin shifted (by omega)).bind ?_
  rintro degrees u _ u' ⟨rfl, shifted⟩
  refine (decodeValueDouble_twin (shifted.mono (by decide)) (by omega) _).bind ?_
  rintro minutes u _ u' ⟨rfl, shifted⟩
  refine (decodeCharAtIndex_twin (shifted.mono (by decide))).bind ?_
  rintro c u _ u' ⟨rfl, shifted⟩
  exact .pure ⟨rfl, shifted⟩

end Reading

/-! ## Reports -/

/-- A report without its name and its time. -/
def AprsWxReport.unnamed (wxReport : AprsWxReport F) : AprsWxReport F :=
  { wxReport with mName := [], mTimePoint := 0 }

/-- Two reports with a latitude, the same but for their names and times. -/
structure AprsWxReport.Alike (wxReport wxReport' : AprsWxReport F) : Prop where
  same : wxReport.unnamed = wxReport'.unnamed
  mLat : wxReport.mLat.isSome

section Reports

variable [CDouble F] {base base' : Nat} {text : List Char} {s s' : AprsIs F} {wxReport wxReport' : AprsWxReport F}

omit [CDouble F] in
theorem AprsWxReport.Alike.mLat' (alike : wxReport.Alike wxReport') : wxReport'.mLat.isSome := by
  have same : wxReport.mLat = wxReport'.mLat := congrArg (fun r => r.mLat) alike.same
  rw [← same]
  exact alike.mLat

theorem AprsWxReport.Alike.store (alike : wxReport.Alike wxReport') (wxSym : WxSym) (valueFlag : Char)
    (number : Option F) :
    (storeWeatherValue wxReport wxSym valueFlag number).Alike
      (storeWeatherValue wxReport' wxSym valueFlag number) := by
  have unnamed : ∀ r : AprsWxReport F, (storeWeatherValue r wxSym valueFlag number).unnamed =
      storeWeatherValue r.unnamed wxSym valueFlag number := by
    intro r
    cases number <;> rfl
  constructor
  · rw [unnamed, unnamed, alike.same]
  · rw [storeWeatherValue_toAprsPosition]
    exact alike.mLat

theorem decodeWeatherValue_twin (shifted : Shifted base base' text 50 s s')
    (alike : wxReport.Alike wxReport') (wxSym : WxSym) :
    Twin (decodeWeatherValue wxReport wxSym) (decodeWeatherValue wxReport' wxSym) s s'
      (fun r t r' t' => r.Alike r' ∧ Shifted base base' text 7 t t') (Overruns base base' text) := by
  have width := weatherItemAt_digits_le wxSym
  refine (decodeValueDouble_twin shifted (by omega) _).bind ?_
  rintro number t _ t' ⟨rfl, shifted⟩
  exact .pure ⟨alike.store wxSym _ number, shifted⟩

theorem decodeWind_twin (shifted : Shifted base base' text 40 s s') (alike : wxReport.Alike wxReport') :
    Twin (decodeWind wxReport) (decodeWind wxReport') s s'
      (fun r t r' t' => r.Alike r' ∧ Shifted base base' text 7 t t') (Overruns base base' text) := by
  unfold decodeWind
  refine (decodeWeatherValue_twin (shifted.mono (by decide)) alike _).bind ?_
  rintro r t r' t' ⟨alike, shifted⟩
  obtain ⟨next, next'⟩ := shifted.addSize_eq (n := 1) (by decide) (by decide)
  refine .modify_bind ?_
  rw [next, next']
  have near : t.p0 + 1 ≤ t.mPacket.size + 50 := by
    have near := shifted.near
    omega
  exact decodeWeatherValue_twin (shifted.moved near) alike _

/-- The loop takes the same turns over both packets, with turns to spare for each. -/
theorem weatherLoop_twin (fuel fuel' : Nat) (shifted : Shifted base base' text 40 s s')
    (alike : wxReport.Alike wxReport') (enough : s.mPacket.size - s.p0 < fuel)
    (enough' : s'.mPacket.size - s'.p0 < fuel') :
    Twin (weatherLoop fuel wxReport) (weatherLoop fuel' wxReport') s s'
      (fun r t r' t' => r.Alike r' ∧ Shifted base base' text 40 t t') (Overruns base base' text) := by
  induction fuel generalizing fuel' s s' wxReport wxReport' with
  | zero => exact absurd enough (Nat.not_lt_zero _)
  | succ fuel ih =>
    cases fuel' with
    | zero => exact absurd enough' (Nat.not_lt_zero _)
    | succ fuel' =>
      unfold weatherLoop
      refine .get_bind (.ite shifted.lt_iff (fun inside => ?_) fun _ => .pure ⟨alike, shifted⟩)
      have inside' := shifted.lt_iff.mp inside
      have flag' := decodeCharAtIndex_run inside'.le
      rw [← shifted.rest] at flag'
      refine .bind_ok (decodeCharAtIndex_run inside.le) flag' ?_
      have next : Shifted base base' text 1 (s.moved (s.p0 + 1)) (s'.moved (s'.p0 + 1)) :=
        shifted.moved (Nat.add_le_add_right inside.le 1)
      cases known : findItem (s.rest.headD '\x00') with
      | none =>
        refine .bind_ok (catching_run_ok (decodeFlag_none known))
          (catching_run_ok (decodeFlag_none known)) ?_
        exact .pure ⟨alike, next.mono (by decide)⟩
      | some item =>
        have width := weatherItemAt_digits_le item.wxSym
        have field := decodeFlag_some wxReport (s := s.moved (s.p0 + 1)) known inside
        have field' := decodeFlag_some wxReport' (s := s'.moved (s'.p0 + 1)) known inside'
        rw [← next.rest] at field'
        refine .bind_ok (catching_run_ok field) (catching_run_ok field') ?_
        simp only [AprsIs.moved_p0, AprsIs.moved_moved, Nat.add_assoc, if_true]
        refine ih fuel' (shifted.moved (by omega)) (alike.store _ _ _) ?_ ?_
        · simp only [AprsIs.moved_p0, AprsIs.moved_mPacket]
          omega
        · simp only [AprsIs.moved_p0, AprsIs.moved_mPacket]
          omega

omit [CDouble F] in
theorem AprsWxReport.unnamed_located [CDouble F] (r : AprsWxReport F) (other : AprsPosition F) :
    ({ r with toAprsPosition := r.toAprsPosition.located other } : AprsWxReport F).unnamed =
      { r.unnamed with toAprsPosition := r.unnamed.toAprsPosition.located other } := by
  obtain ⟨⟨packet, lat, lon, distance, bearing, hann⟩, time, values⟩ := r
  unfold unnamed AprsPosition.located
  rcases lat with _ | lat
  · rfl
  rcases lon with _ | lon
  · rfl
  rcases other.mLat with _ | lat'
  · rfl
  rcases other.mLon with _ | lon'
  · rfl
  rfl

theorem decodeWeather_twin (shifted : Shifted base base' text 40 s s')
    (alike : wxReport.Alike wxReport') :
    Twin (decodeWeather wxReport) (decodeWeather wxReport') s s'
      (fun r _ r' _ => r.unnamed = r'.unnamed) (Overruns base base' text) := by
  unfold decodeWeather
  refine (decodeWind_twin shifted alike).bind ?_
  rintro r t r' t' ⟨alike, shifted⟩
  refine .get_bind ((weatherLoop_twin _ _ (shifted.mono (by decide)) alike ?_ ?_).bind ?_)
  · omega
  · omega
  rintro r t r' t' ⟨alike, shifted⟩
  refine .modify_bind (.get_bind ?_)
  obtain ⟨b, placed⟩ := AprsPosition.setBearingDistance_eq (σ := AprsIs F) r.toAprsPosition
    t.mQthPosition alike.mLat
  obtain ⟨b', placed'⟩ := AprsPosition.setBearingDistance_eq (σ := AprsIs F) r'.toAprsPosition
    t'.mQthPosition alike.mLat'
  simp only [AprsIs.moved_mQthPosition, AprsIs.moved_mRadius, placed, placed']
  have located : ({ r with toAprsPosition := r.toAprsPosition.located t.mQthPosition } :
      AprsWxReport F).unnamed =
      ({ r' with toAprsPosition := r'.toAprsPosition.located t'.mQthPosition } :
        AprsWxReport F).unnamed := by
    rw [AprsWxReport.unnamed_located, AprsWxReport.unnamed_located, alike.same,
      shifted.mQthPosition]
  have weighed := congrArg (fun q : AprsWxReport F => { q with
    mHannValue := hannValue t.mRadius q.mDistance q.mHannValue, mPacketStatus := .WxPacket }) located
  refine .pure ?_
  rw [← shifted.mRadius]
  exact weighed

end Reports

/-! ## Packets -/

/-- A decoded packet without its name and its time. -/
def Decoded.unnamed : Decoded F → Decoded F
  | .packet p => .packet { p with mName := [], mTimePoint := 0 }
  | .report r => .report r.unnamed

section Packets

variable [CDouble F] {base base' : Nat} {text : List Char} {s s' : AprsIs F} {wxReport wxReport' : AprsWxReport F}

/-- The same outcome: packets that are the same but for their names and times. -/
abbrev SameDecoded (d : Decoded F) (_ : AprsIs F) (d' : Decoded F) (_ : AprsIs F) : Prop :=
  d.unnamed = d'.unnamed

theorem decodePosition_twin (shifted : Shifted base base' text 40 s s')
    (same : wxReport.unnamed = wxReport'.unnamed) :
    Twin (decodePosition wxReport) (decodePosition wxReport') s s' SameDecoded
      (Overruns base base' text) := by
  -- what is set in both reports keeps them the same
  have set : ∀ f : AprsWxReport F → AprsWxReport F, (∀ r, (f r).unnamed = f r.unnamed) →
      ∀ {r r' : AprsWxReport F}, r.unnamed = r'.unnamed → (f r).unnamed = (f r').unnamed := by
    intro f commutes r r' same
    rw [commutes, commutes, same]
  unfold decodePosition
  refine (decodeCoordinate_twin (shifted.mono (by decide)) _).bind ?_
  rintro (_ | mLat) t _ t' ⟨rfl, shifted⟩
  · refine .pure (congrArg Decoded.report ?_)
    exact set (fun r => { r with mPacketStatus := .ErrorLatitude }) (fun _ => rfl) same
  refine (decodeCharAtIndex_twin (shifted.mono (by decide))).bind ?_
  rintro mSymTableId t _ t' ⟨rfl, shifted⟩
  have same := set (fun r => { r with mLat := some mLat, mSymTableId := mSymTableId })
    (fun _ => rfl) same
  refine (decodeCoordinate_twin (shifted.mono (by decide)) _).bind ?_
  rintro (_ | mLon) t _ t' ⟨rfl, shifted⟩
  · refine .pure (congrArg Decoded.report ?_)
    exact set (fun r => { r with mPacketStatus := .ErrorLongitude }) (fun _ => rfl) same
  refine (decodeCharAtIndex_twin (shifted.mono (by decide))).bind ?_
  rintro mSymCode t _ t' ⟨rfl, shifted⟩
  have same := set (fun r => { r with mLon := some mLon, mSymCode := mSymCode }) (fun _ => rfl) same
  refine (decodeWeather_twin (shifted.mono (by decide)) ⟨same, rfl⟩).bind ?_
  intro r t r' t' same
  exact .pure (congrArg Decoded.report same)

theorem decodeReport_twin (shifted : Shifted base base' text 40 s s') (now now' : Int)
    (name name' : List Char) (descriminator : Char) :
    Twin (decodeReport now name descriminator) (decodeReport now' name' descriminator) s s'
      SameDecoded (Overruns base base' text) := by
  unfold decodeReport
  refine .ite Iff.rfl (fun _ => ?_) fun _ => decodePosition_twin shifted rfl
  refine (decodeString_twin (shifted.mono (by decide)) le_rfl).bind ?_
  rintro mDateTime t _ t' ⟨rfl, shifted⟩
  exact decodePosition_twin (shifted.mono (by decide)) rfl

theorem decodePayload_twin (shifted : Shifted base base' text 0 s s') (now now' : Int)
    (name name' : List Char) :
    Twin (decodePayload now name) (decodePayload now' name') s s' SameDecoded
      (Overruns base base' text) := by
  have size := s.mPacket.size_lt
  have size' := s'.mPacket.size_lt
  have near := shifted.near
  have near' := shifted.near'
  have inside := shifted.lt_iff
  unfold decodePayload npos
  refine .get_bind (.ite ?_ (fun _ => ?_) fun _ => .pure rfl)
  · omega
  refine (decodeCharAtIndex_twin (shifted.mono (by decide))).bind ?_
  rintro descriminator t _ t' ⟨rfl, shifted⟩
  exact .ite Iff.rfl (fun _ => decodeReport_twin (shifted.mono (by decide)) _ _ _ _ _)
    fun _ => .pure rfl

end Packets

/-! ## The packet -/

/-- The cursor after the first `':'`. -/
theorem positionAfter_header {s : AprsIs F} (start : s.p0 = 0) {header text : List Char}
    (split : s.mPacket.chars = header ++ ':' :: text) (plain : ':' ∉ header) :
    (positionAfter ':').run s = .ok (header.length + 1) (s.moved (header.length + 1)) := by
  have size := s.mPacket.size_lt
  unfold StdString.size at size
  have found : s.mPacket.find ':' 0 = header.length := by
    have before : (header ++ ':' :: text).takeWhile (· ≠ ':') = header := by
      have other : ∀ c ∈ header, decide (c ≠ ':') = true := by
        intro c mem
        refine decide_eq_true ?_
        rintro rfl
        exact plain mem
      rw [List.takeWhile_append_of_pos other]
      simp
    unfold StdString.find
    rw [List.drop_zero, split]
    rcases idxOf?_cases ':' (header ++ ':' :: text) with ⟨-, absent⟩ | ⟨i, index, inside, -, taken, -⟩
    · exact absurd (List.mem_append_right _ List.mem_cons_self) absent
    · have length := congrArg List.length (taken.trans before)
      rw [List.length_take, Nat.min_eq_left inside.le] at length
      rw [index, length]
      exact Nat.zero_add _
  rw [split, List.length_append, List.length_cons] at size
  simp only [positionAfter, positionAt, EStateM.run_bind, EStateM.run_get, EStateM.run_set,
    EStateM.run_pure, EStateM.run_modify, start, found, addSize_eq (show header.length + 1 < 2 ^ 64 by omega)]
  rfl

variable [CDouble F]

/-- Two packets with the same text after their first `':'`, decoded by objects with the same place
and radius: both give the same packet, but for its name and its time, or both stop in the same
access past the end of that text. -/
theorem decode_shifted {header header' text : List Char} (plain : ':' ∉ header)
    (plain' : ':' ∉ header') {packet packet' : StdString}
    (split : packet.chars = header ++ ':' :: text) (split' : packet'.chars = header' ++ ':' :: text)
    {s s' : AprsIs F} (place : s.mQthPosition = s'.mQthPosition) (radius : s.mRadius = s'.mRadius)
    (now now' : Int) :
    Twin (decode now) (decode now') (s.received packet) (s'.received packet') SameDecoded
      (Overruns (header.length + 1) (header'.length + 1) text) := by
  obtain ⟨k, named⟩ := stringTerminateBy_run (s := s.received packet) (c := '>') rfl
  obtain ⟨k', named'⟩ := stringTerminateBy_run (s := s'.received packet') (c := '>') rfl
  have after := positionAfter_header (s := { s.received packet with p1 := k }) rfl split plain
  have after' := positionAfter_header (s := { s'.received packet' with p1 := k' }) rfl split' plain'
  have inside : ∀ {packet : StdString} {header : List Char},
      packet.chars = header ++ ':' :: text → header.length + 1 ≤ packet.size := by
    intro packet header split
    unfold StdString.size
    rw [split, List.length_append, List.length_cons]
    omega
  have dropped : ∀ header : List Char, (header ++ ':' :: text).drop (header.length + 1) = text := by
    intro header
    simp
  have shifted : Shifted (header.length + 1) (header'.length + 1) text 0
      ({ s.received packet with p1 := k }.moved (header.length + 1))
      ({ s'.received packet' with p1 := k' }.moved (header'.length + 1)) := by
    constructor
    · show packet.chars.drop _ = _
      rw [split, dropped]
    · show packet'.chars.drop _ = _
      rw [split', dropped]
    · exact inside split
    · exact inside split'
    · exact le_rfl
    · exact Nat.add_comm _ _
    · exact inside split
    · exact place
    · exact radius
  exact .bind_ok named named' (.bind_ok after after' (decodePayload_twin shifted _ _ _ _))

/-- A weather report, as it comes directly and over a relay. -/
def directPacket : StdString := ⟨"A>B:!4500.00N/07500.00W_000/000t077\n".toList, by decide⟩

def relayedPacket : StdString := ⟨"STATION>PATH,RELAY:!4500.00N/07500.00W_000/000t077\n".toList, by decide⟩

theorem decode_shifted_directPacket :
    Twin (decode 0) (decode 7) (sampleStation.received directPacket)
      (sampleStation.received relayedPacket) SameDecoded
      (Overruns 4 19 "!4500.00N/07500.00W_000/000t077\n".toList) :=
  decode_shifted (show ':' ∉ "A>B".toList by decide)
    (show ':' ∉ "STATION>PATH,RELAY".toList by decide) rfl rfl rfl rfl 0 7

end AprsWx
