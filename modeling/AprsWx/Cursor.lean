import AprsWx.AprsIs

/-!
# The cursor

What the functions that read at the cursor do, as functions of the text from the cursor on
(`AprsIs.rest`): up to the end of the packet they consume it, and past the end they stop.

* `decodeCharAtIndex_run`, `decodeString_run`, `decodeValueLong_run`, `decodeValueDouble_run`: one
  lemma for each function, and one for it past the end.
* `decodeCoordinate_run`: a coordinate, as `coordinateAt` reads it from a text.
-/

namespace AprsWx

open Double Prog

variable {F : Type}

/-! ## The text at the cursor -/

/-- The packet from the cursor on. -/
def AprsIs.rest (s : AprsIs F) : List Char := s.mPacket.chars.drop s.p0

section Moved

variable (s : AprsIs F) (n k : Nat)

@[simp] theorem AprsIs.moved_p0 : (s.moved n).p0 = n := rfl

@[simp] theorem AprsIs.moved_mPacket : (s.moved n).mPacket = s.mPacket := rfl

@[simp] theorem AprsIs.moved_mRadius : (s.moved n).mRadius = s.mRadius := rfl

@[simp] theorem AprsIs.moved_mQthPosition : (s.moved n).mQthPosition = s.mQthPosition := rfl

@[simp] theorem AprsIs.moved_moved : (s.moved n).moved k = s.moved k := rfl

end Moved

theorem AprsIs.length_rest (s : AprsIs F) : s.rest.length = s.mPacket.size - s.p0 :=
  List.length_drop

theorem AprsIs.rest_moved (s : AprsIs F) (n : Nat) : (s.moved (s.p0 + n)).rest = s.rest.drop n := by
  unfold rest
  rw [List.drop_drop]
  rfl

theorem AprsIs.rest_eq_nil {s : AprsIs F} (h : s.mPacket.size ≤ s.p0) : s.rest = [] :=
  List.drop_eq_nil_of_le h

/-- Up to the end of the packet and a good way past it, cursors do not wrap. -/
theorem addSize_cursor {s : AprsIs F} {n : Nat} (h : s.p0 ≤ s.mPacket.size + 100) (hn : n ≤ 100) :
    addSize s.p0 n = s.p0 + n := by
  have := s.mPacket.size_lt
  exact addSize_eq (by omega)

/-! ## The cursor functions -/

/-- A decoder that goes past the end of the packet. -/
def PastEnd {α : Type} (x : Decoder F α) (s : AprsIs F) : Prop :=
  ∃ e t, x.run s = .error e t ∧ (e = .thrown .outOfRange ∨ e = .undefined)

theorem PastEnd.bind {α β : Type} {x : Decoder F α} {s : AprsIs F} (h : PastEnd x s)
    (f : α → Decoder F β) : PastEnd (x >>= f) s := by
  obtain ⟨e, t, hx, he⟩ := h
  exact ⟨e, t, by rw [EStateM.run_bind, hx], he⟩

theorem PastEnd.of_bind {α β : Type} {x : Decoder F α} {s t : AprsIs F} {a : α}
    {f : α → Decoder F β} (hx : x.run s = .ok a t) (h : PastEnd (f a) t) : PastEnd (x >>= f) s := by
  obtain ⟨e, u, hf, he⟩ := h
  exact ⟨e, u, by rw [EStateM.run_bind, hx]; exact hf, he⟩

section Cursor

variable {s : AprsIs F}

theorem substr_run {n : Nat} (h : s.p0 ≤ s.mPacket.size) :
    (s.mPacket.substr s.p0 n : Decoder F (List Char)) = pure (s.rest.take n) := by
  unfold StdString.substr
  rw [if_pos h]
  rfl

theorem substr_pastEnd {n : Nat} (h : s.mPacket.size < s.p0) :
    (s.mPacket.substr s.p0 n : Decoder F (List Char)) = throw (.thrown .outOfRange) := by
  unfold StdString.substr
  rw [if_neg (by omega)]

theorem decodeCharAtIndex_run (h : s.p0 ≤ s.mPacket.size) :
    (decodeCharAtIndex (F := F)).run s = .ok (s.rest.headD '\x00') (s.moved (s.p0 + 1)) := by
  have hp := addSize_cursor (s := s) (n := 1) (by omega) (by omega)
  simp only [decodeCharAtIndex, StdString.at_, EStateM.run_bind, EStateM.run_get, EStateM.run_set,
    if_pos h, hp, EStateM.run_pure]
  rfl

theorem decodeCharAtIndex_past (h : s.mPacket.size < s.p0) :
    (decodeCharAtIndex (F := F)).run s = .error .undefined (s.moved (addSize s.p0 1)) := by
  simp only [decodeCharAtIndex, StdString.at_, EStateM.run_bind, EStateM.run_get, EStateM.run_set,
    if_neg (Nat.not_le.mpr h)]
  rfl

theorem decodeCharAtIndex_pastEnd (h : s.mPacket.size < s.p0) :
    PastEnd (decodeCharAtIndex (F := F)) s := ⟨_, _, decodeCharAtIndex_past h, .inr rfl⟩

theorem decodeString_past {n : Nat} (h : s.mPacket.size < s.p0) :
    (decodeString (F := F) n).run s = .error (.thrown .outOfRange) s := by
  simp only [decodeString, EStateM.run_bind, EStateM.run_get, substr_pastEnd h]
  rfl

theorem decodeString_run {n : Nat} (h : s.p0 ≤ s.mPacket.size) (hn : n ≤ 100) :
    (decodeString (F := F) n).run s = .ok (s.rest.take n) (s.moved (s.p0 + n)) := by
  have hp := addSize_cursor (s := s) (n := n) (by omega) hn
  simp only [decodeString, EStateM.run_bind, EStateM.run_get, substr_run h, EStateM.run_pure,
    EStateM.run_set, hp]

theorem decodeValueLong_run {n : Nat} (h : s.p0 ≤ s.mPacket.size) (hn : n ≤ 100) :
    (decodeValueLong (F := F) n).run s =
      .ok ((safeConvertLong (s.rest.take n)).map (Int.tdiv · 1)) (s.moved (s.p0 + n)) := by
  have hp := addSize_cursor (s := s) (n := n) (by omega) hn
  simp only [decodeValueLong, EStateM.run_bind, EStateM.run_get, substr_run h, EStateM.run_pure,
    EStateM.run_modify, hp]

theorem decodeValueLong_past {n : Nat} (h : s.mPacket.size < s.p0) :
    (decodeValueLong (F := F) n).run s = .error (.thrown .outOfRange) s := by
  simp only [decodeValueLong, EStateM.run_bind, EStateM.run_get, substr_pastEnd h]
  rfl

theorem decodeValueLong_pastEnd {n : Nat} (h : s.mPacket.size < s.p0) :
    PastEnd (decodeValueLong (F := F) n) s := ⟨_, _, decodeValueLong_past h, .inl rfl⟩

end Cursor

/-! ## Values and coordinates -/

variable [CDouble F]

/-- The number in the text `str`, divided by `factor`. -/
def numberIn (str : List Char) (factor : F) : Option F :=
  (if str = [] then none else strtodAll str).map (· / factor)

theorem decodeValueDouble_run (factor : F) {s : AprsIs F} {n : Nat} (h : s.p0 ≤ s.mPacket.size)
    (hn : n ≤ 63) :
    (decodeValueDouble n factor).run s =
      .ok (numberIn (s.rest.take n) factor) (s.moved (s.p0 + n)) := by
  have hp := addSize_cursor (s := s) (n := n) (by omega) (by omega)
  have hl : (s.rest.take n).length ≤ 63 := le_trans (List.length_take_le ..) hn
  simp only [decodeValueDouble, EStateM.run_bind, EStateM.run_get, substr_run h, EStateM.run_pure,
    safeConvertDouble_of_length hl, EStateM.run_modify, hp]
  rfl

theorem decodeValueDouble_past {s : AprsIs F} {n : Nat} {factor : F} (h : s.mPacket.size < s.p0) :
    (decodeValueDouble n factor).run s = .error (.thrown .outOfRange) s := by
  simp only [decodeValueDouble, EStateM.run_bind, EStateM.run_get, substr_pastEnd h]
  rfl

theorem decodeValueDouble_pastEnd {s : AprsIs F} {n : Nat} {factor : F} (h : s.mPacket.size < s.p0) :
    PastEnd (decodeValueDouble n factor) s := ⟨_, _, decodeValueDouble_past h, .inl rfl⟩

/-- The number of characters of a coordinate, hemisphere letter included. -/
def CoordinateType.width (t : CoordinateType) : Nat := t.degreeLength + t.minuteLength + 1

/-- The coordinate at the start of a text. -/
def coordinateAt (t : CoordinateType) (text : List Char) : Option F :=
  coordinateValue t ((safeConvertLong (text.take t.degreeLength)).map (Int.tdiv · 1))
    (numberIn ((text.drop t.degreeLength).take t.minuteLength) (ofRat 1))
    ((text.drop (t.degreeLength + t.minuteLength)).headD '\x00').toUpper

theorem CoordinateType.degreeLength_le (t : CoordinateType) : t.degreeLength ≤ 3 := by
  cases t <;> decide

theorem CoordinateType.minuteLength_le (t : CoordinateType) : t.minuteLength ≤ 5 := by
  cases t <;> decide

/-- Where the text reaches up to the hemisphere letter, or ends right before it. -/
theorem decodeCoordinate_run {t : CoordinateType} {s : AprsIs F}
    (h : s.p0 + t.width ≤ s.mPacket.size + 1) :
    (decodeCoordinate (F := F) t).run s =
      .ok (coordinateAt t s.rest) (s.moved (s.p0 + t.width)) := by
  have hd := t.degreeLength_le
  have hm := t.minuteLength_le
  unfold CoordinateType.width at h
  -- each part starts inside the packet or at its end, where the terminator can be read
  have degrees_in : s.p0 ≤ s.mPacket.size := by omega
  have minutes_in : s.p0 + t.degreeLength ≤ s.mPacket.size := by omega
  have letter_in : s.p0 + (t.degreeLength + t.minuteLength) ≤ s.mPacket.size := by omega
  have h1 := decodeValueLong_run (n := t.degreeLength) degrees_in (by omega)
  have h2 := decodeValueDouble_run (ofRat 1 : F) (s := s.moved (s.p0 + t.degreeLength))
    (n := t.minuteLength) minutes_in (by omega)
  have h3 := decodeCharAtIndex_run (s := s.moved (s.p0 + (t.degreeLength + t.minuteLength))) letter_in
  simp only [AprsIs.moved_p0, AprsIs.moved_moved, AprsIs.rest_moved, Nat.add_assoc] at h1 h2 h3
  simp only [decodeCoordinate, EStateM.run_bind, h1, h2, h3, EStateM.run_pure]
  rfl

theorem decodeCoordinate_pastEnd {t : CoordinateType} {s : AprsIs F}
    (h : s.mPacket.size + 1 < s.p0 + t.width) :
    PastEnd (decodeCoordinate (F := F) t) s := by
  have hd := t.degreeLength_le
  have hm := t.minuteLength_le
  unfold CoordinateType.width at h
  unfold decodeCoordinate
  rcases Nat.lt_or_ge s.mPacket.size s.p0 with past | degrees_in
  · exact (decodeValueLong_pastEnd past).bind _
  refine .of_bind (decodeValueLong_run degrees_in (by omega)) ?_
  rcases Nat.lt_or_ge s.mPacket.size (s.p0 + t.degreeLength) with past | minutes_in
  · exact (decodeValueDouble_pastEnd past).bind _
  refine .of_bind (decodeValueDouble_run _ minutes_in (by omega)) ?_
  have h3 : s.mPacket.size < s.p0 + t.degreeLength + t.minuteLength := by omega
  exact (decodeCharAtIndex_pastEnd h3).bind _

end AprsWx
