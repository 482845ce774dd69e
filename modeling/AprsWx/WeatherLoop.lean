import AprsWx.Cursor

/-!
# The weather loop

The turns that the loop over the weather fields takes, from any cursor, what they read and where
they access the packet.

* `weatherFields`: what the loop makes of a text.
* `WeatherTurns`: the turns of a run of the loop.
* `WeatherTurns.inside`: there are no more turns than characters left, and all of their accesses are
  in the packet.
* `weatherLoop_inside`: the loop ends, after such turns.
* `weatherLoop_run`: with the fields of the text from the cursor on.
-/

namespace AprsWx

open Double Prog

variable {F : Type} [CDouble F]

/-! ## The weather fields -/

/-- The reports that the weather loop builds from `wxReport` and the fields of a text. -/
def weatherFields (text : List Char) (wxReport : AprsWxReport F) : AprsWxReport F :=
  match text with
  | [] => wxReport
  | flag :: text =>
    match findItem flag with
    | none => wxReport
    | some item =>
      let width := (weatherItemAt item.wxSym.idx).digits
      weatherFields (text.drop width)
        (storeWeatherValue wxReport item.wxSym flag (numberIn (text.take width) (ofRat item.factor)))
termination_by text.length
decreasing_by
  rw [List.length_drop, List.length_cons]
  omega

theorem decodeWeatherValue_run (wxReport : AprsWxReport F) (wxSym : WxSym) (valueFlag : Char) (factor : F)
    {s : AprsIs F} (h : s.p0 ≤ s.mPacket.size) :
    (decodeWeatherValue wxReport wxSym valueFlag factor).run s =
      .ok (storeWeatherValue wxReport wxSym valueFlag
          (numberIn (s.rest.take (weatherItemAt wxSym.idx).digits) factor))
        (s.moved (s.p0 + (weatherItemAt wxSym.idx).digits)) := by
  have hd := weatherItemAt_digits_le wxSym
  simp only [decodeWeatherValue, EStateM.run_bind, decodeValueDouble_run _ h
    (show (weatherItemAt wxSym.idx).digits ≤ 63 by omega), EStateM.run_pure]

theorem decodeFlag_none {s : AprsIs F} {wxReport : AprsWxReport F} {flag : Char}
    (h : findItem flag = none) : (decodeFlag wxReport flag).run s = .ok (false, wxReport) s := by
  unfold decodeFlag
  rw [h]
  rfl

theorem decodeFlag_some (wxReport : AprsWxReport F) {s : AprsIs F} {flag : Char} {item : WeatherItem}
    (h : findItem flag = some item) (hs : s.p0 ≤ s.mPacket.size) :
    (decodeFlag wxReport flag).run s =
      .ok (true, storeWeatherValue wxReport item.wxSym flag
          (numberIn (s.rest.take (weatherItemAt item.wxSym.idx).digits) (ofRat item.factor)))
        (s.moved (s.p0 + (weatherItemAt item.wxSym.idx).digits)) := by
  unfold decodeFlag
  rw [h]
  simp only [EStateM.run_bind, decodeWeatherValue_run _ _ _ _ hs, EStateM.run_pure]

/-! ## The turns -/

/-- The indices that a turn accesses: that of its flag, and the start of the field, where the table
has the flag. -/
structure WeatherTurn where
  flagAt : Nat
  fieldAt : Option Nat

/-- The turns of the loop from a report and an object, and the report and the object they end in. -/
inductive WeatherTurns :
    AprsWxReport F → AprsIs F → List WeatherTurn → AprsWxReport F → AprsIs F → Prop
  | done {wxReport : AprsWxReport F} {s : AprsIs F} :
    ¬ s.p0 < s.mPacket.size → WeatherTurns wxReport s [] wxReport s
  | unknown {wxReport : AprsWxReport F} {s t : AprsIs F} {flag : Char} :
    s.p0 < s.mPacket.size → decodeCharAtIndex.run s = .ok flag t → findItem flag = none →
    WeatherTurns wxReport s [⟨s.p0, none⟩] wxReport t
  | field {wxReport next last : AprsWxReport F} {s t u v : AprsIs F} {flag : Char}
    {item : WeatherItem} {turns : List WeatherTurn} :
    s.p0 < s.mPacket.size → decodeCharAtIndex.run s = .ok flag t → findItem flag = some item →
    (decodeWeatherValue wxReport item.wxSym flag (ofRat item.factor)).run t = .ok next u →
    WeatherTurns next u turns last v →
    WeatherTurns wxReport s (⟨s.p0, some t.p0⟩ :: turns) last v

/-- What a turn with a field reads and stores. -/
theorem weatherTurn_eq {wxReport next : AprsWxReport F} {s t u : AprsIs F} {flag : Char}
    {item : WeatherItem} (inside : s.p0 < s.mPacket.size) (read : decodeCharAtIndex.run s = .ok flag t)
    (decoded : (decodeWeatherValue wxReport item.wxSym flag (ofRat item.factor)).run t = .ok next u) :
    flag = s.rest.headD '\x00' ∧ t = s.moved (s.p0 + 1) ∧
      u = t.moved (t.p0 + (weatherItemAt item.wxSym.idx).digits) ∧
      next = storeWeatherValue wxReport item.wxSym flag
        (numberIn (t.rest.take (weatherItemAt item.wxSym.idx).digits) (ofRat item.factor)) := by
  rw [decodeCharAtIndex_run inside.le] at read
  cases read
  have value := decodeWeatherValue_run wxReport item.wxSym (s.rest.headD '\x00')
    (ofRat item.factor : F) (s := s.moved (s.p0 + 1)) inside
  rw [value] at decoded
  cases decoded
  exact ⟨rfl, rfl, rfl, rfl⟩

/-- Turns from `s` to `t` that access nothing but the packet and its end. -/
structure Inside (s : AprsIs F) (turns : List WeatherTurn) (t : AprsIs F) : Prop where
  mPacket : t.mPacket = s.mPacket
  length : turns.length ≤ s.mPacket.size - s.p0
  flagAt : ∀ turn ∈ turns, turn.flagAt < s.mPacket.size
  fieldAt : ∀ turn ∈ turns, ∀ start ∈ turn.fieldAt, start ≤ s.mPacket.size
  cursor : t.p0 ≤ max s.p0 (s.mPacket.size + 5)

omit [CDouble F] in
/-- A turn with a field, before others: the field has at most five characters. -/
theorem Inside.field {s t : AprsIs F} {turns : List WeatherTurn} (inside : s.p0 < s.mPacket.size)
    {width : Nat} (narrow : width ≤ 5) (rest : Inside (s.moved (s.p0 + 1 + width)) turns t) :
    Inside s (⟨s.p0, some (s.p0 + 1)⟩ :: turns) t := by
  obtain ⟨mPacket, length, flagAt, fieldAt, cursor⟩ := rest
  rw [AprsIs.moved_mPacket] at mPacket length flagAt fieldAt cursor
  rw [AprsIs.moved_p0] at length cursor
  refine ⟨mPacket, ?_, ?_, ?_, ?_⟩
  · rw [List.length_cons]
    omega
  · exact List.forall_mem_cons.mpr ⟨inside, flagAt⟩
  · refine List.forall_mem_cons.mpr ⟨?_, fieldAt⟩
    rintro start ⟨⟩
    exact inside
  · omega

theorem WeatherTurns.inside {wxReport last : AprsWxReport F} {s t : AprsIs F}
    {turns : List WeatherTurn} (taken : WeatherTurns wxReport s turns last t) :
    Inside s turns t := by
  induction taken with
  | done _ =>
    refine ⟨rfl, Nat.zero_le _, ?_, ?_, le_max_left _ _⟩
    · exact List.forall_mem_nil _
    · exact List.forall_mem_nil _
  | @unknown wxReport s t flag inside read _ =>
    rw [decodeCharAtIndex_run inside.le] at read
    cases read
    refine ⟨rfl, Nat.sub_pos_of_lt inside, ?_, ?_, ?_⟩
    · exact List.forall_mem_singleton.mpr inside
    · refine List.forall_mem_singleton.mpr ?_
      rintro start ⟨⟩
    · rw [AprsIs.moved_p0]
      omega
  | @field wxReport next last s t u v flag item turns inside read _ decoded _ ih =>
    obtain ⟨-, rfl, rfl, -⟩ := weatherTurn_eq inside read decoded
    exact .field inside (weatherItemAt_digits_le item.wxSym) ih

/-- The turns make of the report what the fields of the text are. -/
theorem WeatherTurns.result {wxReport last : AprsWxReport F} {s t : AprsIs F}
    {turns : List WeatherTurn} (taken : WeatherTurns wxReport s turns last t) :
    last = weatherFields s.rest wxReport ∧ ∃ n, t = s.moved n := by
  have split : ∀ {s : AprsIs F}, s.p0 < s.mPacket.size →
      s.rest = s.rest.headD '\x00' :: (s.moved (s.p0 + 1)).rest := by
    intro s inside
    obtain ⟨flag, text, rest⟩ : ∃ flag text, s.rest = flag :: text := by
      refine List.exists_cons_of_length_pos ?_
      rw [s.length_rest]
      exact Nat.sub_pos_of_lt inside
    rw [s.rest_moved, rest]
    rfl
  induction taken with
  | @done wxReport s outside =>
    rw [s.rest_eq_nil (Nat.not_lt.mp outside), weatherFields]
    exact ⟨rfl, s.p0, rfl⟩
  | @unknown wxReport s t flag inside read known =>
    rw [decodeCharAtIndex_run inside.le] at read
    cases read
    rw [split inside, weatherFields, known]
    exact ⟨rfl, s.p0 + 1, rfl⟩
  | @field wxReport next last s t u v flag item turns inside read known decoded _ ih =>
    obtain ⟨rfl, rfl, rfl, rfl⟩ := weatherTurn_eq inside read decoded
    obtain ⟨rfl, n, rfl⟩ := ih
    rw [split inside, weatherFields, known]
    have moved := (s.moved (s.p0 + 1)).rest_moved (weatherItemAt item.wxSym.idx).digits
    refine ⟨?_, n, rfl⟩
    rw [moved]
    rfl

/-- With turns left for the characters, the loop ends, and it has taken its turns. -/
theorem weatherLoop_turns (fuel : Nat) (s : AprsIs F) (wxReport : AprsWxReport F)
    (enough : s.mPacket.size - s.p0 < fuel) :
    ∃ turns last t, (weatherLoop fuel wxReport).run s = .ok last t ∧
      WeatherTurns wxReport s turns last t := by
  induction fuel generalizing s wxReport with
  | zero => exact absurd enough (Nat.not_lt_zero _)
  | succ fuel ih =>
    by_cases inside : s.p0 < s.mPacket.size
    · have read := decodeCharAtIndex_run inside.le
      cases known : findItem (s.rest.headD '\x00') with
      | none =>
        refine ⟨_, _, _, ?_, .unknown inside read known⟩
        simp only [weatherLoop, EStateM.run_bind, EStateM.run_get, if_pos inside, read,
          catching_run_ok (decodeFlag_none known), Bool.false_eq_true, if_false, EStateM.run_pure]
      | some item =>
        have field := decodeFlag_some wxReport (s := s.moved (s.p0 + 1)) known inside
        have value := decodeWeatherValue_run wxReport item.wxSym (s.rest.headD '\x00')
          (ofRat item.factor) (s := s.moved (s.p0 + 1)) inside
        -- the flag alone makes the rest shorter, whatever the width of its value
        have shorter :
            s.mPacket.size - (s.p0 + 1 + (weatherItemAt item.wxSym.idx).digits) < fuel := by
          omega
        obtain ⟨turns, last, t, run, taken⟩ := ih ((s.moved (s.p0 + 1)).moved
          (s.p0 + 1 + (weatherItemAt item.wxSym.idx).digits)) _ shorter
        refine ⟨_, last, t, ?_, .field inside read known value taken⟩
        simp only [weatherLoop, EStateM.run_bind, EStateM.run_get, if_pos inside, read,
          catching_run_ok field, if_true]
        exact run
    · refine ⟨[], wxReport, s, ?_, .done inside⟩
      simp only [weatherLoop, EStateM.run_bind, EStateM.run_get, if_neg inside, EStateM.run_pure]

/-- From every cursor, in the packet or past its end, the loop as `decode` runs it ends without an
exception, after no more turns than characters are left. Its flags and its fields start in the
packet, and it leaves the cursor at most five characters past the end, or where it was. -/
theorem weatherLoop_inside (s : AprsIs F) (wxReport : AprsWxReport F) :
    ∃ turns last t, (weatherLoop (s.mPacket.size + 1) wxReport).run s = .ok last t ∧
      WeatherTurns wxReport s turns last t ∧ Inside s turns t := by
  obtain ⟨turns, last, t, run, taken⟩ :=
    weatherLoop_turns (s.mPacket.size + 1) s wxReport (Nat.lt_succ_of_le (Nat.sub_le _ _))
  exact ⟨turns, last, t, run, taken, taken.inside⟩

/-- The loop makes of the report what the fields of the text at the cursor are. It ends at most five
characters past the end, or where it began. -/
theorem weatherLoop_run (fuel : Nat) (s : AprsIs F) (wxReport : AprsWxReport F)
    (enough : s.mPacket.size - s.p0 < fuel) :
    ∃ n, n ≤ max s.p0 (s.mPacket.size + 5) ∧
      (weatherLoop fuel wxReport).run s = .ok (weatherFields s.rest wxReport) (s.moved n) := by
  obtain ⟨turns, last, t, run, taken⟩ := weatherLoop_turns fuel s wxReport enough
  obtain ⟨rfl, n, rfl⟩ := taken.result
  exact ⟨n, taken.inside.cursor, run⟩

end AprsWx
