import AprsWx.Net

/-!
# Lines

`getPacket` takes a line out of a stream of outcomes: timeouts of `select`, characters,
and errors.

* `call`: what one call makes of the stream, and `getPacketLoop_run`, that it does.
* `lines`, `beforeFailure`: the lines of the received text, up to a failure of `select`.
-/

namespace AprsWx

open Prog

/-! ## Streams -/

/-- The outcome of one wait in `getPacket`: `select` times out, fails or finds the socket
readable, and then a character is read, or `read` fails. -/
inductive Outcome
  | timeout
  | byte (c : Char)
  | selectError
  | readError
  deriving DecidableEq

/-- The answers to the calls. -/
def Outcome.answers : Outcome → List Ext
  | .timeout => [.select 0]
  | .byte c => [.select 1, .read (.byte c)]
  | .selectError => [.select (-1)]
  | .readError => [.select 1, .read .error]

/-- The text received. -/
def received (os : List Outcome) : List Char :=
  os.filterMap fun
    | .byte c => some c
    | _ => none

/-- What one call makes of a stream. -/
inductive Call
  | line (text : List Char) (rest : List Outcome)
  | failed (mWaitTime : Nat) (rest : List Outcome)
  | exited
  | waiting (text : List Char) (mWaitTime : Nat)

/-- The call goes on after the character `c`. -/
def Call.after (c : Char) : Call → Call
  | .line text rest => .line (c :: text) rest
  | .waiting text mWaitTime => .waiting (c :: text) mWaitTime
  | r => r

/-- One call: up to the end of a line, a select error, or the timeout that brings the
counter past 60; waiting, where the stream ends before. -/
def call (mWaitTime : Nat) : List Outcome → Call
  | [] => .waiting [] mWaitTime
  | .timeout :: os =>
    if 60 < nextWait mWaitTime then .failed (nextWait mWaitTime) os else call (nextWait mWaitTime) os
  | .byte c :: os => if c = '\n' then .line [c] os else (call 0 os).after c
  | .selectError :: os => .failed mWaitTime os
  | .readError :: _ => .exited

variable {F : Type}

/-- A connected object with the answers `script`. -/
def Net.online (s : Net F) (script : List Ext) : Net F :=
  { s with sock := s.sock.withType .SockConnect, script := script }

/-! ## One turn of the loop -/

section Turns

variable {s : Net F} {script : List Ext} (fuel : Nat) (stringBuf : List Char) (buf : Option Char)

theorem answer_run {α : Type} {f : Ext → Option α} {e : Ext} {a : α} (next : s.script = e :: script)
    (accepted : f e = some a) : (answer f).run s = .ok a { s with script := script } := by
  simp only [answer, EStateM.run_bind, EStateM.run_get, next, accepted, EStateM.run_set,
    EStateM.run_pure]

theorem answer_pending {α : Type} {f : Ext → Option α} (none : s.script = []) :
    (answer f).run s = .error .pending s := by
  simp only [answer, EStateM.run_bind, EStateM.run_get, none]
  rfl

/-- A connected object passes the test of `select`. -/
theorem select_run (connected : s.sock.socketType = .SockConnect) {r : Int}
    (next : s.script = .select r :: script) (nonzero : r ≠ 0) :
    (select 60).run s = .ok r { s with script := script } := by
  have passed : ¬ (s.sock.socketType ≠ .SockListen ∧ s.sock.socketType ≠ .SockConnect) := by
    simp [connected]
  simp only [select, getSock, EStateM.run_bind, EStateM.run_get, EStateM.run_pure, if_neg passed,
    answer_run (f := Ext.asSelect) next rfl, nonzero, false_and, if_false]

theorem select_timeout (connected : s.sock.socketType = .SockConnect)
    (next : s.script = .select 0 :: script) :
    (select 60).run s = .ok (if 60 < nextWait s.sock.mWaitTime then -2 else 0)
      { s with sock := s.sock.waited (nextWait s.sock.mWaitTime), script := script } := by
  have passed : ¬ (s.sock.socketType ≠ .SockListen ∧ s.sock.socketType ≠ .SockConnect) := by
    simp [connected]
  simp only [select, getSock, modifySock, EStateM.run_bind, EStateM.run_get, EStateM.run_pure,
    if_neg passed, answer_run (f := Ext.asSelect) next rfl, EStateM.run_modify, Nat.zero_lt_succ,
    and_self, if_true]
  rfl

theorem select_pending (connected : s.sock.socketType = .SockConnect) (none : s.script = []) :
    (select 60).run s = .error .pending s := by
  have passed : ¬ (s.sock.socketType ≠ .SockListen ∧ s.sock.socketType ≠ .SockConnect) := by
    simp [connected]
  simp only [select, getSock, EStateM.run_bind, EStateM.run_get, EStateM.run_pure, if_neg passed,
    answer_pending none]

theorem loop_pending (connected : s.sock.socketType = .SockConnect) (none : s.script = []) :
    (getPacketLoop (fuel + 1) stringBuf buf).run s = .error .pending s := by
  simp only [getPacketLoop, EStateM.run_bind, select_pending connected none]

theorem loop_selectError (connected : s.sock.socketType = .SockConnect)
    (next : s.script = .select (-1) :: script) :
    (getPacketLoop (fuel + 1) stringBuf buf).run s =
      .ok ⟨⟩ { s with sock := s.sock.emptied, script := script } := by
  simp only [getPacketLoop, modifySock, EStateM.run_bind, select_run connected next (by decide)]
  rfl

theorem loop_timeout (connected : s.sock.socketType = .SockConnect)
    (next : s.script = .select 0 :: script) :
    (getPacketLoop (fuel + 1) stringBuf buf).run s =
      if 60 < nextWait s.sock.mWaitTime then
        .ok ⟨⟩ { s with sock := (s.sock.waited (nextWait s.sock.mWaitTime)).emptied, script := script }
      else
        (getPacketLoop fuel stringBuf buf).run
          { s with sock := s.sock.waited (nextWait s.sock.mWaitTime), script := script } := by
  simp only [getPacketLoop, EStateM.run_bind, select_timeout connected next]
  split <;> rfl

theorem loop_readError (connected : s.sock.socketType = .SockConnect)
    (next : s.script = .select 1 :: .read .error :: script) :
    ∃ t, (getPacketLoop (fuel + 1) stringBuf buf).run s = .error (.exited 1) t := by
  refine ⟨{ s with sock := s.sock.waited 0, script := script }, ?_⟩
  simp only [getPacketLoop, modifySock, readChar, EStateM.run_bind,
    select_run connected next (by decide)]
  rfl

theorem loop_byte (connected : s.sock.socketType = .SockConnect) {c : Char}
    (next : s.script = .select 1 :: .read (.byte c) :: script) :
    (getPacketLoop (fuel + 1) stringBuf buf).run s =
      if c = '\n' then
        .ok ⟨⟩ { s with
          sock := (s.sock.waited 0).received (StdString.ofChars (appendChar stringBuf c))
          script := script }
      else
        (getPacketLoop fuel (appendChar stringBuf c) (some c)).run
          { s with sock := s.sock.waited 0, script := script } := by
  have read : (readChar buf).run
      { s with sock := s.sock.waited 0, script := .read (.byte c) :: script } =
      .ok c { s with sock := s.sock.waited 0, script := script } := rfl
  simp only [getPacketLoop, modifySock, EStateM.run_bind, select_run connected next (by decide),
    EStateM.run_modify, Int.zero_lt_one, if_true, read]
  split <;> rfl

end Turns

/-! ## One call -/

/-- The object after a call that has put `text` into `stringBuf`, in the case of a line. -/
def AprsIs.framed (sock : AprsIs F) (text : List Char) : AprsIs F :=
  (sock.waited 0).received (StdString.ofChars text)

/-- What `stringBuf` holds after the characters `text`. -/
theorem foldl_appendChar (text stringBuf : List Char) :
    text.foldl appendChar stringBuf = stringBuf ++ text.filter (· ≠ '\r') := by
  induction text generalizing stringBuf with
  | nil => simp
  | cons c text ih =>
    rw [List.foldl_cons, ih]
    unfold appendChar
    rcases eq_or_ne c '\r' with rfl | other
    · simp
    · simp [other]

/-- The loop does what `call` says: it takes the line out of the stream, or fails, or goes on
to the answers that follow the stream. -/
theorem getPacketLoop_run (os : List Outcome) (more : List Ext) (fuel : Nat) (stringBuf : List Char)
    (buf : Option Char) (s : Net F) (connected : s.sock.socketType = .SockConnect)
    (next : s.script = os.flatMap Outcome.answers ++ more) (enough : os.length < fuel) :
    match call s.sock.mWaitTime os with
    | .line text rest => (getPacketLoop fuel stringBuf buf).run s = .ok ⟨⟩ { s with
        sock := s.sock.framed (text.foldl appendChar stringBuf)
        script := rest.flatMap Outcome.answers ++ more }
    | .failed mWaitTime rest => (getPacketLoop fuel stringBuf buf).run s = .ok ⟨⟩ { s with
        sock := (s.sock.waited mWaitTime).emptied
        script := rest.flatMap Outcome.answers ++ more }
    | .exited => ∃ t, (getPacketLoop fuel stringBuf buf).run s = .error (.exited 1) t
    | .waiting text mWaitTime => (getPacketLoop fuel stringBuf buf).run s =
        (getPacketLoop (fuel - os.length) (text.foldl appendChar stringBuf)
          (text.getLast?.or buf)).run { s with sock := s.sock.waited mWaitTime, script := more } := by
  induction os generalizing fuel stringBuf buf s with
  | nil =>
    rw [List.flatMap_nil, List.nil_append] at next
    subst next
    rfl
  | cons o os ih =>
    obtain ⟨fuel, rfl⟩ : ∃ n, fuel = n + 1 := ⟨fuel - 1, by omega⟩
    have less : os.length < fuel := by
      rw [List.length_cons] at enough
      omega
    rw [List.flatMap_cons, List.append_assoc] at next
    cases o with
    | timeout =>
      have turn := loop_timeout fuel stringBuf buf connected next
      unfold call
      by_cases limit : 60 < nextWait s.sock.mWaitTime
      · simp only [if_pos limit] at turn ⊢
        exact turn
      · simp only [if_neg limit] at turn ⊢
        rw [turn]
        have rest := ih fuel stringBuf buf { s with
          sock := s.sock.waited (nextWait s.sock.mWaitTime)
          script := os.flatMap Outcome.answers ++ more } connected rfl less
        rw [List.length_cons, Nat.add_sub_add_right]
        exact rest
    | byte c =>
      have turn := loop_byte fuel stringBuf buf connected next
      unfold call
      by_cases newline : c = '\n'
      · simp only [if_pos newline] at turn ⊢
        exact turn
      · simp only [if_neg newline] at turn ⊢
        rw [turn]
        -- the turn has reset the counter and left `c` in `buf[0]`
        have rest := ih fuel (appendChar stringBuf c) (some c) { s with
          sock := s.sock.waited 0
          script := os.flatMap Outcome.answers ++ more } connected rfl less
        rw [List.length_cons, Nat.add_sub_add_right]
        change match call 0 os with
          | .line _ _ => _
          | .failed _ _ => _
          | .exited => _
          | .waiting _ _ => _ at rest
        cases ended : call 0 os with
        | line text more => rw [ended] at rest; exact rest
        | failed mWaitTime more => rw [ended] at rest; exact rest
        | exited => rw [ended] at rest; exact rest
        | waiting text mWaitTime =>
          rw [ended] at rest
          have last : (c :: text).getLast?.or buf = text.getLast?.or (some c) := by
            rw [List.getLast?_cons]
            cases text.getLast? <;> rfl
          simp only [Call.after, List.foldl_cons, last]
          exact rest
    | selectError => exact loop_selectError _ _ _ connected next
    | readError => exact loop_readError _ _ _ connected next

theorem length_le_answers (os : List Outcome) : os.length ≤ (os.flatMap Outcome.answers).length := by
  induction os with
  | nil => exact Nat.le_refl 0
  | cons o os ih =>
    have some : 1 ≤ o.answers.length := by cases o <;> simp [Outcome.answers]
    rw [List.flatMap_cons, List.length_append, List.length_cons]
    omega

/-- `getPacket` does what `call` says, where the stream is long enough for it. -/
theorem getPacket_run (os : List Outcome) (more : List Ext) (s : Net F)
    (connected : s.sock.socketType = .SockConnect)
    (next : s.script = os.flatMap Outcome.answers ++ more) :
    match call s.sock.mWaitTime os with
    | .line text rest =>
      let packet := StdString.ofChars (text.filter (· ≠ '\r'))
      getPacket.run s = .ok packet
        ⟨(s.sock.waited 0).received packet, rest.flatMap Outcome.answers ++ more,
          s.log ++ [.packet s.sock.sockFd packet]⟩
    | .failed mWaitTime rest => getPacket.run s = .ok StdString.empty
        ⟨(s.sock.waited mWaitTime).emptied, rest.flatMap Outcome.answers ++ more,
          s.log ++ [.packet s.sock.sockFd StdString.empty]⟩
    | .exited => ∃ t, getPacket.run s = .error (.exited 1) t
    | .waiting text mWaitTime =>
      ∀ e t, (getPacketLoop (s.script.length + 1 - os.length) (text.filter (· ≠ '\r'))
        text.getLast?).run ⟨s.sock.waited mWaitTime, more, s.log⟩ = .error e t →
          getPacket.run s = .error e t := by
  have length := length_le_answers os
  have loop := getPacketLoop_run os more (s.script.length + 1) [] none s connected next (by
    rw [next, List.length_append]
    omega)
  cases ended : call s.sock.mWaitTime os with
  | line text rest =>
    rw [ended] at loop
    simp only [foldl_appendChar, List.nil_append] at loop
    simp only [getPacket, getSock, logSys, EStateM.run_bind, EStateM.run_get, loop]
    rfl
  | failed mWaitTime rest =>
    rw [ended] at loop
    simp only [getPacket, getSock, logSys, EStateM.run_bind, EStateM.run_get, loop]
    rfl
  | exited =>
    rw [ended] at loop
    obtain ⟨t, stopped⟩ := loop
    exact ⟨t, by simp only [getPacket, EStateM.run_bind, EStateM.run_get, stopped]⟩
  | waiting text mWaitTime =>
    rw [ended] at loop
    simp only [foldl_appendChar, List.nil_append, Option.or_none] at loop
    intro e t stopped
    rw [stopped] at loop
    simp only [getPacket, EStateM.run_bind, EStateM.run_get, loop]

/-! ## The stream as text -/

/-- The outcomes before the first failure: a select error, or the timeout that brings the
counter of consecutive timeouts, `mWaitTime` at the start, past 60. -/
def beforeFailure (mWaitTime : Nat) : List Outcome → List Outcome
  | [] => []
  | .timeout :: os =>
    if 60 < nextWait mWaitTime then [] else .timeout :: beforeFailure (nextWait mWaitTime) os
  | .selectError :: _ => []
  | .byte c :: os => .byte c :: beforeFailure 0 os
  | .readError :: os => .readError :: beforeFailure 0 os

/-- A failure of `select` occurs. -/
def Fails (mWaitTime : Nat) (os : List Outcome) : Prop := beforeFailure mWaitTime os ≠ os

/-- The newline-terminated lines of a text, each with its newline. -/
def lines (text : List Char) : List (List Char) :=
  (text.splitOn '\n').dropLast.map (· ++ ['\n'])

theorem lines_cons {body : List Char} (whole : '\n' ∉ body) (rest : List Char) :
    lines (body ++ '\n' :: rest) = (body ++ ['\n']) :: lines rest := by
  unfold lines
  rw [List.splitOn_append_cons_self, List.splitOn_eq_singleton whole, List.singleton_append,
    List.dropLast_cons_of_ne_nil (List.splitOn_ne_nil _ _), List.map_cons]

theorem lines_eq_nil {text : List Char} (whole : '\n' ∉ text) : lines text = [] := by
  unfold lines
  rw [List.splitOn_eq_singleton whole]
  rfl

section Stream

variable {mWaitTime : Nat} {os : List Outcome}

theorem fails_timeout (go : ¬ 60 < nextWait mWaitTime) :
    Fails mWaitTime (.timeout :: os) ↔ Fails (nextWait mWaitTime) os := by
  unfold Fails
  rw [beforeFailure, if_neg go, Ne, Ne, List.cons_inj_right]

theorem fails_limit (limit : 60 < nextWait mWaitTime) : Fails mWaitTime (.timeout :: os) := by
  unfold Fails
  rw [beforeFailure, if_pos limit]
  exact (List.cons_ne_nil _ _).symm

theorem fails_byte {c : Char} : Fails mWaitTime (.byte c :: os) ↔ Fails 0 os := by
  unfold Fails
  rw [beforeFailure, Ne, Ne, List.cons_inj_right]

theorem fails_selectError : Fails mWaitTime (.selectError :: os) := (List.cons_ne_nil _ _).symm

theorem received_byte (c : Char) (os : List Outcome) :
    received (.byte c :: os) = c :: received os := rfl

theorem received_timeout (os : List Outcome) : received (.timeout :: os) = received os := rfl

/-- What holds of the stream after the end of a call. -/
def Call.Describes (mWaitTime : Nat) (os : List Outcome) : Call → Prop
  | .line text rest => ∃ body, text = body ++ ['\n'] ∧ '\n' ∉ body ∧
      received (beforeFailure mWaitTime os) = text ++ received (beforeFailure 0 rest) ∧
      received os = text ++ received rest ∧
      (Fails mWaitTime os ↔ Fails 0 rest) ∧ rest <:+ os ∧ rest.length < os.length
  | .failed _ _ => '\n' ∉ received (beforeFailure mWaitTime os) ∧ Fails mWaitTime os
  | .exited => .readError ∈ os
  | .waiting text _ => text = received (beforeFailure mWaitTime os) ∧ '\n' ∉ text ∧
      ¬ Fails mWaitTime os

/-- A timeout that is no failure adds nothing to what the call makes of the rest. -/
theorem Call.Describes.timeout (go : ¬ 60 < nextWait mWaitTime) {r : Call}
    (rest : r.Describes (nextWait mWaitTime) os) : r.Describes mWaitTime (.timeout :: os) := by
  have text : received (beforeFailure mWaitTime (.timeout :: os)) =
      received (beforeFailure (nextWait mWaitTime) os) := by
    rw [beforeFailure, if_neg go, received_timeout]
  cases r with
  | line =>
    obtain ⟨body, form, whole, first, all, fails, suffix, shorter⟩ := rest
    exact ⟨body, form, whole, text.trans first, all, (fails_timeout go).trans fails,
      suffix.trans (List.suffix_cons _ _), Nat.lt_succ_of_lt shorter⟩
  | failed => exact ⟨text ▸ rest.1, (fails_timeout go).mpr rest.2⟩
  | exited => exact List.mem_cons_of_mem _ rest
  | waiting => exact ⟨rest.1.trans text.symm, rest.2.1, mt (fails_timeout go).mp rest.2.2⟩

/-- A character within a line goes in front of what the call makes of the rest. -/
theorem Call.Describes.byte {c : Char} (newline : c ≠ '\n') {r : Call} (rest : r.Describes 0 os) :
    (r.after c).Describes mWaitTime (.byte c :: os) := by
  cases r with
  | line =>
    obtain ⟨body, form, whole, first, all, fails, suffix, shorter⟩ := rest
    refine ⟨c :: body, by rw [form]; rfl, ?_, ?_, congrArg (c :: ·) all, fails_byte.trans fails,
      suffix.trans (List.suffix_cons _ _), Nat.lt_succ_of_lt shorter⟩
    · rw [List.mem_cons]
      exact not_or.mpr ⟨Ne.symm newline, whole⟩
    · rw [beforeFailure, received_byte, first]
      rfl
  | failed =>
    refine ⟨?_, fails_byte.mpr rest.2⟩
    rw [beforeFailure, received_byte, List.mem_cons]
    exact not_or.mpr ⟨Ne.symm newline, rest.1⟩
  | exited => exact List.mem_cons_of_mem _ rest
  | waiting =>
    refine ⟨?_, ?_, mt fails_byte.mp rest.2.2⟩
    · rw [beforeFailure, received_byte, rest.1]
    · rw [List.mem_cons]
      exact not_or.mpr ⟨Ne.symm newline, rest.2.1⟩

/-- A call takes the first line of the text before the failure, if there is one. -/
theorem call_describes (mWaitTime : Nat) (os : List Outcome) :
    (call mWaitTime os).Describes mWaitTime os := by
  induction os generalizing mWaitTime with
  | nil => exact ⟨rfl, List.not_mem_nil, fun fails => fails rfl⟩
  | cons o os ih =>
    cases o with
    | timeout =>
      unfold call
      by_cases limit : 60 < nextWait mWaitTime
      · rw [if_pos limit]
        refine ⟨?_, fails_limit limit⟩
        rw [beforeFailure, if_pos limit]
        exact List.not_mem_nil
      · rw [if_neg limit]
        exact (ih (nextWait mWaitTime)).timeout limit
    | byte c =>
      unfold call
      by_cases newline : c = '\n'
      · rw [if_pos newline]
        subst newline
        exact ⟨[], rfl, List.not_mem_nil, rfl, rfl, fails_byte, List.suffix_cons _ _,
          Nat.lt_succ_self _⟩
      · rw [if_neg newline]
        -- the character has restarted the counter, whatever it was
        exact (ih 0).byte newline
    | selectError => exact ⟨List.not_mem_nil, fails_selectError⟩
    | readError => exact List.mem_cons_self

end Stream

end AprsWx
