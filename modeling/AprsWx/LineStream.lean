import Mathlib.Data.List.Infix
import AprsWx.Framing

/-!
# Successive calls

What a sequence of `getPacket` calls makes of a stream, and when a call ends after the
peer has closed the connection.

* `nextPackets_lines`: the calls return the lines of the stream up to a failure of
  `select`, and where the timeouts fall changes no packet.
* `getPacket_returns_iff`: after the end of the file a call returns only if its line or a
  failure came before.
* `nextPackets_closed`: so the calls on a connection end with the one after the last line.
-/

namespace AprsWx

open Prog

variable {F : Type}

/-! ## Sequences of calls -/

/-- The next `k` packets, each with the cursors that the call leaves. -/
def nextPackets : Nat → NetM F (List (StdString × Nat × Nat))
  | 0 => pure []
  | k + 1 => do
    let packet ← getPacket
    let sock ← getSock
    let packets ← nextPackets k
    return (packet, sock.p0, sock.p1) :: packets

/-- The packet of a line, with the cursors at its start. -/
def framedPacket (line : List Char) : StdString × Nat × Nat :=
  (StdString.ofChars (line.filter (· ≠ '\r')), 0, npos)

section Sequences

variable {s t u : Net F} {k : Nat} {packet : StdString} {packets : List (StdString × Nat × Nat)}
  {e : Stop}

theorem nextPackets_ok (first : getPacket.run s = .ok packet t)
    (rest : (nextPackets k).run t = .ok packets u) :
    (nextPackets (k + 1)).run s = .ok ((packet, t.sock.p0, t.sock.p1) :: packets) u := by
  simp only [nextPackets, getSock, EStateM.run_bind, first, EStateM.run_get, EStateM.run_pure, rest]

theorem nextPackets_error (first : getPacket.run s = .ok packet t)
    (rest : (nextPackets k).run t = .error e u) : (nextPackets (k + 1)).run s = .error e u := by
  simp only [nextPackets, getSock, EStateM.run_bind, first, EStateM.run_get, EStateM.run_pure, rest]

theorem nextPackets_returns (first : getPacket.run s = .ok packet t) (k : Nat) :
    (∃ packets u, (nextPackets (k + 1)).run s = .ok packets u) ↔
      ∃ packets u, (nextPackets k).run t = .ok packets u := by
  constructor
  · rintro ⟨packets, u, returned⟩
    cases rest : (nextPackets k).run t with
    | ok packets' v => exact ⟨packets', v, rfl⟩
    | error e v =>
      rw [nextPackets_error first rest] at returned
      cases returned
  · rintro ⟨packets, u, rest⟩
    exact ⟨_, u, nextPackets_ok first rest⟩

theorem nextPackets_stop (first : getPacket.run s = .error e t) :
    (nextPackets (k + 1)).run s = .error e t := by
  simp only [nextPackets, EStateM.run_bind, first]

end Sequences

/-- The calls take the lines `ls` one after another. Then the next call returns the empty packet
where a failure ended the stream, and waits where the stream went on. -/
structure Delivers (s : Net F) (ls : List (List Char)) (fails : Prop) : Prop where
  some : ∀ k ≤ ls.length, ∃ t, (nextPackets k).run s = .ok ((ls.take k).map framedPacket) t
  failing : fails → ∃ p t, (nextPackets (ls.length + 1)).run s =
    .ok (ls.map framedPacket ++ [(StdString.empty, p)]) t
  waiting : ¬ fails → ∀ k, ls.length < k → ∃ t, (nextPackets k).run s = .error .pending t

section Delivers

variable {s t : Net F} {ls : List (List Char)} {fails fails' : Prop}

/-- A call that returns a line, and then the calls on what is left of the stream. -/
theorem Delivers.line {line : List Char} {sock : AprsIs F} {script : List Ext} {log : List Sys}
    (first : getPacket.run s = .ok (StdString.ofChars (line.filter (· ≠ '\r')))
      ⟨sock.received (StdString.ofChars (line.filter (· ≠ '\r'))), script, log⟩)
    (rest : Delivers ⟨sock.received (StdString.ofChars (line.filter (· ≠ '\r'))), script, log⟩ ls fails) :
    Delivers s (line :: ls) fails := by
  constructor
  · intro k bound
    cases k with
    | zero => exact ⟨s, rfl⟩
    | succ k =>
      obtain ⟨t, more⟩ := rest.some k (Nat.le_of_succ_le_succ bound)
      exact ⟨t, nextPackets_ok first more⟩
  · intro fail
    obtain ⟨p, t, more⟩ := rest.failing fail
    exact ⟨p, t, nextPackets_ok first more⟩
  · intro go k bound
    cases k with
    | zero => exact absurd bound (Nat.not_lt_zero _)
    | succ k =>
      obtain ⟨t, more⟩ := rest.waiting go k (Nat.lt_of_succ_lt_succ bound)
      exact ⟨t, nextPackets_error first more⟩

/-- A call in which the stream fails. -/
theorem Delivers.failed (first : getPacket.run s = .ok StdString.empty t) (fail : fails) :
    Delivers s [] fails := by
  refine ⟨?_, fun _ => ⟨_, _, nextPackets_ok first rfl⟩, fun go => absurd fail go⟩
  intro k bound
  obtain rfl := Nat.le_zero.mp bound
  exact ⟨s, rfl⟩

/-- A call that waits. -/
theorem Delivers.pending (first : getPacket.run s = .error .pending t) (go : ¬ fails) :
    Delivers s [] fails := by
  refine ⟨?_, fun fail => absurd fail go, ?_⟩
  · intro k bound
    obtain rfl := Nat.le_zero.mp bound
    exact ⟨s, rfl⟩
  · intro _ k bound
    cases k with
    | zero => exact absurd bound (Nat.not_lt_zero _)
    | succ k => exact ⟨t, nextPackets_stop first⟩

end Delivers

/-- The calls take the lines of the stream up to the first failure. -/
theorem nextPackets_run (n : Nat) (os : List Outcome) (bound : os.length < n)
    (noRead : .readError ∉ os) (s : Net F) (connected : s.sock.socketType = .SockConnect)
    (next : s.script = os.flatMap Outcome.answers ++ []) :
    Delivers s (lines (received (beforeFailure s.sock.mWaitTime os))) (Fails s.sock.mWaitTime os) := by
  -- a call takes more than one outcome off the stream, so the induction is on a bound of its length
  induction n generalizing os s with
  | zero => exact absurd bound (Nat.not_lt_zero _)
  | succ n ih =>
    have described := call_describes s.sock.mWaitTime os
    have run := getPacket_run os [] s connected next
    cases ended : call s.sock.mWaitTime os with
    | line text rest =>
      rw [ended] at described run
      obtain ⟨body, form, whole, first, -, fails, suffix, shorter⟩ := described
      have split : lines (received (beforeFailure s.sock.mWaitTime os)) =
          text :: lines (received (beforeFailure 0 rest)) := by
        rw [first, form, List.append_assoc]
        exact lines_cons whole _
      rw [split, fails]
      refine .line run (ih rest (by omega) (fun mem => noRead (suffix.subset mem)) _ ?_ rfl)
      exact connected
    | failed mWaitTime rest =>
      rw [ended] at described run
      rw [lines_eq_nil described.1]
      exact .failed run described.2
    | exited =>
      rw [ended] at described
      exact absurd described noRead
    | waiting text mWaitTime =>
      rw [ended] at described run
      obtain ⟨form, whole, go⟩ := described
      obtain ⟨fuel, enough⟩ : ∃ fuel, s.script.length + 1 - os.length = fuel + 1 := by
        have length := length_le_answers os
        rw [List.append_nil] at next
        rw [← next] at length
        exact ⟨s.script.length - os.length, by omega⟩
      rw [enough] at run
      rw [lines_eq_nil (form ▸ whole)]
      exact .pending (run .pending _ (loop_pending _ _ _ connected rfl)) go

/-! ## Runs of timeouts -/

theorem prefix_split {α : Type} {x l r : List α} {b : α} (other : b ∉ x) (start : x <+: l ++ b :: r) :
    x <+: l := by
  have left : l ++ [b] <+: l ++ b :: r := by
    rw [List.prefix_append_right_inj]
    exact List.cons_prefix_cons.mpr ⟨rfl, List.nil_prefix⟩
  rcases Nat.lt_or_ge l.length x.length with longer | shorter
  · have inside : l ++ [b] <+: x := List.prefix_of_prefix_length_le left start (by
      rw [List.length_append]
      exact longer)
    exact absurd (inside.subset (List.mem_append_right l List.mem_cons_self)) other
  · exact List.prefix_of_prefix_length_le start (List.prefix_append l _) shorter

/-- A run without `b` lies on one side of `b`. -/
theorem infix_split {α : Type} {x l r : List α} {b : α} (other : b ∉ x) (inside : x <:+: l ++ b :: r) :
    x <:+: l ∨ x <:+: r := by
  induction l with
  | nil =>
    rcases List.infix_cons_iff.mp inside with start | inside
    · exact .inl (prefix_split (l := []) other start).isInfix
    · exact .inr inside
  | cons a l ih =>
    rcases List.infix_cons_iff.mp inside with start | inside
    · exact .inl (prefix_split (l := a :: l) other start).isInfix
    · exact (ih inside).imp_left fun left => left.trans (List.suffix_cons _ _).isInfix

/-- Any other outcome parts the timeouts before it from those after it. -/
theorem timeouts_split {w : Nat} (fresh : w ≤ 60) {b : Outcome} (other : b ≠ .timeout)
    (os : List Outcome) :
    List.replicate 61 Outcome.timeout <:+: List.replicate w .timeout ++ b :: os ↔
      List.replicate 61 Outcome.timeout <:+: List.replicate 0 .timeout ++ os := by
  constructor
  · intro inside
    rcases infix_split (fun mem => other (List.eq_of_mem_replicate mem)) inside with left | right
    · have length := left.length_le
      rw [List.length_replicate, List.length_replicate] at length
      omega
    · exact right
  · intro inside
    exact inside.trans ((List.suffix_cons b os).trans (List.suffix_append _ _)).isInfix

/-- A failure is a select error, or a timeout that is the 61st in a row, counted from the `w`
timeouts before the stream. -/
theorem fails_iff {w : Nat} (fresh : w ≤ 60) (os : List Outcome) :
    Fails w os ↔ .selectError ∈ os ∨
      List.replicate 61 .timeout <:+: List.replicate w .timeout ++ os := by
  induction os generalizing w with
  | nil =>
    refine ⟨fun fails => absurd rfl fails, fun fails => ?_⟩
    rcases fails with mem | inside
    · exact absurd mem List.not_mem_nil
    · have length := inside.length_le
      rw [List.append_nil, List.length_replicate, List.length_replicate] at length
      omega
  | cons o os ih =>
    have one : nextWait w = w + 1 := by unfold nextWait; omega
    cases o with
    | timeout =>
      have joined : List.replicate w Outcome.timeout ++ .timeout :: os =
          List.replicate (w + 1) .timeout ++ os := by
        rw [List.replicate_succ', List.append_assoc]
        rfl
      by_cases limit : 60 < nextWait w
      · have start : List.replicate 61 Outcome.timeout <+: List.replicate (w + 1) .timeout ++ os := by
          rw [show w + 1 = 61 by omega]
          exact List.prefix_append _ _
        rw [joined]
        exact ⟨fun _ => .inr start.isInfix, fun _ => fails_limit limit⟩
      · rw [fails_timeout limit, one, ih (by omega), joined, List.mem_cons]
        simp
    | byte c =>
      rw [fails_byte, ih (Nat.zero_le _), timeouts_split fresh (by simp), List.mem_cons]
      simp
    | selectError => exact ⟨fun _ => .inl List.mem_cons_self, fun _ => fails_selectError⟩
    | readError =>
      have same : Fails w (.readError :: os) ↔ Fails 0 os := by
        unfold Fails
        rw [beforeFailure, Ne, Ne, List.cons_inj_right]
      rw [same, ih (Nat.zero_le _), timeouts_split fresh (by simp), List.mem_cons]
      simp

/-- No select error occurs and no 61 timeouts in a row, counted from the `w` timeouts before
the stream. -/
def Steady (w : Nat) (os : List Outcome) : Prop :=
  .selectError ∉ os ∧ ¬ List.replicate 61 .timeout <:+: List.replicate w .timeout ++ os

theorem Steady.not_fails {w : Nat} {os : List Outcome} (steady : Steady w os) : ¬ Fails w os := by
  rcases Nat.lt_or_ge 60 w with stale | fresh
  · have inside : List.replicate 61 Outcome.timeout <:+: List.replicate w .timeout ++ os := by
      obtain ⟨m, rfl⟩ : ∃ m, w = 61 + m := ⟨w - 61, by omega⟩
      rw [← List.replicate_append_replicate, List.append_assoc]
      exact (List.prefix_append _ _).isInfix
    exact absurd inside steady.2
  · rw [fails_iff fresh]
    exact not_or.mpr steady

/-- In a steady stream the calls that return are those that have a line to return. -/
theorem nextPackets_returns_iff {os : List Outcome} (noRead : .readError ∉ os) (s : Net F)
    (steady : Steady s.sock.mWaitTime os) (k : Nat) (packets : List (StdString × Nat × Nat)) :
    (∃ t, (nextPackets k).run (s.online (os.flatMap Outcome.answers)) = .ok packets t) ↔
      k ≤ (lines (received os)).length ∧
        packets = ((lines (received os)).take k).map framedPacket := by
  have go := steady.not_fails
  obtain ⟨some, -, waiting⟩ := nextPackets_run (os.length + 1) os (Nat.lt_succ_self _) noRead
    (s.online (os.flatMap Outcome.answers)) rfl (List.append_nil _).symm
  have all : beforeFailure (s.online (os.flatMap Outcome.answers)).sock.mWaitTime os = os :=
    not_not.mp go
  rw [all] at some waiting
  constructor
  · rintro ⟨t, returned⟩
    rcases Nat.lt_or_ge (lines (received os)).length k with late | early
    · obtain ⟨u, stopped⟩ := waiting go k late
      rw [stopped] at returned
      cases returned
    · obtain ⟨u, returned'⟩ := some k early
      rw [returned'] at returned
      cases returned
      exact ⟨early, rfl⟩
  · rintro ⟨early, rfl⟩
    exact some k early

/-- Successive calls on a connected object return the lines of the stream up to the first
failure, each without `'\r'` and with both cursors reset. The call in which the failure
occurs returns the empty packet; without a failure the next call waits. And where the
timeouts fall does not matter: two steady streams with the same text give the same packets. -/
theorem nextPackets_lines (os : List Outcome) (noRead : .readError ∉ os) (s : Net F) :
    let w := s.sock.mWaitTime
    let calls := fun k => (nextPackets k).run (s.online (os.flatMap Outcome.answers))
    let ls := lines (received (beforeFailure w os))
    (∀ k ≤ ls.length, ∃ t, calls k = .ok ((ls.take k).map framedPacket) t) ∧
    (Fails w os → ∃ p t, calls (ls.length + 1) =
      .ok (ls.map framedPacket ++ [(StdString.empty, p)]) t) ∧
    (¬ Fails w os → ∃ t, calls (ls.length + 1) = .error .pending t) ∧
    (∀ (os' : List Outcome) (s' : Net F), .readError ∉ os' → received os' = received os →
      Steady w os → Steady s'.sock.mWaitTime os' → ∀ k packets,
        (∃ t, calls k = .ok packets t) ↔
          ∃ t, (nextPackets k).run (s'.online (os'.flatMap Outcome.answers)) = .ok packets t) := by
  obtain ⟨some, failing, waiting⟩ := nextPackets_run (os.length + 1) os (Nat.lt_succ_self _) noRead
    (s.online (os.flatMap Outcome.answers)) rfl (List.append_nil _).symm
  refine ⟨some, failing, fun go => waiting go _ (Nat.lt_succ_self _), ?_⟩
  intro os' s' noRead' same steady steady' k packets
  rw [nextPackets_returns_iff noRead s steady, nextPackets_returns_iff noRead' s' steady', same]

instance (w : Nat) (os : List Outcome) : Decidable (Fails w os) := inferInstanceAs (Decidable (_ ≠ _))

def sampleStream : List Outcome :=
  [.timeout, .byte 'A', .byte '\r', .byte '\n', .byte 'B', .timeout, .byte '\n', .byte 'C', .selectError]

def sampleNet : Net ℚ where
  sock := { mCallSign := [], mPassCode := [], mFilter := [], mQthPosition := { mTimePoint := 0 } }
  script := []
  log := []

theorem nextPackets_sampleStream : ∃ p t,
    (nextPackets 3).run (sampleNet.online (sampleStream.flatMap Outcome.answers)) =
      .ok [(StdString.ofChars ['A', '\n'], 0, npos), (StdString.ofChars ['B', '\n'], 0, npos),
        (StdString.empty, p)] t :=
  (nextPackets_lines sampleStream (by decide) sampleNet).2.1 (by decide)

/-! ## After the end of the file -/

/-- The answers after the peer has closed the connection: the socket is readable and there is
nothing to read. -/
def eofs (n : Nat) : List Ext := (List.replicate n [Ext.select 1, Ext.read .eof]).flatten

theorem le_length_eofs (n : Nat) : n ≤ (eofs n).length := by
  induction n with
  | zero => exact Nat.zero_le _
  | succ n ih =>
    show n + 1 ≤ (eofs n).length + 1 + 1
    omega

/-- At the end of the file the loop puts the last character into the packet once more, and
goes on. -/
theorem loop_eofs (n fuel : Nat) (stringBuf : List Char) (buf : Option Char)
    (unfinished : buf ≠ some '\n') (s : Net F) (connected : s.sock.socketType = .SockConnect)
    (next : s.script = eofs n) (enough : n < fuel) :
    ∃ e t, (getPacketLoop fuel stringBuf buf).run s = .error e t ∧ (buf.isSome → e = .pending) := by
  induction n generalizing fuel stringBuf s with
  | zero =>
    obtain ⟨fuel, rfl⟩ : ∃ m, fuel = m + 1 := ⟨fuel - 1, by omega⟩
    exact ⟨_, _, loop_pending _ _ _ connected next, fun _ => rfl⟩
  | succ n ih =>
    obtain ⟨fuel, rfl⟩ : ∃ m, fuel = m + 1 := ⟨fuel - 1, by omega⟩
    have ready : s.script = .select 1 :: .read .eof :: eofs n := next
    cases buf with
    | none =>
      -- `buf[0]` is looked at before anything was read into it
      refine ⟨.undefined, { s with sock := s.sock.waited 0, script := eofs n }, ?_, nofun⟩
      simp only [getPacketLoop, modifySock, EStateM.run_bind, select_run connected ready (by decide)]
      rfl
    | some c =>
      -- `buf[0]` is the last character again, so no turn ends the line
      have newline : c ≠ '\n' := fun equal => unfinished (congrArg some equal)
      obtain ⟨e, t, stopped, pending⟩ := ih fuel (appendChar stringBuf c)
        { s with sock := s.sock.waited 0, script := eofs n } connected rfl (by omega)
      refine ⟨e, t, ?_, pending⟩
      rw [← stopped]
      have read : (readChar (some c)).run
          { s with sock := s.sock.waited 0, script := .read .eof :: eofs n } =
            .ok c { s with sock := s.sock.waited 0, script := eofs n } := rfl
      simp only [getPacketLoop, modifySock, EStateM.run_bind, select_run connected ready (by decide),
        EStateM.run_modify, Int.zero_lt_one, if_true, read, if_neg newline]

/-- The outcomes before the first read error, on which the process exits. -/
def beforeReadError (os : List Outcome) : List Outcome := os.takeWhile (· ≠ .readError)

theorem beforeReadError_cons {o : Outcome} (read : o ≠ .readError) (os : List Outcome) :
    beforeReadError (o :: os) = o :: beforeReadError os :=
  List.takeWhile_cons_of_pos (decide_eq_true read)

/-- A call that returns. -/
def Call.Returns : Call → Prop
  | .line _ _ => True
  | .failed _ _ => True
  | .exited => False
  | .waiting _ _ => False

theorem Call.returns_after (c : Char) (r : Call) : (r.after c).Returns ↔ r.Returns := by
  cases r <;> rfl

/-- A call returns where a newline is received or a failure occurs, before any read error. -/
theorem call_returns_iff (mWaitTime : Nat) (os : List Outcome) :
    (call mWaitTime os).Returns ↔
      .byte '\n' ∈ beforeReadError os ∨ Fails mWaitTime (beforeReadError os) := by
  induction os generalizing mWaitTime with
  | nil =>
    refine ⟨False.elim, fun returns => ?_⟩
    rcases returns with mem | fails
    · exact List.not_mem_nil mem
    · exact fails rfl
  | cons o os ih =>
    cases o with
    | timeout =>
      rw [beforeReadError_cons (by simp), List.mem_cons]
      by_cases limit : 60 < nextWait mWaitTime
      · rw [call, if_pos limit]
        exact ⟨fun _ => .inr (fails_limit limit), fun _ => trivial⟩
      · rw [call, if_neg limit, ih, fails_timeout limit]
        simp
    | byte c =>
      rw [beforeReadError_cons (by simp), List.mem_cons, fails_byte, call]
      by_cases newline : c = '\n'
      · rw [if_pos newline, newline]
        exact ⟨fun _ => .inl (.inl rfl), fun _ => trivial⟩
      · rw [if_neg newline, Call.returns_after, ih]
        simp [Ne.symm newline]
    | selectError =>
      rw [beforeReadError_cons (by simp)]
      exact ⟨fun _ => .inr fails_selectError, fun _ => trivial⟩
    | readError =>
      have none : beforeReadError (.readError :: os) = [] := by simp [beforeReadError]
      rw [none]
      refine ⟨False.elim, fun returns => ?_⟩
      rcases returns with mem | fails
      · exact List.not_mem_nil mem
      · exact fails rfl

/-- A call that still waits when the peer closes the connection does not return. -/
theorem getPacket_eofs {os : List Outcome} {n : Nat} {s : Net F} {text : List Char} {mWaitTime : Nat}
    (connected : s.sock.socketType = .SockConnect)
    (next : s.script = os.flatMap Outcome.answers ++ eofs n)
    (waiting : call s.sock.mWaitTime os = .waiting text mWaitTime) :
    ∃ e t, getPacket.run s = .error e t := by
  have run := getPacket_run os (eofs n) s connected next
  have described := call_describes s.sock.mWaitTime os
  rw [waiting] at run described
  have unfinished : text.getLast? ≠ some '\n' :=
    fun last => described.2.1 (List.mem_of_getLast? last)
  have enough : n < s.script.length + 1 - os.length := by
    have answers := length_le_answers os
    have eofs := le_length_eofs n
    rw [next, List.length_append]
    omega
  obtain ⟨e, t, stopped, -⟩ := loop_eofs n _ (text.filter (· ≠ '\r')) text.getLast? unfinished
    ⟨s.sock.waited mWaitTime, eofs n, s.log⟩ connected rfl enough
  exact ⟨e, t, run e t stopped⟩

/-- The peer sends what it sends and closes the connection: then `getPacket` returns a packet
made of received characters exactly when a newline is received or `select` fails before
the end of the file and before any read error. The outcomes `os` are those that come to this
call: what an earlier call has taken is not among them. -/
theorem getPacket_returns_iff (os : List Outcome) (s : Net F) :
    (∃ n packet t, getPacket.run (s.online (os.flatMap Outcome.answers ++ eofs n)) = .ok packet t ∧
      packet.chars.Sublist (received os)) ↔
    .byte '\n' ∈ beforeReadError os ∨ Fails s.sock.mWaitTime (beforeReadError os) := by
  rw [← call_returns_iff]
  have run := fun n =>
    getPacket_run os (eofs n) (s.online (os.flatMap Outcome.answers ++ eofs n)) rfl rfl
  have described := call_describes s.sock.mWaitTime os
  change ∀ n, match call s.sock.mWaitTime os with
    | .line _ _ => _
    | .failed _ _ => _
    | .exited => _
    | .waiting _ _ => _ at run
  cases ended : call s.sock.mWaitTime os with
  | line text rest =>
    rw [ended] at run described
    obtain ⟨body, -, -, -, all, -⟩ := described
    refine ⟨fun _ => trivial, fun _ => ⟨0, _, _, run 0, ?_⟩⟩
    rw [all]
    exact ((List.take_sublist _ _).trans List.filter_sublist).trans (List.sublist_append_left _ _)
  | failed mWaitTime rest =>
    rw [ended] at run
    exact ⟨fun _ => trivial, fun _ => ⟨0, _, _, run 0, List.nil_sublist _⟩⟩
  | exited =>
    rw [ended] at run
    refine ⟨fun ⟨n, packet, t, returned, _⟩ => ?_, False.elim⟩
    obtain ⟨u, exited⟩ := run n
    rw [exited] at returned
    cases returned
  | waiting text mWaitTime =>
    refine ⟨fun ⟨n, packet, t, returned, _⟩ => ?_, False.elim⟩
    obtain ⟨e, u, stopped⟩ := getPacket_eofs
      (s := s.online (os.flatMap Outcome.answers ++ eofs n)) rfl rfl ended
    rw [stopped] at returned
    cases returned

/-- After `'A'` and the end of the file the call goes on for ever, and at the end of the file
alone it reads a character that was never written. -/
theorem getPacket_closed :
    (∀ n, ∃ t, getPacket.run
      (sampleNet.online ([Outcome.byte 'A'].flatMap Outcome.answers ++ eofs n)) = .error .pending t) ∧
    ∃ t, getPacket.run (sampleNet.online (eofs 1)) = .error .undefined t := by
  refine ⟨fun n => ?_, _, rfl⟩
  have run := getPacket_run [.byte 'A'] (eofs n)
    (sampleNet.online ([Outcome.byte 'A'].flatMap Outcome.answers ++ eofs n)) rfl rfl
  have enough : n < ([Outcome.byte 'A'].flatMap Outcome.answers ++ eofs n).length + 1 - 1 := by
    have eofs := le_length_eofs n
    rw [List.length_append]
    show n < 2 + _ + 1 - 1
    omega
  obtain ⟨e, t, stopped, pending⟩ := loop_eofs n _ ['A'] (some 'A') (by decide)
    ⟨(sampleNet.sock.withType .SockConnect).waited 0, eofs n, []⟩ rfl rfl enough
  obtain rfl := pending rfl
  exact ⟨t, run .pending t stopped⟩

/-- On a connection without a failure that the peer closes, there are as many calls that return as
there are lines, and the next one does not. -/
theorem nextPackets_closed (os : List Outcome) (noRead : .readError ∉ os) (n : Nat) (s : Net F)
    (connected : s.sock.socketType = .SockConnect)
    (next : s.script = os.flatMap Outcome.answers ++ eofs n) (go : ¬ Fails s.sock.mWaitTime os)
    (k : Nat) :
    (∃ packets t, (nextPackets k).run s = .ok packets t) ↔ k ≤ (lines (received os)).length := by
  induction k generalizing os s with
  | zero => exact iff_of_true ⟨[], s, rfl⟩ (Nat.zero_le _)
  | succ k ih =>
    have described := call_describes s.sock.mWaitTime os
    have run := getPacket_run os (eofs n) s connected next
    cases ended : call s.sock.mWaitTime os with
    | line text rest =>
      rw [ended] at described run
      obtain ⟨body, form, whole, -, all, fails, suffix, -⟩ := described
      have split : lines (received os) = text :: lines (received rest) := by
        rw [all, form, List.append_assoc]
        exact lines_cons whole _
      rw [nextPackets_returns run, split, List.length_cons, Nat.add_le_add_iff_right]
      exact ih rest (fun mem => noRead (suffix.subset mem)) _ connected rfl (mt fails.mpr go)
    | failed mWaitTime rest =>
      rw [ended] at described
      exact absurd described.2 go
    | exited =>
      rw [ended] at described
      exact absurd described noRead
    | waiting text mWaitTime =>
      rw [ended] at described
      obtain ⟨form, whole, -⟩ := described
      obtain ⟨e, u, stopped⟩ := getPacket_eofs connected next ended
      have all : beforeFailure s.sock.mWaitTime os = os := not_not.mp go
      rw [all] at form
      rw [lines_eq_nil (form ▸ whole), List.length_nil]
      refine iff_of_false ?_ (Nat.not_succ_le_zero k)
      rintro ⟨packets, t, returned⟩
      rw [nextPackets_stop stopped] at returned
      cases returned

end AprsWx
