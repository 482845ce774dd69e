import AprsWx.Session

/-!
# When the packets were read

The daemon asks the clock after it has read a packet. In the answers that a run takes, the reading
comes right after those of the call that has read the packet.

* `getPacket_readFrom`: the answers that a call takes, and the packet that they spell.
* `Timed`: packets, each with the reading of the clock after it.
-/

namespace AprsWx

open Prog

variable {F : Type}

/-! ## Packets in the answers -/

/-- The characters that `getPacket` puts into `buf[0]`: at the end of the file the one that is there
once more. -/
def spelled : Option Char → List Ext → List Char
  | _, [] => []
  | _, .read (.byte c) :: es => c :: spelled (some c) es
  | buf, .read .eof :: es => buf.toList ++ spelled buf es
  | buf, _ :: es => spelled buf es

/-- A wait or a character. -/
def Ext.IsRead : Ext → Prop
  | .select _ => True
  | .read _ => True
  | _ => False

/-- The packet is what the answers to a call of `getPacket` spell. -/
structure ReadFrom (packet : StdString) (es : List Ext) : Prop where
  reads : ∀ e ∈ es, e.IsRead
  spelled : packet = StdString.ofChars ((spelled none es).filter (· ≠ '\r'))

section Answers

variable {s : Net F}

theorem select_spells (maxWait : Nat) (s : Net F) :
    Ends (select maxWait) s (fun _ t => ∃ r, s.script = .select r :: t.script) (fun _ _ => True) := by
  unfold select
  rw [ends_bind, ends_getSock]
  split
  · trivial
  · rw [ends_bind]
    refine ends_answer_of (fun e r script more asked => ?_) trivial
    have next : s.script = .select r :: script := by
      cases e with
      | select r' =>
        obtain rfl := Option.some.inj asked
        exact more
      | _ => cases asked
    split
    · exact ⟨r, next⟩
    · exact ⟨r, next⟩

theorem readChar_spells (buf : Option Char) (s : Net F) :
    Ends (readChar buf) s (fun c t => ∃ r, s.script = .read r :: t.script ∧
      ∀ es, spelled buf (.read r :: es) = c :: spelled (some c) es) (fun _ _ => True) := by
  unfold readChar
  rw [ends_bind]
  refine ends_answer_of (fun e r script more asked => ?_) trivial
  obtain rfl : e = .read r := by
    cases e with
    | read r' =>
      obtain rfl := Option.some.inj asked
      rfl
    | _ => cases asked
  cases r with
  | error => trivial
  | byte c => exact ⟨_, more, fun es => rfl⟩
  | eof =>
    cases buf with
    | none => trivial
    | some c => exact ⟨_, more, fun es => rfl⟩

theorem appendChar_filter (stringBuf : List Char) (c : Char) (cs : List Char) :
    appendChar stringBuf c ++ cs.filter (· ≠ '\r') = stringBuf ++ (c :: cs).filter (· ≠ '\r') := by
  unfold appendChar
  by_cases other : c ≠ '\r'
  · rw [if_pos other, List.filter_cons_of_pos (by simpa using other), List.append_assoc]
    rfl
  · rw [if_neg other, List.filter_cons_of_neg (by simpa using other)]

/-- The loop takes the answers of its turns, and the packet is what they spell, or nothing. -/
theorem getPacketLoop_spells (fuel : Nat) (stringBuf : List Char) (buf : Option Char) (s : Net F) :
    Ends (getPacketLoop fuel stringBuf buf) s
      (fun _ t => ∃ es, s.script = es ++ t.script ∧ (∀ e ∈ es, e.IsRead) ∧
        (t.sock.mPacket = StdString.empty ∨
          t.sock.mPacket = StdString.ofChars (stringBuf ++ (spelled buf es).filter (· ≠ '\r'))))
      (fun _ _ => True) := by
  induction fuel generalizing stringBuf buf s with
  | zero => trivial
  | succ fuel ih =>
    unfold getPacketLoop
    rw [ends_bind]
    refine (select_spells 60 s).mono ?_ fun _ _ _ => trivial
    rintro n t ⟨r, waited⟩
    split
    · rw [ends_bind, ends_modifySock, ends_bind]
      refine (readChar_spells buf _).mono ?_ fun _ _ _ => trivial
      rintro c u ⟨a, read, spells⟩
      have taken : s.script = [.select r, .read a] ++ u.script := by
        rw [waited]
        exact congrArg (_ :: ·) read
      have reads : ∀ e ∈ [Ext.select r, .read a], e.IsRead := by
        simp [Ext.IsRead]
      split
      · refine ⟨_, taken, reads, .inr ?_⟩
        have one : spelled buf [.select r, .read a] = [c] := spells []
        rw [one, ← appendChar_filter, List.filter_nil, List.append_nil]
        rfl
      · refine (ih _ _ u).mono ?_ fun _ _ _ => trivial
        rintro - v ⟨es, more, others, packet⟩
        refine ⟨[.select r, .read a] ++ es, by rw [taken, more, List.append_assoc],
          List.forall_mem_append.mpr ⟨reads, others⟩, packet.imp id fun packet => ?_⟩
        have all : spelled buf ([.select r, .read a] ++ es) = c :: spelled (some c) es := spells es
        rw [packet, all, ← appendChar_filter]
    · split
      · exact ⟨[.select r], waited, by simp [Ext.IsRead], .inl rfl⟩
      · refine (ih _ _ t).mono ?_ fun _ _ _ => trivial
        rintro - v ⟨es, more, others, packet⟩
        exact ⟨.select r :: es, by rw [waited, more]; rfl,
          List.forall_mem_cons.mpr ⟨trivial, others⟩, packet⟩

end Answers

/-- A call takes the answers that spell its packet, if it has one. -/
theorem getPacket_readFrom (s : Net F) :
    Ends getPacket s
      (fun packet t => ∃ es, s.script = es ++ t.script ∧
        (packet = StdString.empty ∨ ReadFrom packet es))
      (fun _ _ => True) := by
  unfold getPacket
  rw [ends_bind, ends_get, ends_bind]
  refine (getPacketLoop_spells _ [] none s).mono ?_ fun _ _ _ => trivial
  rintro - t ⟨es, taken, reads, packet⟩
  rw [ends_bind, ends_getSock, ends_bind, ends_logSys, ends_pure]
  exact ⟨es, taken, packet.imp id fun packet => ⟨reads, packet⟩⟩

/-! ## Packets with their times -/

/-- Some of the packets in the answers, in their order, each with the reading of the clock that comes
right after it. -/
def Timed : List Ext → List StdString → List Int → Prop
  | _, [], [] => True
  | script, packet :: packets, now :: times => ∃ skipped es rest,
    script = skipped ++ (es ++ .now now :: rest) ∧ ReadFrom packet es ∧ Timed rest packets times
  | _, _, _ => False

section Timed

variable {script es : List Ext} {packets packets' : List StdString} {times times' : List Int}
  {packet : StdString} {now : Int}

theorem Timed.append (timed : Timed script packets times) (more : List Ext) :
    Timed (script ++ more) packets times := by
  induction packets generalizing script times with
  | nil =>
    cases times with
    | nil => trivial
    | cons now times => exact timed.elim
  | cons packet packets ih =>
    cases times with
    | nil => exact timed.elim
    | cons now times =>
      obtain ⟨skipped, es, rest, rfl, read, others⟩ := timed
      exact ⟨skipped, es, rest ++ more, by simp, read, ih others⟩

theorem Timed.concat (timed : Timed script packets times) (read : ReadFrom packet es) :
    Timed (script ++ (es ++ [.now now])) (packets ++ [packet]) (times ++ [now]) := by
  induction packets generalizing script times with
  | nil =>
    cases times with
    | nil => exact ⟨script, es, [], rfl, read, trivial⟩
    | cons now times => exact timed.elim
  | cons packet packets ih =>
    cases times with
    | nil => exact timed.elim
    | cons now times =>
      obtain ⟨skipped, es, rest, rfl, read, others⟩ := timed
      exact ⟨skipped, es, _, by simp, read, ih others⟩

/-- The first ones of them. -/
theorem Timed.take (timed : Timed script packets (times ++ times')) :
    Timed script (packets.take times.length) times := by
  induction times generalizing script packets with
  | nil => trivial
  | cons now times ih =>
    cases packets with
    | nil => exact timed.elim
    | cons packet packets =>
      obtain ⟨skipped, es, rest, rfl, read, others⟩ := timed
      exact ⟨skipped, es, rest, rfl, read, ih others⟩

end Timed

end AprsWx
