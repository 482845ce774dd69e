import AprsWx.Lib.Trace
import AprsWx.Net

/-!
# What the connection functions do

For each function of the connection, what it adds to the log and what it changes in the
object, however it ends.

* `getPacket_ends`, `connect_ends`: the packets and the attempts to connect.
* `descriptors`: the descriptor that a log leaves open.
* `tryPrefs_eq`: the loop over the addresses in the loop over the preferences is one loop over the
  attempts.
-/

namespace AprsWx

open Prog Trace

variable {F : Type}

/-! ## Calls -/

/-- What holds after every answer that the script may have holds after a call, if it holds where
there is none. -/
theorem ends_answer_or {α : Type} {f : Ext → Option α} {s : Net F} {Q : α → Net F → Prop}
    {E : Stop → Net F → Prop}
    (next : ∀ e a script, s.script = e :: script → f e = some a → Q a { s with script := script })
    (pending : (∀ e script, s.script = e :: script → f e = none) → E .pending s) :
    Ends (answer f) s Q E := by
  unfold answer
  rw [ends_bind, ends_get]
  split
  · next none =>
    refine pending fun e script more => ?_
    rw [none] at more
    cases more
  · next e script more =>
    split
    · next a answered => exact next e a script more answered
    · next refused =>
      refine pending fun e' script' more' => ?_
      rw [more] at more'
      cases more'
      exact refused

theorem ends_answer_of {α : Type} {f : Ext → Option α} {s : Net F} {Q : α → Net F → Prop}
    {E : Stop → Net F → Prop}
    (next : ∀ e a script, s.script = e :: script → f e = some a → Q a { s with script := script })
    (pending : E .pending s) : Ends (answer f) s Q E :=
  ends_answer_or next fun _ => pending

theorem ends_answer {α : Type} {f : Ext → Option α} {s : Net F} {Q : α → Net F → Prop}
    {E : Stop → Net F → Prop} (next : ∀ a script, Q a { s with script := script })
    (pending : E .pending s) : Ends (answer f) s Q E :=
  ends_answer_of (fun _ a script _ _ => next a script) pending

@[simp] theorem ends_logSys {e : Sys} {s : Net F} {Q : PUnit → Net F → Prop}
    {E : Stop → Net F → Prop} :
    Ends (logSys e) s Q E ↔ Q ⟨⟩ { s with log := s.log ++ [e] } := Iff.rfl

@[simp] theorem ends_modifySock {f : AprsIs F → AprsIs F} {s : Net F} {Q : PUnit → Net F → Prop}
    {E : Stop → Net F → Prop} :
    Ends (modifySock f) s Q E ↔ Q ⟨⟩ { s with sock := f s.sock } := Iff.rfl

@[simp] theorem ends_getSock {s : Net F} {Q : AprsIs F → Net F → Prop} {E : Stop → Net F → Prop} :
    Ends getSock s Q E ↔ Q s.sock s := Iff.rfl

/-! ## Reading -/

/-- What `getPacket` may change in the object: the packet, the cursors and the counter of
timeouts. -/
def AprsIs.Reads (a b : AprsIs F) : Prop :=
  ∃ mPacket p0 p1 mWaitTime,
    b = { a with mPacket := mPacket, p0 := p0, p1 := p1, mWaitTime := mWaitTime }

theorem AprsIs.Reads.refl (a : AprsIs F) : a.Reads a := ⟨_, _, _, _, rfl⟩

theorem AprsIs.Reads.trans {a b c : AprsIs F} (ab : a.Reads b) (bc : b.Reads c) : a.Reads c := by
  obtain ⟨_, _, _, _, rfl⟩ := ab
  obtain ⟨p, n, k, w, rfl⟩ := bc
  exact ⟨p, n, k, w, rfl⟩

instance : Std.Refl (AprsIs.Reads (F := F)) := ⟨AprsIs.Reads.refl⟩

instance : IsTrans (AprsIs F) AprsIs.Reads := ⟨fun _ _ _ => AprsIs.Reads.trans⟩

/-- The log is as it was, and the object but for what `getPacket` may change; answers may have
been used. -/
structure Net.Reads (s t : Net F) : Prop where
  log : t.log = s.log
  sock : s.sock.Reads t.sock
  script : t.script <:+ s.script

instance : Std.Refl (Net.Reads (F := F)) := ⟨fun s => ⟨rfl, .refl s.sock, List.suffix_refl _⟩⟩

instance : IsTrans (Net F) Net.Reads :=
  ⟨fun _ _ _ st tu => ⟨tu.log.trans st.log, st.sock.trans tu.sock, tu.script.trans st.script⟩⟩

/-- A moving program stops with no optional of the aggregator. -/
abbrev Moving {σ α : Type} (R : σ → σ → Prop) (x : EStateM Stop σ α) : Prop :=
  Moves R Stop.Elsewhere x

theorem elsewhere_pending : Stop.Elsewhere .pending := ⟨nofun, nofun⟩

theorem answer_reads {α : Type} (f : Ext → Option α) : Moving (Net.Reads (F := F)) (answer f) := by
  intro s
  refine ends_answer_of (fun e a script more _ => ?_) ⟨Std.Refl.refl s, elsewhere_pending⟩
  exact ⟨rfl, .refl s.sock, by rw [more]; exact List.suffix_cons e script⟩

theorem modifySock_reads {f : AprsIs F → AprsIs F} (reads : ∀ sock : AprsIs F, sock.Reads (f sock)) :
    Moving Net.Reads (modifySock f) := fun s => ⟨rfl, reads s.sock, List.suffix_refl _⟩

theorem getSock_reads : Moving (Net.Reads (F := F)) getSock :=
  fun s => Std.Refl.refl (r := Net.Reads) s

theorem select_reads (maxWait : Nat) : Moving (Net.Reads (F := F)) (select maxWait) := by
  unfold select
  refine .bind getSock_reads fun sock => .ite (.throw ⟨nofun, nofun⟩) ?_
  refine .bind (answer_reads _) fun r => ?_
  refine .ite (.bind ?_ fun _ => .bind getSock_reads fun _ => .pure) .pure
  exact modifySock_reads fun sock => ⟨_, _, _, _, rfl⟩

theorem readChar_reads (buf : Option Char) : Moving (Net.Reads (F := F)) (readChar buf) := by
  unfold readChar
  refine .bind (answer_reads _) fun r => ?_
  cases r with
  | error => exact .throw ⟨nofun, nofun⟩
  | byte c => exact .pure
  | eof =>
    cases buf with
    | none => exact .throw ⟨nofun, nofun⟩
    | some c => exact .pure

theorem getPacketLoop_reads (fuel : Nat) (stringBuf : List Char) (buf : Option Char) :
    Moving (Net.Reads (F := F)) (getPacketLoop fuel stringBuf buf) := by
  induction fuel generalizing stringBuf buf with
  | zero => exact .throw ⟨nofun, nofun⟩
  | succ fuel ih =>
    unfold getPacketLoop
    refine .bind (select_reads 60) fun n => .ite ?_ (.ite ?_ (ih _ _))
    · refine .bind (modifySock_reads fun sock => ⟨_, _, _, _, rfl⟩) fun _ => ?_
      refine .bind (readChar_reads buf) fun c => .ite ?_ (ih _ _)
      exact modifySock_reads fun sock => ⟨_, _, _, _, rfl⟩
    · exact modifySock_reads fun sock => ⟨_, _, _, _, rfl⟩

/-- The loop leaves no packet, or a packet with the cursors reset. -/
theorem getPacketLoop_received (fuel : Nat) (stringBuf : List Char) (buf : Option Char) (s : Net F) :
    Ends (getPacketLoop fuel stringBuf buf) s
      (fun _ t => t.sock.mPacket = StdString.empty ∨ ∃ u p, t.sock = AprsIs.received u p)
      (fun _ _ => True) := by
  induction fuel generalizing stringBuf buf s with
  | zero => trivial
  | succ fuel ih =>
    unfold getPacketLoop
    rw [ends_bind]
    refine .of_forall (fun n t => ?_) (fun _ _ => trivial)
    split
    · rw [ends_bind, ends_modifySock, ends_bind]
      refine .of_forall (fun c u => ?_) (fun _ _ => trivial)
      split
      · exact .inr ⟨_, _, rfl⟩
      · exact ih _ _ u
    · split
      · exact .inl rfl
      · exact ih _ _ t

/-- A call of `getPacket` adds the packet to the log. -/
theorem getPacket_ends (s : Net F) :
    Ends getPacket s
      (fun p t => t.log = s.log ++ [.packet s.sock.sockFd p] ∧ s.sock.Reads t.sock ∧
        t.script <:+ s.script ∧ t.sock.mPacket = p ∧
        (p = StdString.empty ∨ ∃ u, t.sock = AprsIs.received u p))
      (fun e t => s.Reads t ∧ e.Elsewhere) := by
  unfold getPacket
  rw [ends_bind, ends_get, ends_bind]
  refine ((getPacketLoop_reads _ _ _ s).and (getPacketLoop_received _ _ _ s)).mono ?_
    (fun _ _ reads => reads.1)
  rintro - t ⟨⟨log, ⟨p, n, k, w, sock⟩, script⟩, received⟩
  rw [ends_bind, ends_getSock, ends_bind, ends_logSys, ends_pure]
  refine ⟨?_, ⟨p, n, k, w, sock⟩, script, rfl, ?_⟩
  · rw [log, sock]
  · rcases received with empty | ⟨u, p, framed⟩
    · exact .inl empty
    · refine .inr ⟨u, ?_⟩
      rw [framed]
      rfl

/-! ## Connecting -/

/-- An entry of an attempt to connect. -/
def Sys.IsAttempt : Sys → Prop
  | .socket _ => True
  | .bindConnect _ _ _ => True
  | .close _ => True
  | _ => False

/-- The opening or closing of a descriptor; `::close(-1)` closes nothing. -/
def Sys.op : Sys → Option (Op Nat)
  | .socket fd => if 0 ≤ fd then some (.acquire fd.toNat) else none
  | .close fd => if 0 ≤ fd then some (.release fd.toNat) else none
  | _ => none

/-- The descriptor open after a log, where `fd` is open before: none, if the log opens a second
one or closes one that is not open. -/
def descriptors (fd : Option Nat) (log : List Sys) : Option (Option Nat) :=
  after slot fd (log.filterMap Sys.op)

/-- The descriptor that `sock_fd` holds. -/
def held (sockFd : Int) : Option Nat := if 0 ≤ sockFd then some sockFd.toNat else none

theorem held_of_neg {fd : Int} (closed : fd < 0) : held fd = none := if_neg (by omega)

theorem descriptors_append {fd open_ : Option Nat} {l r : List Sys}
    (read : descriptors fd l = some open_) : descriptors fd (l ++ r) = descriptors open_ r := by
  unfold descriptors at read ⊢
  rw [List.filterMap_append, after_append, read, Option.bind_some]

theorem descriptors_socket (fd : Int) : descriptors none [.socket fd] = some (held fd) := by
  unfold descriptors held
  by_cases valid : 0 ≤ fd
  · simp [Sys.op, valid, after, slot]
  · simp [Sys.op, valid, after]

theorem descriptors_close (fd : Int) : descriptors (held fd) [.close fd] = some none := by
  unfold descriptors held
  by_cases valid : 0 ≤ fd
  · simp [Sys.op, valid, after, slot]
  · simp [Sys.op, valid, after]

/-- The other calls open and close nothing. -/
theorem descriptors_other {fd : Option Nat} {e : Sys} (other : e.op = none) :
    descriptors fd [e] = some fd := by
  unfold descriptors
  rw [List.filterMap_cons_none other]
  rfl

/-- From a state without an open descriptor, attempts to connect lead to a state with at most
one, which `sock_fd` holds. -/
structure Attempts (s t : Net F) : Prop where
  log : ∃ l, t.log = s.log ++ l ∧ (∀ e ∈ l, e.IsAttempt) ∧
    descriptors none l = some (held t.sock.sockFd)
  sock : ∃ socket, t.sock = { s.sock with toLocalSocket := socket }

theorem Attempts.of_log {s t : Net F} (log : t.log = s.log) (closed : t.sock.sockFd < 0)
    (sock : ∃ socket, t.sock = { s.sock with toLocalSocket := socket }) : Attempts s t :=
  ⟨⟨[], by rw [log, List.append_nil], by simp, by rw [held_of_neg closed]; rfl⟩, sock⟩

theorem Attempts.refl {s : Net F} (closed : s.sock.sockFd < 0) : Attempts s s :=
  .of_log rfl closed ⟨_, rfl⟩

theorem Attempts.trans {s t u : Net F} (st : Attempts s t) (closed : t.sock.sockFd < 0)
    (tu : Attempts t u) : Attempts s u := by
  obtain ⟨⟨l, log, attempts, fds⟩, socket, sock⟩ := st
  obtain ⟨⟨l', log', attempts', fds'⟩, socket', sock'⟩ := tu
  rw [held_of_neg closed] at fds
  refine ⟨⟨l ++ l', by rw [log', log, List.append_assoc], ?_, ?_⟩, socket', ?_⟩
  · intro e mem
    rcases List.mem_append.mp mem with mem | mem
    · exact attempts e mem
    · exact attempts' e mem
  · rw [descriptors_append fds, fds']
  · rw [sock', sock]

theorem ends_sysSocket {s : Net F} {Q : Int → Net F → Prop} {E : Stop → Net F → Prop}
    (next : ∀ fd script, Q fd { s with script := script, log := s.log ++ [.socket fd] })
    (pending : E .pending s) : Ends sysSocket s Q E := by
  unfold sysSocket
  rw [ends_bind]
  refine ends_answer (fun fd script => ?_) pending
  rw [ends_bind, ends_logSys, ends_pure]
  exact next _ script

theorem ends_sysBindConnect {fd : Int} {peer : AddrInfo} {s : Net F} {Q : Bool → Net F → Prop}
    {E : Stop → Net F → Prop}
    (next : ∀ success script, (success = true → 0 ≤ fd) →
      Q success { s with script := script, log := s.log ++ [.bindConnect fd peer success] })
    (pending : E .pending s) : Ends (sysBindConnect fd peer) s Q E := by
  unfold sysBindConnect
  by_cases invalid : fd < 0
  · simp only [if_pos invalid, ends_bind, ends_pure, ends_logSys]
    exact next false s.script fun success => Bool.noConfusion success
  · simp only [if_neg invalid, ends_bind]
    refine ends_answer (fun success script => ?_) pending
    rw [ends_logSys, ends_pure]
    exact next success script fun _ => Int.not_lt.mp invalid

/-- A program that starts where attempts have failed adds its own. -/
theorem Attempts.andThen {α : Type} {x : NetM F α} {s t : Net F} (tried : Attempts s t)
    (failed : t.sock.sockFd < 0)
    (rest : Ends x t (fun _ u => Attempts t u) (fun _ u => Attempts t u)) :
    Ends x t (fun _ u => Attempts s u) (fun _ u => Attempts s u) :=
  rest.mono (fun _ _ more => tried.trans failed more) (fun _ _ more => tried.trans failed more)

/-! ## One loop -/

/-- A preference is for one family, or for all. -/
def admits (pref : Nat) (peer : AddrInfo) : Bool := pref = afUnspec ∨ pref = peer.aiFamily

/-- The addresses in the order in which they are tried, preference by preference. -/
def attempts (prefs : List Nat) (peers : List AddrInfo) : List AddrInfo :=
  prefs.flatMap fun pref => peers.filter (admits pref)

/-- An attempt on one address, and whether it succeeds. -/
def attempt (peer : AddrInfo) : NetM F Bool := do
  let fd ← sysSocket
  modifySock fun sock => sock.withFd fd
  if ← sysBindConnect fd peer then
    modifySock fun sock => sock.peered peer
    return true
  else
    sysClose fd
    modifySock fun sock => sock.withFd (-1)
    return false

/-- The attempts up to the first that succeeds. -/
def tryAll : List AddrInfo → NetM F PUnit
  | [] => pure ()
  | peer :: peers => do
    if !(← attempt peer) then tryAll peers

theorem tryPeers_eq (pref : Nat) (peers : List AddrInfo) :
    (tryPeers pref peers : NetM F PUnit) = tryAll (peers.filter (admits pref)) := by
  induction peers with
  | nil => rfl
  | cons peer peers ih =>
    unfold tryPeers
    by_cases admitted : pref = afUnspec ∨ pref = peer.aiFamily
    · have kept : admits pref peer = true := decide_eq_true admitted
      rw [if_pos admitted, List.filter_cons_of_pos kept, ih, tryAll]
      simp only [attempt, bind_assoc]
      refine congrArg _ (funext fun fd => congrArg _ (funext fun _ => congrArg _ (funext fun success => ?_)))
      cases success <;> rfl
    · have other : ¬ admits pref peer = true := mt of_decide_eq_true admitted
      rw [if_neg admitted, List.filter_cons_of_neg other, ih]

/-- An attempt opens a descriptor, and closes it where it fails. -/
theorem attempt_ends (peer : AddrInfo) (s : Net F) (closed : s.sock.sockFd < 0) :
    Ends (attempt peer) s
      (fun success t => Attempts s t ∧ (t.sock.sockFd < 0 ↔ success = false))
      (fun _ t => Attempts s t) := by
  unfold attempt
  rw [ends_bind]
  refine ends_sysSocket (fun fd script => ?_) (.refl closed)
  rw [ends_bind, ends_modifySock, ends_bind]
  refine ends_sysBindConnect (fun success script' valid => ?_) ?_
  · cases success with
    | true =>
      refine ⟨⟨⟨[.socket fd, .bindConnect fd peer true], by simp, ?_, ?_⟩, _, rfl⟩, ?_⟩
      · simp [Sys.IsAttempt]
      · exact (descriptors_append (descriptors_socket fd)).trans (descriptors_other rfl)
      · exact iff_of_false (Int.not_lt.mpr (valid rfl)) Bool.noConfusion
    | false =>
      simp only [Bool.false_eq_true, if_false, ends_bind, sysClose, ends_logSys, ends_modifySock]
      have fds : descriptors none [.socket fd, .bindConnect fd peer false, .close fd] = some none :=
        (descriptors_append (descriptors_socket fd)).trans
          ((descriptors_append (descriptors_other rfl)).trans (descriptors_close fd))
      refine ⟨⟨⟨[.socket fd, .bindConnect fd peer false, .close fd], by simp, ?_, fds⟩, _, rfl⟩, ?_⟩
      · simp [Sys.IsAttempt]
      · exact iff_of_true (by decide : (-1 : Int) < 0) rfl
  · exact ⟨⟨[.socket fd], rfl, by simp [Sys.IsAttempt], descriptors_socket fd⟩, _, rfl⟩

theorem tryAll_ends (peers : List AddrInfo) (s : Net F) (closed : s.sock.sockFd < 0) :
    Ends (tryAll peers) s (fun _ t => Attempts s t) (fun _ t => Attempts s t) := by
  induction peers generalizing s with
  | nil => exact .refl closed
  | cons peer peers ih =>
    unfold tryAll
    refine (attempt_ends peer s closed).bind ?_
    rintro success t ⟨tried, failed⟩
    cases success with
    | true => exact tried
    | false =>
      -- the attempt has closed its descriptor, so the next one overwrites nothing
      have closed := failed.mpr rfl
      exact tried.andThen closed (ih t closed)

/-- The loop over two lists goes on with the second where the first has left no descriptor. -/
theorem tryAll_append (peers peers' : List AddrInfo) {s : Net F} (closed : s.sock.sockFd < 0) :
    (tryAll (peers ++ peers')).run s =
      (do
        tryAll peers
        let sock ← getSock
        if sock.sockFd < 0 then tryAll peers' : NetM F PUnit).run s := by
  induction peers generalizing s with
  | nil =>
    show _ = (if s.sock.sockFd < 0 then tryAll peers' else pure ()).run s
    rw [if_pos closed]
    rfl
  | cons peer peers ih =>
    rw [List.cons_append, tryAll, tryAll, bind_assoc, EStateM.run_bind, EStateM.run_bind]
    have left := attempt_ends peer s closed
    unfold Ends at left
    cases run : (attempt peer).run s with
    | error e t => rfl
    | ok success t =>
      rw [run] at left
      cases success with
      | false => exact ih (left.2.mpr rfl)
      | true =>
        have opened : ¬ t.sock.sockFd < 0 := fun none => Bool.noConfusion (left.2.mp none)
        show _ = (if t.sock.sockFd < 0 then tryAll peers' else pure ()).run t
        rw [if_neg opened]
        rfl

/-- The nested loops are one loop over the attempts. -/
theorem tryPrefs_eq (peers : List AddrInfo) (prefs : List Nat) {s : Net F}
    (closed : s.sock.sockFd < 0) :
    (tryPrefs peers prefs).run s = (tryAll (attempts prefs peers)).run s := by
  induction prefs generalizing s with
  | nil => rfl
  | cons pref prefs ih =>
    have split : attempts (pref :: prefs) peers =
        peers.filter (admits pref) ++ attempts prefs peers := List.flatMap_cons
    rw [split, tryAll_append _ _ closed, tryPrefs, tryPeers_eq]
    simp only [EStateM.run_bind]
    cases (tryAll (peers.filter (admits pref))).run s with
    | error e t => rfl
    | ok _ t =>
      show (if t.sock.sockFd < 0 then tryPrefs peers prefs else pure ()).run t =
        (if t.sock.sockFd < 0 then tryAll (attempts prefs peers) else pure ()).run t
      split
      · next failed => exact ih failed
      · rfl

/-! ## The connection -/

theorem findPeerInfo_ends (prefs : List Nat) (s : Net F) (closed : s.sock.sockFd < 0) :
    Ends (findPeerInfo prefs) s (fun _ t => Attempts s t) (fun _ t => Attempts s t) := by
  unfold findPeerInfo
  rw [ends_bind]
  refine ends_answer (fun r script => ?_) (.refl closed)
  cases r with
  | none => exact .of_log rfl closed ⟨_, rfl⟩
  | some peers =>
    rw [ends_bind, ends_modifySock]
    have closed : (-1 : Int) < 0 := by decide
    have start : Attempts s ⟨(s.sock.withFd (-1)).withType .SockUnknown, script, s.log⟩ :=
      .of_log rfl closed ⟨_, rfl⟩
    refine start.andThen closed ?_
    unfold Ends
    rw [tryPrefs_eq peers prefs closed]
    exact tryAll_ends _ _ closed

/-- `connect` returns the descriptor that its attempts have left open. -/
theorem connect_ends (prefs : List Nat) (s : Net F) (closed : s.sock.sockFd < 0) :
    Ends (connect prefs) s
      (fun fd t => ∃ u, Attempts s u ∧ t.log = u.log ++ [.connection fd] ∧
        t.sock = u.sock.withType .SockConnect ∧ u.sock.sockFd = fd)
      (fun _ t => Attempts s t) := by
  unfold connect
  refine (findPeerInfo_ends prefs s closed).bind fun _ u tried => ?_
  rw [ends_bind, ends_modifySock, ends_bind, ends_getSock, ends_bind, ends_logSys, ends_pure]
  exact ⟨u, tried, rfl, rfl, rfl⟩

/-- `close` closes the descriptor that the object holds. -/
theorem close_run (s : Net F) : close.run s = .ok ⟨⟩
    (if 0 ≤ s.sock.sockFd then
      { s with sock := s.sock.withFd (-1), log := s.log ++ [.close s.sock.sockFd] }
    else s) := by
  unfold close
  simp only [getSock, EStateM.run_bind, EStateM.run_get, EStateM.run_pure]
  split <;> rfl

end AprsWx
