import AprsWx.Session

/-!
# Logging in

`openConnection` goes from server to server until one identifies itself with a version that
it does not reject, and sends its login line to this one only.

* `Phase`: where a session stands, as a monitor of the log.
* `openConnection_session`: what the monitor says of the log of every run.
-/

namespace AprsWx

open Prog Trace

variable {F : Type}

/-! ## The session as a monitor -/

/-- An identification packet of a server that is rejected. -/
def Rejected (mPacket : StdString) : Prop :=
  mPacket.startsWith "# javAPRSSrvr 4.3.0b22".toList ∨
    mPacket.startsWith "# javAPRSSrvr 4.3.0b17".toList ∨
    mPacket.startsWith "# javAPRSSrvr 4.2.0b09".toList

instance (mPacket : StdString) : Decidable (Rejected mPacket) :=
  inferInstanceAs (Decidable (_ ∨ _ ∨ _))

theorem rejects_iff (sock : AprsIs F) : sock.rejects = true ↔ Rejected sock.mPacket := by
  unfold AprsIs.rejects Rejected AprsIs.hasPrefix
  rw [Bool.or_eq_true, Bool.or_eq_true, or_assoc]

/-- A server is good when it is not rejected. -/
theorem judged_iff (sock : AprsIs F) : sock.judged.mGoodServer = true ↔ ¬ Rejected sock.mPacket := by
  rw [← rejects_iff]
  show (!sock.rejects) = true ↔ _
  rw [Bool.not_eq_true']
  exact Bool.eq_false_iff

/-- Where a session stands: attempts to connect, a connection, its identification packet, the
login, or no connection. -/
inductive Phase
  | connecting
  | connected (fd : Int)
  | identified (fd : Int) (mPacket : StdString)
  | loggedIn (fd : Int)
  | failed

/-- What may come next in the log of a session with the login line `login`. -/
def Phase.next (login : List Char) : Phase → Sys → Option Phase
  | .connecting, .socket _ => some .connecting
  | .connecting, .bindConnect _ _ _ => some .connecting
  | .connecting, .close _ => some .connecting
  | .connecting, .connection fd => some (if fd < 0 then .failed else .connected fd)
  | .connected fd, .packet fd' mPacket => if fd' = fd then some (.identified fd mPacket) else none
  | .identified fd mPacket, .close fd' =>
    if fd' = fd ∧ Rejected mPacket then some .connecting else none
  | .identified fd mPacket, .write fd' line =>
    if fd' = fd ∧ ¬ Rejected mPacket ∧ line = login then some (.loggedIn fd) else none
  | .loggedIn fd, .packet fd' _ => if fd' = fd then some (.loggedIn fd) else none
  | _, _ => none

/-- Where a session stands after a log. -/
def phase (login : List Char) (log : List Sys) : Option Phase :=
  after (Phase.next login) .connecting log

/-- A rejected server is not left connected. -/
def Phase.Settled : Phase → Prop
  | .identified _ mPacket => ¬ Rejected mPacket
  | _ => True

/-! ## The session of openConnection -/

section Session

variable {login : List Char} {s t : Net F}

theorem phase_attempts (tried : Attempts s t) (start : phase login s.log = some .connecting) :
    phase login t.log = some .connecting := by
  obtain ⟨l, log, attempts, -⟩ := tried.log
  unfold phase at start ⊢
  rw [log, after_append, start, Option.bind_some]
  refine after_of_stay fun e mem => ?_
  have attempt := attempts e mem
  cases e with
  | socket => rfl
  | bindConnect => rfl
  | close => rfl
  | connection => exact attempt.elim
  | packet => exact attempt.elim
  | write => exact attempt.elim

theorem phase_concat {p : Phase} {e : Sys} (log : t.log = s.log ++ [e])
    (start : phase login s.log = some p) : phase login t.log = p.next login e := by
  unfold phase at start ⊢
  rw [log, after_concat start]

/-- The loop over servers: in the phase `connecting` at its head, and with a server identified
and not rejected at its end. -/
theorem findServer_session (fuel : Nat) (s : Net F) (start : phase login s.log = some .connecting)
    (closed : s.sock.sockFd < 0) (fresh : s.sock.mGoodServer = false)
    (valid : s.sock.validate = login) :
    Ends (findServer fuel) s
      (fun good t =>
        if good then ∃ mPacket, phase login t.log = some (.identified t.sock.sockFd mPacket) ∧
          ¬ Rejected mPacket ∧ t.sock.validate = login
        else phase login t.log = some .failed)
      (fun _ t => ∃ p, phase login t.log = some p ∧ p.Settled) := by
  induction fuel generalizing s with
  | zero => exact ⟨.connecting, start, trivial⟩
  | succ fuel ih =>
    unfold findServer
    rw [ends_bind, ends_getSock, fresh]
    simp only [Bool.false_eq_true, if_false]
    rw [ends_bind]
    refine (connect_ends _ s closed).mono ?_ ?_
    · rintro fd t ⟨u, tried, log, sock, rfl⟩
      obtain ⟨socket, dialed⟩ := tried.sock
      have connected := phase_concat log (phase_attempts tried start)
      split
      · next failed =>
        rw [ends_pure]
        simpa [Phase.next, failed] using connected
      · next opened =>
        rw [Phase.next, if_neg opened] at connected
        rw [ends_bind]
        refine (getPacket_ends t).mono ?_ ?_
        · rintro mPacket v ⟨log', ⟨p, n, k, w, reads⟩, -, packet, -⟩
          have fd : t.sock.sockFd = u.sock.sockFd := by rw [sock]; rfl
          have identified := phase_concat log' connected
          rw [Phase.next, if_pos fd] at identified
          have same : v.sock.sockFd = u.sock.sockFd := by rw [reads, sock]; rfl
          have valid' : v.sock.validate = login := by rw [reads, sock, dialed]; exact valid
          have judged := judged_iff v.sock
          rw [packet] at judged
          rw [ends_bind, ends_modifySock, ends_bind, ends_getSock]
          cases good : v.sock.judged.mGoodServer with
          | false =>
            -- rejected: the connection is closed, and the loop starts again without one
            have version : Rejected mPacket := by
              rw [good] at judged
              exact not_not.mp (mt judged.mpr Bool.false_ne_true)
            have valid : 0 ≤ v.sock.judged.sockFd := by
              show 0 ≤ v.sock.sockFd
              omega
            simp only [Bool.not_false, if_true]
            rw [ends_bind, ends_of_ok (close_run _), if_pos valid]
            refine ih _ ?_ (show (-1 : Int) < 0 by decide) good valid'
            rw [phase_concat rfl identified, Phase.next, if_pos ⟨same, version⟩]
          | true =>
            -- accepted: the loop ends at its next test
            have version : ¬ Rejected mPacket := judged.mp good
            simp only [Bool.not_true, Bool.false_eq_true, if_false]
            cases fuel with
            | zero => exact ⟨_, identified, version⟩
            | succ fuel =>
              unfold findServer
              rw [ends_bind, ends_getSock, good, if_pos rfl, ends_pure, if_pos rfl]
              refine ⟨mPacket, ?_, version, valid'⟩
              rw [show v.sock.judged.sockFd = u.sock.sockFd from same]
              exact identified
        · rintro e v ⟨reads, -⟩
          exact ⟨.connected u.sock.sockFd, by rw [reads.log]; exact connected, trivial⟩
    · intro e t tried
      exact ⟨.connecting, phase_attempts tried start, trivial⟩

/-- The whole of `openConnection`: it has logged in where it returns true, and there is no
connection where it returns false. -/
theorem openConnection_session (s : Net F) (start : phase login s.log = some .connecting)
    (closed : s.sock.sockFd < 0) (fresh : s.sock.mGoodServer = false)
    (valid : s.sock.validate = login) :
    Ends openConnection s
      (fun opened t => phase login t.log = some (if opened then .loggedIn t.sock.sockFd else .failed))
      (fun _ t => ∃ p, phase login t.log = some p ∧ p.Settled) := by
  unfold openConnection
  rw [ends_bind, ends_get]
  refine (findServer_session _ s start closed fresh valid).bind fun good t found => ?_
  cases good with
  | false =>
    rw [if_neg (by decide)] at found ⊢
    exact found
  | true =>
    rw [if_pos rfl] at found ⊢
    obtain ⟨mPacket, identified, version, valid⟩ := found
    simp only [putLine, ends_bind, ends_getSock]
    refine ends_answer (fun n script => ?_) ⟨_, identified, version⟩
    rw [ends_logSys, ends_pure]
    have login : phase login (t.log ++ [.write t.sock.sockFd t.sock.validate]) =
        some (.loggedIn t.sock.sockFd) := by
      unfold phase at identified ⊢
      rw [after_concat identified, Phase.next, if_pos ⟨rfl, version, valid⟩]
    refine (getPacket_ends _).mono ?_ ?_
    · rintro mPacket u ⟨log, ⟨p, n, k, w, reads⟩, -⟩
      have fd : u.sock.sockFd = t.sock.sockFd := by rw [reads]
      rw [ends_pure, if_pos rfl, phase_concat log login, Phase.next, if_pos rfl, fd]
    · rintro e u ⟨reads, -⟩
      exact ⟨.loggedIn t.sock.sockFd, by rw [reads.log]; exact login, trivial⟩

end Session

/-! ## What the monitor says of a log -/

section Logs

variable {login : List Char} {q p : Phase} {e : Sys} {pre post log : List Sys} {fd : Int}
  {mPacket : StdString}

/-- What one entry can do, in each phase. -/
inductive Phase.Step (login : List Char) : Phase → Sys → Phase → Prop
  | attempt {e : Sys} (attempt : e.IsAttempt) : Step login .connecting e .connecting
  | failed {fd : Int} (invalid : fd < 0) : Step login .connecting (.connection fd) .failed
  | connected {fd : Int} (valid : ¬ fd < 0) : Step login .connecting (.connection fd) (.connected fd)
  | identified {fd : Int} {mPacket : StdString} :
    Step login (.connected fd) (.packet fd mPacket) (.identified fd mPacket)
  | rejected {fd : Int} {mPacket : StdString} (version : Rejected mPacket) :
    Step login (.identified fd mPacket) (.close fd) .connecting
  | login {fd : Int} {mPacket : StdString} (version : ¬ Rejected mPacket) :
    Step login (.identified fd mPacket) (.write fd login) (.loggedIn fd)
  | answer {fd : Int} {mPacket : StdString} :
    Step login (.loggedIn fd) (.packet fd mPacket) (.loggedIn fd)

theorem Phase.step_of_next (next : q.next login e = some p) : Phase.Step login q e p := by
  cases q with
  | connecting =>
    cases e with
    | socket => exact Option.some.inj next ▸ .attempt trivial
    | bindConnect => exact Option.some.inj next ▸ .attempt trivial
    | close => exact Option.some.inj next ▸ .attempt trivial
    | connection fd =>
      by_cases invalid : fd < 0
      · rw [Phase.next, if_pos invalid] at next
        exact Option.some.inj next ▸ .failed invalid
      · rw [Phase.next, if_neg invalid] at next
        exact Option.some.inj next ▸ .connected invalid
    | packet => cases next
    | write => cases next
  | connected fd =>
    cases e with
    | packet fd' mPacket =>
      obtain ⟨rfl, equal⟩ := Option.ite_none_right_eq_some.mp next
      exact Option.some.inj equal ▸ .identified
    | socket => cases next
    | bindConnect => cases next
    | close => cases next
    | connection => cases next
    | write => cases next
  | identified fd mPacket =>
    cases e with
    | close fd' =>
      obtain ⟨⟨rfl, version⟩, equal⟩ := Option.ite_none_right_eq_some.mp next
      exact Option.some.inj equal ▸ .rejected version
    | write fd' line =>
      obtain ⟨⟨rfl, version, rfl⟩, equal⟩ := Option.ite_none_right_eq_some.mp next
      exact Option.some.inj equal ▸ .login version
    | socket => cases next
    | bindConnect => cases next
    | connection => cases next
    | packet => cases next
  | loggedIn fd =>
    cases e with
    | packet fd' mPacket =>
      obtain ⟨rfl, equal⟩ := Option.ite_none_right_eq_some.mp next
      exact Option.some.inj equal ▸ .answer
    | socket => cases next
    | bindConnect => cases next
    | close => cases next
    | connection => cases next
    | write => cases next
  | failed => cases next

/-- The last entry of a log, and the phase before it. -/
theorem phase_last (read : phase login (pre ++ [e]) = some p) :
    ∃ q, phase login pre = some q ∧ Phase.Step login q e p := by
  obtain ⟨q, before, last⟩ := after_split read
  refine ⟨q, before, Phase.step_of_next ?_⟩
  rw [after_cons] at last
  obtain ⟨p', next, rest⟩ := Option.bind_eq_some_iff.mp last
  rw [next, Option.some.inj rest]

/-- An identification packet is the first entry after its connection. -/
theorem phase_identified (read : phase login log = some (.identified fd mPacket)) :
    ∃ pre, log = pre ++ [.connection fd, .packet fd mPacket] := by
  rcases List.eq_nil_or_concat' log with rfl | ⟨l, e, rfl⟩
  · cases read
  obtain ⟨q, before, step⟩ := phase_last read
  cases step
  rcases List.eq_nil_or_concat' l with rfl | ⟨l, e, rfl⟩
  · cases before
  obtain ⟨q, -, step⟩ := phase_last before
  cases step
  exact ⟨l, by simp⟩

/-- A login is in the log exactly in the last phase. -/
theorem phase_loggedIn_iff (read : phase login log = some p) :
    (∃ fd line, .write fd line ∈ log) ↔ ∃ fd, p = .loggedIn fd := by
  induction log using List.reverseRecOn generalizing p with
  | nil =>
    obtain rfl : Phase.connecting = p := Option.some.inj read
    simp
  | append_singleton log e ih =>
    obtain ⟨q, before, step⟩ := phase_last read
    have before := ih before
    simp only [List.mem_append, List.mem_singleton]
    cases step with
    | attempt attempt => cases e <;> first | exact attempt.elim | simpa using before
    | failed => simpa using before
    | connected => simpa using before
    | identified => simpa using before
    | rejected => simpa using before
    | login => exact ⟨fun _ => ⟨_, rfl⟩, fun _ => ⟨_, _, .inr rfl⟩⟩
    | answer => simpa using before

/-- The connection has failed exactly where a call of `connect` returned no descriptor. -/
theorem phase_failed_iff (read : phase login log = some p) :
    (∃ fd < 0, .connection fd ∈ log) ↔ p = .failed := by
  induction log using List.reverseRecOn generalizing p with
  | nil =>
    obtain rfl : Phase.connecting = p := Option.some.inj read
    simp
  | append_singleton log e ih =>
    obtain ⟨q, before, step⟩ := phase_last read
    have before := ih before
    simp only [List.mem_append, List.mem_singleton]
    cases step with
    | attempt attempt => cases e <;> first | exact attempt.elim | simpa using before
    | failed invalid => simpa using ⟨_, invalid, .inr rfl⟩
    | connected valid =>
      refine ⟨?_, nofun⟩
      rintro ⟨fd, invalid, mem | equal⟩
      · cases before.mp ⟨fd, invalid, mem⟩
      · cases equal
        exact absurd invalid valid
    | identified => simpa using before
    | rejected => simpa using before
    | login => simpa using before
    | answer => simpa using before

/-- Before a login the server was identified and not rejected. -/
theorem phase_write {line : List Char} (read : phase login (pre ++ .write fd line :: post) = some p) :
    ∃ mPacket, phase login pre = some (.identified fd mPacket) ∧ ¬ Rejected mPacket ∧
      line = login := by
  rw [List.append_cons] at read
  obtain ⟨m, first, -⟩ := after_split read
  obtain ⟨q, before, step⟩ := phase_last first
  cases step with
  | attempt attempt => exact attempt.elim
  | login version => exact ⟨_, before, version, rfl⟩

/-- There is one login at most. -/
theorem phase_write_unique {line : List Char}
    (read : phase login (pre ++ .write fd line :: post) = some p) (fd' : Int) (line' : List Char) :
    .write fd' line' ∉ pre ++ post := by
  intro mem
  rcases List.mem_append.mp mem with mem | mem
  · obtain ⟨mPacket, before, -⟩ := phase_write read
    obtain ⟨fd'', equal⟩ := (phase_loggedIn_iff before).mp ⟨fd', line', mem⟩
    cases equal
  · obtain ⟨l, r, rfl⟩ := List.append_of_mem mem
    rw [← List.cons_append, ← List.append_assoc] at read
    obtain ⟨mPacket, before, -⟩ := phase_write read
    obtain ⟨fd'', equal⟩ := (phase_loggedIn_iff before).mp
      ⟨fd, line, List.mem_append_right _ List.mem_cons_self⟩
    cases equal

/-- After a rejected identification packet the connection is closed. -/
theorem phase_rejected (settled : p.Settled) (rejected : Rejected mPacket)
    (read : phase login (pre ++ .connection fd :: .packet fd mPacket :: post) = some p) :
    ∃ rest, post = .close fd :: rest := by
  rw [List.append_cons, List.append_cons] at read
  obtain ⟨m, first, rest⟩ := after_split read
  obtain ⟨q, before, step⟩ := phase_last first
  have identified : m = .identified fd mPacket := by
    cases step with
    | attempt attempt => exact attempt.elim
    | identified => rfl
    | answer =>
      obtain ⟨_, -, step⟩ := phase_last before
      cases step
  subst identified
  cases post with
  | nil =>
    -- the log cannot end here: a run never stops with a rejected server connected
    obtain rfl : Phase.identified fd mPacket = p := Option.some.inj rest
    exact absurd rejected settled
  | cons e rest' =>
    obtain ⟨_, next, -⟩ := Option.bind_eq_some_iff.mp rest
    cases Phase.step_of_next next with
    | rejected => exact ⟨rest', rfl⟩
    | login version => exact absurd rejected version

end Logs

/-! ## The login -/

/-- A fresh object with the parameters of `sock`. -/
def AprsIs.fresh (sock : AprsIs F) : AprsIs F :=
  { sock with toLocalSocket := {}, mGoodServer := false }

/-- The monitor reads the log of every run to its end. -/
theorem openConnection_phase (sock : AprsIs F) (script : List Ext)
    {r : EStateM.Result Stop (Net F) Bool} (run : openConnection.run ⟨sock.fresh, script, []⟩ = r) :
    ∃ p, phase sock.validate (final r).log = some p ∧ p.Settled ∧
      ∀ opened t, r = .ok opened t → p = if opened then .loggedIn t.sock.sockFd else .failed := by
  have start : phase sock.validate [] = some .connecting := rfl
  have session := openConnection_session ⟨sock.fresh, script, []⟩ start
    (show (-1 : Int) < 0 by decide) rfl rfl
  unfold Ends at session
  rw [run] at session
  cases r with
  | ok opened t =>
    refine ⟨_, session, by cases opened <;> exact trivial, ?_⟩
    rintro opened' t' equal
    cases equal
    rfl
  | error e t =>
    obtain ⟨p, read, settled⟩ := session
    refine ⟨p, read, settled, ?_⟩
    rintro opened' t' equal
    cases equal

/-- However a run of `openConnection` ends: the login line of the object, with its callsign, its
passcode and its filter, if there is one, is written at most once, right after an identification
packet of the same connection that is not rejected; a rejected connection is closed next; and a run
that returns has logged in or has found no connection. -/
theorem openConnection_login (sock : AprsIs F) (script : List Ext) :
    let r := openConnection.run ⟨sock.fresh, script, []⟩
    let log := (final r).log
    (∀ pre fd line post, log = pre ++ .write fd line :: post →
      line = "user ".toList ++ sock.mCallSign ++ " pass ".toList ++ sock.mPassCode ++
        (if sock.mFilter.isEmpty then [] else " filter ".toList ++ sock.mFilter) ++ "\r\n".toList ∧
      (∀ fd' line', .write fd' line' ∉ pre ++ post) ∧
        ∃ before mPacket, pre = before ++ [.connection fd, .packet fd mPacket] ∧ ¬ Rejected mPacket) ∧
    (∀ pre fd mPacket post, log = pre ++ .connection fd :: .packet fd mPacket :: post →
      Rejected mPacket → ∃ rest, post = .close fd :: rest) ∧
    (∀ opened t, r = .ok opened t →
      (opened = true ↔ ∃ fd line, .write fd line ∈ log) ∧
      (opened = false ↔ ∃ fd < 0, .connection fd ∈ log)) := by
  intro r log
  obtain ⟨p, read, settled, ended⟩ := openConnection_phase sock script (r := r) rfl
  change phase sock.validate log = some p at read
  clear_value log r
  refine ⟨?_, ?_, ?_⟩
  · intro pre fd line post split
    rw [split] at read
    obtain ⟨mPacket, before, version, valid⟩ := phase_write read
    obtain ⟨before, split'⟩ := phase_identified before
    exact ⟨valid, phase_write_unique read, before, mPacket, split', version⟩
  · intro pre fd mPacket post split rejected
    rw [split] at read
    exact phase_rejected settled rejected read
  · intro opened t returned
    have ended := ended opened t returned
    rw [phase_loggedIn_iff read, phase_failed_iff read, ended]
    cases opened <;> simp

end AprsWx
