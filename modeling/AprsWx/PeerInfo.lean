import AprsWx.Session

/-!
# Which address is selected

The loop over the attempts of `findPeerInfo` ends at the first that succeeds.

* `tryAll_fails`, `tryAll_selects`: its turns up to an attempt, with the answers and the log.
* `findPeerInfo_selects`: what is left in the object and in the log, for every outcome of every
  attempt.
-/

namespace AprsWx

open Prog Trace

variable {F : Type}

/-! ## Outcomes -/

/-- What comes of an attempt: `::connect` or `::bind` is made on a descriptor, or fails without
one. -/
inductive TrialOutcome
  | noSocket
  | refused (fd : Nat)
  | accepted (fd : Nat)
  deriving DecidableEq

structure Trial where
  peer : AddrInfo
  outcome : TrialOutcome

/-- The descriptor of an attempt that succeeds. -/
def Trial.accepted (trial : Trial) : Option Nat :=
  match trial.outcome with
  | .accepted fd => some fd
  | _ => none

/-- What the operating system answers. -/
def Trial.answers (trial : Trial) : List Ext :=
  match trial.outcome with
  | .noSocket => [.socket none]
  | .refused fd => [.socket (some fd), .bindConnect false]
  | .accepted fd => [.socket (some fd), .bindConnect true]

/-- What is done. -/
def Trial.log (trial : Trial) : List Sys :=
  match trial.outcome with
  | .noSocket => [.socket (-1), .bindConnect (-1) trial.peer false, .close (-1)]
  | .refused fd => [.socket fd, .bindConnect fd trial.peer false, .close fd]
  | .accepted fd => [.socket fd, .bindConnect fd trial.peer true]

/-- The attempts, each with its outcome. -/
def trials (prefs : List Nat) (peers : List AddrInfo) (outcome : Nat → TrialOutcome) : List Trial :=
  (attempts prefs peers).mapIdx fun i peer => ⟨peer, outcome i⟩

theorem map_trials (prefs : List Nat) (peers : List AddrInfo) (outcome : Nat → TrialOutcome) :
    (trials prefs peers outcome).map Trial.peer = attempts prefs peers := by
  unfold trials
  refine List.ext_getElem (by simp) fun i _ _ => ?_
  simp

section Trials

variable {sock : AprsIs F} {rest : List Ext} {log : List Sys} {trial : Trial}

theorem sysSocket_run (fd : Option Nat) :
    (sysSocket (F := F)).run ⟨sock, .socket fd :: rest, log⟩ =
      .ok (match fd with | some fd => fd | none => -1)
        ⟨sock, rest, log ++ [.socket (match fd with | some fd => fd | none => -1)]⟩ := rfl

theorem sysBindConnect_run (fd : Nat) (peer : AddrInfo) (success : Bool) :
    (sysBindConnect (F := F) fd peer).run ⟨sock, .bindConnect success :: rest, log⟩ =
      .ok success ⟨sock, rest, log ++ [.bindConnect fd peer success]⟩ := by
  unfold sysBindConnect
  rw [if_neg (Int.not_lt.mpr (Int.natCast_nonneg fd))]
  rfl

theorem modifySock_run (f : AprsIs F → AprsIs F) (s : Net F) :
    (modifySock f).run s = .ok ⟨⟩ { s with sock := f s.sock } := rfl

theorem sysClose_run (fd : Int) (s : Net F) :
    (sysClose fd).run s = .ok ⟨⟩ { s with log := s.log ++ [.close fd] } := rfl

theorem attempt_fails (failed : trial.accepted = none) :
    (attempt trial.peer).run ⟨sock, trial.answers ++ rest, log⟩ =
      .ok false ⟨sock.withFd (-1), rest, log ++ trial.log⟩ := by
  obtain ⟨peer, outcome⟩ := trial
  have done : ∀ fd : Int, log ++ [.socket fd] ++ [.bindConnect fd peer false] ++ [.close fd] =
      log ++ [.socket fd, .bindConnect fd peer false, .close fd] := by
    intro fd
    simp
  cases outcome with
  | noSocket =>
    show EStateM.Result.ok false (⟨sock.withFd (-1), rest,
      log ++ [.socket (-1)] ++ [.bindConnect (-1) peer false] ++ [.close (-1)]⟩ : Net F) = _
    rw [done]
    rfl
  | refused fd =>
    simp only [attempt, EStateM.run_bind, Trial.answers, List.cons_append, List.nil_append,
      sysSocket_run, modifySock_run, sysBindConnect_run, sysClose_run, Bool.false_eq_true, if_false,
      EStateM.run_pure, done]
    rfl
  | accepted fd => cases failed

theorem attempt_succeeds {fd : Nat} (accepted : trial.accepted = some fd) :
    (attempt trial.peer).run ⟨sock, trial.answers ++ rest, log⟩ =
      .ok true ⟨(sock.withFd fd).peered trial.peer, rest, log ++ trial.log⟩ := by
  obtain ⟨peer, outcome⟩ := trial
  cases outcome with
  | noSocket => cases accepted
  | refused fd => cases accepted
  | accepted fd =>
    obtain rfl := Option.some.inj accepted
    simp only [attempt, EStateM.run_bind, Trial.answers, List.cons_append, List.nil_append,
      sysSocket_run, modifySock_run, sysBindConnect_run, if_true, EStateM.run_pure,
      List.append_assoc]
    rfl

/-- Attempts that all fail are all made. -/
theorem tryAll_fails (failed : List Trial) (fails : ∀ trial ∈ failed, trial.accepted = none)
    (peers : List AddrInfo) :
    (tryAll (failed.map Trial.peer ++ peers)).run
        ⟨sock.withFd (-1), failed.flatMap Trial.answers ++ rest, log⟩ =
      (tryAll peers).run ⟨sock.withFd (-1), rest, log ++ failed.flatMap Trial.log⟩ := by
  induction failed generalizing log with
  | nil =>
    rw [List.flatMap_nil, List.flatMap_nil, List.append_nil]
    rfl
  | cons trial failed ih =>
    obtain ⟨first, others⟩ := List.forall_mem_cons.mp fails
    rw [List.map_cons, List.cons_append, tryAll, List.flatMap_cons, List.flatMap_cons,
      List.append_assoc, EStateM.run_bind, attempt_fails first, ← List.append_assoc]
    exact ih others

/-- The attempts end with the one that succeeds. -/
theorem tryAll_selects (failed others : List Trial) (fails : ∀ trial ∈ failed, trial.accepted = none)
    {fd : Nat} (accepted : trial.accepted = some fd) :
    (tryAll ((failed ++ trial :: others).map Trial.peer)).run
        ⟨sock.withFd (-1), (failed ++ trial :: others).flatMap Trial.answers ++ rest, log⟩ =
      .ok ⟨⟩ ⟨(sock.withFd fd).peered trial.peer, others.flatMap Trial.answers ++ rest,
        log ++ (failed ++ [trial]).flatMap Trial.log⟩ := by
  rw [List.map_append, List.flatMap_append, List.append_assoc, tryAll_fails failed fails,
    List.map_cons, tryAll, List.flatMap_cons, List.append_assoc, EStateM.run_bind,
    attempt_succeeds accepted, List.flatMap_append, List.flatMap_singleton, List.append_assoc]
  rfl

end Trials

/-! ## Descriptors -/

theorem descriptors_fails {trial : Trial} (failed : trial.accepted = none) :
    descriptors none trial.log = some none := by
  obtain ⟨peer, outcome⟩ := trial
  have closed : ∀ fd : Int,
      descriptors none [.socket fd, .bindConnect fd peer false, .close fd] = some none :=
    fun fd => (descriptors_append (descriptors_socket fd)).trans
      ((descriptors_append (descriptors_other rfl)).trans (descriptors_close fd))
  cases outcome with
  | noSocket => exact closed (-1)
  | refused fd => exact closed fd
  | accepted fd => cases failed

/-- Every descriptor of an attempt that fails is closed again. -/
theorem descriptors_allFail (failed : List Trial) (fails : ∀ trial ∈ failed, trial.accepted = none) :
    descriptors none (failed.flatMap Trial.log) = some none := by
  induction failed with
  | nil => rfl
  | cons trial failed ih =>
    obtain ⟨first, others⟩ := List.forall_mem_cons.mp fails
    rw [List.flatMap_cons, descriptors_append (descriptors_fails first)]
    exact ih others

theorem descriptors_succeeds {trial : Trial} {fd : Nat} (accepted : trial.accepted = some fd) :
    descriptors none trial.log = some (some fd) := by
  obtain ⟨peer, outcome⟩ := trial
  cases outcome with
  | noSocket => cases accepted
  | refused fd => cases accepted
  | accepted fd =>
    obtain rfl := Option.some.inj accepted
    exact (descriptors_append (descriptors_socket fd)).trans (descriptors_other rfl)

/-! ## The selection -/

/-- For every list of preferences, every list of addresses and every outcome of every attempt: the
attempts are made in the order of the preferences, up to the first that succeeds. The object has
its descriptor and its address, the answers for the other attempts are not asked for, and no other
descriptor is open. Without one that succeeds all attempts are made, the object has no descriptor
and its address is as before, and no descriptor is open. -/
theorem findPeerInfo_selects (prefs : List Nat) (peers : List AddrInfo) (outcome : Nat → TrialOutcome)
    (sock : AprsIs F) (rest : List Ext) (log : List Sys) :
    (trials prefs peers outcome).map Trial.peer = attempts prefs peers ∧
    (∀ failed trial others (fd : Nat), trials prefs peers outcome = failed ++ trial :: others →
      (∀ t ∈ failed, t.accepted = none) → trial.accepted = some fd →
      ∃ t : AprsIs F,
        (findPeerInfo prefs).run ⟨sock, .getaddrinfo (some peers) ::
            ((trials prefs peers outcome).flatMap Trial.answers ++ rest), log⟩ =
          .ok ⟨⟩ ⟨t, others.flatMap Trial.answers ++ rest,
            log ++ (failed ++ [trial]).flatMap Trial.log⟩ ∧
        t.sockFd = fd ∧ t.peerAddr.take t.peerLen = trial.peer.aiAddr ∧
        t.peerLen = trial.peer.aiAddr.length ∧ t.afType = trial.peer.aiFamily ∧
        descriptors none ((failed ++ [trial]).flatMap Trial.log) = some (some fd)) ∧
    ((∀ t ∈ trials prefs peers outcome, t.accepted = none) →
      ∃ t : AprsIs F,
        (findPeerInfo prefs).run ⟨sock, .getaddrinfo (some peers) ::
            ((trials prefs peers outcome).flatMap Trial.answers ++ rest), log⟩ =
          .ok ⟨⟩ ⟨t, rest, log ++ (trials prefs peers outcome).flatMap Trial.log⟩ ∧
        t.sockFd = -1 ∧ t.peerAddr = sock.peerAddr ∧ t.peerLen = sock.peerLen ∧
        t.afType = sock.afType ∧
        descriptors none ((trials prefs peers outcome).flatMap Trial.log) = some none) := by
  have start : ∀ script : List Ext,
      (findPeerInfo prefs).run ⟨sock, .getaddrinfo (some peers) :: script, log⟩ =
        (tryAll (attempts prefs peers)).run
          ⟨(sock.withType .SockUnknown).withFd (-1), script, log⟩ := by
    intro script
    refine (Eq.trans ?_ (tryPrefs_eq peers prefs (show (-1 : Int) < 0 by decide)))
    rfl
  have tried := map_trials prefs peers outcome
  refine ⟨tried, ?_, ?_⟩
  · intro failed trial others fd split fails accepted
    rw [start, ← tried, split, tryAll_selects failed others fails accepted]
    refine ⟨_, rfl, rfl, ?_, rfl, rfl, ?_⟩
    · exact List.take_left' rfl
    · rw [List.flatMap_append, List.flatMap_singleton,
        descriptors_append (descriptors_allFail failed fails)]
      exact descriptors_succeeds accepted
  · intro fails
    have all := @tryAll_fails _ (sock.withType .SockUnknown) rest log (trials prefs peers outcome)
      fails []
    rw [List.append_nil, tried] at all
    rw [start, all]
    exact ⟨_, rfl, rfl, rfl, rfl, rfl, descriptors_allFail _ fails⟩

end AprsWx
