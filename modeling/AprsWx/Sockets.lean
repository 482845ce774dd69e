import AprsWx.Descriptors
import AprsWx.Lib.Ownership

/-!
# Sockets

The socket objects of a program, any number of them, and what the functions of `local_socket` do
with their descriptors: constructing an object, connecting, listening, accepting, the assignment
that moves, closing and the destructor, in any order.

An object is a `local_socket`, so what is missing of an `APRS_IS` object plays no part when a
function of the connection runs on it. Each action carries what the operating system answers. One
that the language does not define, or whose answers end before it does, is no step.

* `step_simulates`: an action is a step of an object that owns a resource.
* `run_owned`: no descriptor is closed that is not open, none has two owners, and the descriptors
  left open without an owner are as many as the actions that overwrite one.
-/

namespace AprsWx

open Ownership Prog Trace

/-! ## Functions -/

/-- The socket of an object that is nothing else. -/
def LocalSocket.aprsIs (s : LocalSocket) : AprsIs Unit :=
  { s with mCallSign := [], mPassCode := [], mFilter := [], mQthPosition := { mTimePoint := 0 } }

/-- `local_socket::listen`, but for the flags of the descriptor. -/
def listen {F : Type} (familyPrefs : List Nat) : NetM F PUnit := do
  findPeerInfo familyPrefs
  if 0 ≤ (← getSock).sockFd then
    modifySock fun sock => sock.withType .SockListen

/-- What `::accept4` returns: a descriptor with the family and the address of the client. -/
abbrev Client : Type := Nat × Nat × List UInt8

/-- The constructor for an accepted connection. Without a client the address has been left zero. -/
def LocalSocket.accepted : Option Client → LocalSocket
  | none => { socketType := .SockAccept }
  | some (fd, family, addr) =>
    { socketType := .SockAccept
      sockFd := fd
      afType := family
      peerAddr := addr ++ (List.replicate 128 0).drop addr.length
      peerLen := addr.length }

/-- `operator=` of two objects, which moves. The type of the socket stays. -/
def LocalSocket.assign (this other : LocalSocket) : LocalSocket × LocalSocket :=
  ({ this with
      sockFd := other.sockFd
      afType := other.afType
      peerLen := other.peerLen
      peerAddr := other.peerAddr.take other.peerLen ++ this.peerAddr.drop other.peerLen
      mWaitTime := other.mWaitTime },
    { other with sockFd := -1, afType := afUnspec })

/-! ## Actions -/

/-- The sockets of a program, and the descriptors that they have opened and closed. -/
structure Sockets (ι : Type) where
  object : ι → Option LocalSocket
  log : List (Op Nat)

namespace Sockets

variable {ι : Type} [DecidableEq ι]

/-- What is done with the object `i`, or with `i` and `j`. -/
inductive Action (ι : Type)
  | construct (i : ι)
  | connect (i : ι) (familyPrefs : List Nat) (answers : List Ext)
  | listen (i : ι) (familyPrefs : List Nat) (answers : List Ext)
  | accept (i j : ι) (client : Option Client)
  | assign (i j : ι)
  | close (i : ι)
  | destroy (i : ι)

def empty : Sockets ι := ⟨fun _ => none, []⟩

variable (w : Sockets ι)

/-- The object `i` is replaced. -/
def put (i : ι) (s : Option LocalSocket) (log : List (Op Nat)) : Sockets ι :=
  ⟨Function.update w.object i s, w.log ++ log⟩

/-- A function is called on the object `i`. An exception leaves its effects behind. -/
def call {α : Type} (i : ι) (x : NetM Unit α) (answers : List Ext) : Option (Sockets ι) :=
  (w.object i).bind fun s =>
    match x.run ⟨s.aprsIs, answers, []⟩ with
    | .ok _ t => some (w.put i (some t.sock.toLocalSocket) (t.log.filterMap Sys.op))
    | .error (.thrown _) t => some (w.put i (some t.sock.toLocalSocket) (t.log.filterMap Sys.op))
    | .error _ _ => none

def step : Action ι → Option (Sockets ι)
  | .construct i => if (w.object i).isNone then some (w.put i (some {}) []) else none
  | .connect i familyPrefs answers => w.call i (AprsWx.connect familyPrefs) answers
  | .listen i familyPrefs answers => w.call i (AprsWx.listen familyPrefs) answers
  | .accept i j client =>
    (w.object i).bind fun s =>
      if s.socketType ≠ .SockListen then
        -- the exception comes before anything is accepted
        some w
      else if (w.object j).isSome then
        none
      else
        let client := if s.sockFd < 0 then none else client
        some (w.put j (some (.accepted client)) (client.toList.map fun c => .acquire c.1))
  | .assign i j =>
    -- `memcpy` of an address onto itself is not defined
    if i = j then none
    else
      (w.object i).bind fun this => (w.object j).map fun other =>
        (w.put i (some (this.assign other).1) []).put j (some (this.assign other).2) []
  | .close i => w.call i AprsWx.close []
  | .destroy i => (w.call i AprsWx.close []).map fun w => w.put i none []

/-- The sockets after actions, all of which are steps. -/
def run (actions : List (Action ι)) : Option (Sockets ι) := after step w actions

/-- The descriptor that the object `i` holds. -/
def fd (i : ι) : Option Nat := (w.object i).bind fun s => held s.sockFd

/-- `getaddrinfo` finds addresses. -/
def addressed : List Ext → Bool
  | .getaddrinfo (some _) :: _ => true
  | _ => false

/-- The action overwrites the descriptor that an object holds. -/
def overwrites : Action ι → Bool
  | .connect i _ answers => (w.fd i).isSome && addressed answers
  | .listen i _ answers => (w.fd i).isSome && addressed answers
  | .assign i _ => (w.fd i).isSome
  | _ => false

/-- How many actions of a run overwrite a descriptor. -/
def leaks : Sockets ι → List (Action ι) → Nat
  | _, [] => 0
  | w, a :: actions =>
    (if w.overwrites a then 1 else 0) + ((w.step a).map fun w => w.leaks actions).getD 0

/-! ## What an action does -/

omit [DecidableEq ι] in
theorem fd_of_object {i : ι} {s : LocalSocket} (is : w.object i = some s) :
    w.fd i = held s.sockFd := by
  unfold fd
  rw [is, Option.bind_some]

theorem fd_put (i : ι) (s : Option LocalSocket) (log : List (Op Nat)) :
    (w.put i s log).fd = Function.update w.fd i (s.bind fun s => held s.sockFd) := by
  funext k
  unfold fd put
  rcases eq_or_ne k i with rfl | other
  · simp
  · simp [other]

/-- An object with the descriptor that it had before. -/
theorem fd_put_same {i : ι} {s : Option LocalSocket} (same : (s.bind fun s => held s.sockFd) = w.fd i)
    (log : List (Op Nat)) : (w.put i s log).fd = w.fd := by
  rw [fd_put, same, Function.update_eq_self]

/-- A program opens a descriptor: after `getaddrinfo` has found addresses the object has forgotten
the one that it held, and before that nothing has changed. -/
def Opens {α : Type} (x : NetM Unit α) : Prop :=
  ∀ (sock : AprsIs Unit) (answers : List Ext),
    Ends x ⟨sock, answers, []⟩ (fun _ t => addressed answers = true ∧ t.Holds)
      (fun e t => e ≠ .pending → t.Holds ∧ addressed answers = true ∨
        addressed answers = false ∧ t.sock = sock ∧ t.log = [])

theorem findPeerInfo_opens (familyPrefs : List Nat) : Opens (findPeerInfo familyPrefs) := by
  intro sock answers
  match answers with
  | .getaddrinfo (some peers) :: script =>
    have forgotten : (findPeerInfo familyPrefs).run ⟨sock, .getaddrinfo (some peers) :: script, []⟩ =
        (findPeerInfo familyPrefs).run
          ⟨sock.withFd (-1), .getaddrinfo (some peers) :: script, []⟩ := rfl
    have closed : Net.Closed ⟨sock.withFd (-1), .getaddrinfo (some peers) :: script, []⟩ :=
      ⟨rfl, show (-1 : Int) < 0 by decide⟩
    unfold Ends
    rw [forgotten]
    exact (findPeerInfo_ends familyPrefs _ closed.2).mono
      (fun _ t tried => ⟨rfl, Net.Holds.attempts closed tried⟩)
      (fun _ t tried _ => .inl ⟨Net.Holds.attempts closed tried, rfl⟩)
  | .getaddrinfo none :: script => exact fun _ => .inr ⟨rfl, rfl, rfl⟩
  | [] => exact fun other => absurd rfl other
  | .running _ :: _ => exact fun other => absurd rfl other
  | .socket _ :: _ => exact fun other => absurd rfl other
  | .bindConnect _ :: _ => exact fun other => absurd rfl other
  | .select _ :: _ => exact fun other => absurd rfl other
  | .read _ :: _ => exact fun other => absurd rfl other
  | .write _ :: _ => exact fun other => absurd rfl other
  | .now _ :: _ => exact fun other => absurd rfl other
  | .perform _ _ :: _ => exact fun other => absurd rfl other

/-- What follows the search for a peer keeps the descriptor. -/
theorem Opens.bind {α β : Type} {x : NetM Unit α} {f : α → NetM Unit β} (opens : Opens x)
    (rest : ∀ a, ∀ t : Net Unit, t.Holds → Ends (f a) t (fun _ u => u.Holds) (fun _ u => u.Holds)) :
    Opens (x >>= f) := by
  intro sock answers
  refine (opens sock answers).bind ?_
  rintro a t ⟨found, holds⟩
  exact (rest a t holds).mono (fun _ _ holds => ⟨found, holds⟩)
    (fun _ _ holds _ => .inl ⟨holds, found⟩)

theorem connect_opens (familyPrefs : List Nat) : Opens (AprsWx.connect familyPrefs) := by
  refine (findPeerInfo_opens familyPrefs).bind fun _ t holds => ?_
  rw [ends_bind, ends_modifySock, ends_bind, ends_getSock, ends_bind, ends_logSys, ends_pure]
  exact holds.other rfl rfl rfl

theorem listen_opens (familyPrefs : List Nat) : Opens (AprsWx.listen familyPrefs) := by
  refine (findPeerInfo_opens familyPrefs).bind fun _ t holds => ?_
  rw [ends_bind, ends_getSock]
  split
  · exact holds
  · exact holds

section Step

variable {w} {w' : Sockets ι} {i : ι}

/-- The object that opens a descriptor has the one that is open in the end, or it is as before. -/
theorem call_opens {α : Type} {x : NetM Unit α} (opens : Opens x) {answers : List Ext}
    (called : w.call i x answers = some w') :
    (addressed answers = true ∧ ∃ s log, w' = w.put i (some s) log ∧
      after slot none log = some (held s.sockFd)) ∨
    (addressed answers = false ∧ w'.fd = w.fd ∧ w'.log = w.log) := by
  obtain ⟨s, is, called⟩ := Option.bind_eq_some_iff.mp called
  have ended := opens s.aprsIs answers
  cases run : x.run ⟨s.aprsIs, answers, []⟩ with
  | ok a t =>
    rw [run] at called
    obtain rfl := Option.some.inj called
    obtain ⟨found, holds⟩ := ended.of_ok run
    exact .inl ⟨found, _, _, rfl, holds⟩
  | error e t =>
    rw [run] at called
    have stopped := ended.of_error run
    cases e with
    | thrown exn =>
      obtain rfl := Option.some.inj called
      rcases stopped (fun same => by cases same) with ⟨holds, found⟩ | ⟨unfound, sock, log⟩
      · exact .inl ⟨found, _, _, rfl, holds⟩
      · refine .inr ⟨unfound, ?_, ?_⟩
        · rw [sock]
          exact w.fd_put_same (s := some s) (w.fd_of_object is).symm _
        · rw [log]
          exact List.append_nil _
    | pending => cases called
    | undefined => cases called
    | exited => cases called

/-- `close` closes the descriptor that the object holds. -/
theorem call_close (called : w.call i AprsWx.close [] = some w') :
    w'.fd = Function.update w.fd i none ∧ w'.log = w.log ++ (w.fd i).toList.map .release := by
  obtain ⟨s, is, called⟩ := Option.bind_eq_some_iff.mp called
  rw [close_run] at called
  obtain rfl := Option.some.inj called
  rw [w.fd_put, w.fd_of_object is]
  unfold held
  by_cases valid : 0 ≤ s.sockFd
  · simp [put, valid, Sys.op, AprsIs.withFd, LocalSocket.aprsIs]
  · simp [put, valid, LocalSocket.aprsIs]

end Step

/-! ## Owners -/

/-- The sockets `w'` come from `w` by a step of the objects, which loses `losses` descriptors, or
nothing happens. -/
inductive Simulates (w w' : Sockets ι) (losses : Nat) : Prop
  | step (owners : ∀ o : Owners ι Nat, o.held = w.fd →
      ∃ log p, Step o log losses p ∧ p.held = w'.fd ∧ w'.log = w.log ++ log)
  | stay (fd : w'.fd = w.fd) (log : w'.log = w.log) (none : losses = 0)

section Simulation

variable {w} {w' : Sockets ι} {i : ι}

omit [DecidableEq ι] in
theorem losses_eq {o : Owners ι Nat} (same : o.held = w.fd) (i : ι) :
    o.losses i = if (w.fd i).isSome then 1 else 0 := by
  unfold Owners.losses
  rw [same]

/-- Opening a descriptor loses the one that the object holds. -/
theorem opens_simulates {α : Type} {x : NetM Unit α} (opens : Opens x) {answers : List Ext}
    (called : w.call i x answers = some w') :
    Simulates w w' (if ((w.fd i).isSome && addressed answers) = true then 1 else 0) := by
  rcases call_opens opens called with ⟨found, s, log, rfl, read⟩ | ⟨unfound, fd, log⟩
  · refine .step fun o same => ⟨log, (o.lose i).give i (held s.sockFd), ?_, ?_, rfl⟩
    · rw [found, Bool.and_true, ← losses_eq same]
      exact .acquire i read
    · rw [w.fd_put]
      unfold Owners.give Owners.lose
      rw [Function.update_idem, same]
      rfl
  · refine .stay fd log ?_
    rw [unfound, Bool.and_false]
    rfl

/-- An object that closes its descriptor owns nothing afterwards. -/
theorem closes_simulates (fd : w'.fd = Function.update w.fd i none)
    (log : w'.log = w.log ++ (w.fd i).toList.map .release) : Simulates w w' 0 := by
  cases open_ : w.fd i with
  | none =>
    rw [open_] at log
    refine .stay ?_ (log.trans (List.append_nil _)) rfl
    rw [fd, ← open_, Function.update_eq_self]
  | some r =>
    rw [open_] at log
    refine .step fun o same => ⟨[.release r], o.drop i, .release i (by rw [same, open_]), ?_, log⟩
    unfold Owners.drop
    rw [fd, same]

theorem accepts_simulates {j : ι} {client : Option Client} (new : w.object j = none)
    (accepted : w' = w.put j (some (.accepted client)) (client.toList.map fun c => .acquire c.1)) :
    Simulates w w' 0 := by
  have none : w.fd j = none := by
    unfold fd
    rw [new]
    rfl
  subst accepted
  cases client with
  | none =>
    refine .stay (w.fd_put_same (s := some _) ?_ _) (List.append_nil _) rfl
    rw [none]
    rfl
  | some client =>
    refine .step fun o same => ⟨_, (o.lose j).give j (some client.1), ?_, ?_, rfl⟩
    · have loss : o.losses j = 0 := by
        rw [losses_eq same, none]
        rfl
      rw [← loss]
      exact .acquire j rfl
    · rw [w.fd_put]
      unfold Owners.give Owners.lose
      rw [Function.update_idem, same]
      rfl

theorem assigns_simulates {j : ι} {this other : LocalSocket} (apart : i ≠ j)
    (is : w.object j = some other) :
    Simulates w ((w.put i (some (this.assign other).1) []).put j (some (this.assign other).2) [])
      (if (w.fd i).isSome then 1 else 0) := by
  refine .step fun o same => ⟨[], (o.lose i).pass i j, ?_, ?_, by simp [put]⟩
  · rw [← losses_eq same]
    exact .pass i j
  · have passed : (o.lose i).held j = held other.sockFd := by
      show Function.update o.held i none j = _
      rw [Function.update_of_ne apart.symm, same, w.fd_of_object is]
    show Function.update (Function.update (Function.update o.held i none) i _) j none = _
    rw [passed, Function.update_idem, same, fd_put, fd_put]
    rfl

/-- An action is a step of an object that owns a descriptor, or has nothing to do with any. -/
theorem step_simulates {a : Action ι} (stepped : w.step a = some w') :
    Simulates w w' (if w.overwrites a then 1 else 0) := by
  cases a with
  | construct i =>
    obtain ⟨new, equal⟩ := Option.ite_none_right_eq_some.mp stepped
    obtain rfl := Option.some.inj equal
    refine .stay (w.fd_put_same (s := some {}) ?_ _) (List.append_nil _) rfl
    unfold fd
    rw [Option.isNone_iff_eq_none.mp new]
    rfl
  | connect i familyPrefs answers => exact opens_simulates (connect_opens familyPrefs) stepped
  | listen i familyPrefs answers => exact opens_simulates (listen_opens familyPrefs) stepped
  | accept i j client =>
    obtain ⟨s, -, stepped⟩ := Option.bind_eq_some_iff.mp stepped
    split at stepped
    · obtain rfl := Option.some.inj stepped
      exact .stay rfl rfl rfl
    · obtain ⟨new, equal⟩ := Option.ite_none_left_eq_some.mp stepped
      exact accepts_simulates (Option.not_isSome_iff_eq_none.mp new) (Option.some.inj equal).symm
  | assign i j =>
    obtain ⟨apart, stepped⟩ := Option.ite_none_left_eq_some.mp stepped
    obtain ⟨this, -, stepped⟩ := Option.bind_eq_some_iff.mp stepped
    obtain ⟨other, is, rfl⟩ := Option.map_eq_some_iff.mp stepped
    exact assigns_simulates apart is
  | close i =>
    obtain ⟨fd, log⟩ := call_close stepped
    exact closes_simulates fd log
  | destroy i =>
    obtain ⟨closed, called, rfl⟩ := Option.map_eq_some_iff.mp stepped
    obtain ⟨fd, log⟩ := call_close called
    refine closes_simulates (i := i) ?_ ((List.append_nil _).trans log)
    rw [fd_put, fd, Function.update_idem]
    rfl

theorem run_simulates {actions : List (Action ι)} (ran : w.run actions = some w') {n : Nat}
    {o : Owners ι Nat} (before : Run w.log n o) (same : o.held = w.fd) :
    ∃ p, Run w'.log (n + w.leaks actions) p ∧ p.held = w'.fd := by
  induction actions generalizing w n o with
  | nil =>
    obtain rfl : w = w' := Option.some.inj ran
    exact ⟨o, before, same⟩
  | cons a actions ih =>
    obtain ⟨next, stepped, rest⟩ := Option.bind_eq_some_iff.mp ((after_cons (q := w)).symm.trans ran)
    have count : n + w.leaks (a :: actions) =
        n + (if w.overwrites a then 1 else 0) + next.leaks actions := by
      rw [leaks, stepped, ← Nat.add_assoc]
      rfl
    rw [count]
    cases step_simulates stepped with
    | step owners =>
      obtain ⟨log, p, step, fd, logged⟩ := owners o same
      refine ih rest ?_ fd
      rw [logged]
      exact before.step step
    | stay fd log none =>
      rw [none]
      exact ih rest (by rw [log]; exact before) (same.trans fd.symm)

end Simulation

/-- For any number of sockets and any actions on them in any order, if the system returns no
descriptor that is open: no descriptor is closed that is not open, two objects never hold the same
one, and what is open is held by an object, but for as many descriptors as actions have overwritten
the one of an object: by connecting or listening again, or by assigning to it. -/
theorem run_owned (actions : List (Action ι)) (w : Sockets ι) (ran : empty.run actions = some w)
    (fresh : Fresh ∅ w.log) :
    Rightful ∅ w.log ∧
    (∀ i j fd, w.fd i = some fd → w.fd j = some fd → i = j) ∧
    ∃ lost : Finset Nat, lost.card = (empty : Sockets ι).leaks actions ∧
      (∀ fd, fd ∈ opened ∅ w.log ↔ (∃ i, w.fd i = some fd) ∨ fd ∈ lost) ∧
      ∀ i fd, w.fd i = some fd → fd ∉ lost := by
  obtain ⟨o, run, same⟩ := run_simulates (w := empty) (o := Owners.start) ran .start rfl
  obtain ⟨owned, rightful, lost⟩ := run.owned fresh
  rw [← same]
  exact ⟨rightful, owned.single, o.lost, lost.trans (Nat.zero_add _), owned.live_iff, owned.apart⟩

/-- A server that listens again and then is assigned the connection that it has accepted. -/
def server : List (Action Nat) :=
  let bound (fd : Nat) : List Ext :=
    [.getaddrinfo (some [⟨afInet, 1, 6, [2, 0]⟩]), .socket (some fd), .bindConnect true]
  [.construct 0, .listen 0 [afUnspec] (bound 3), .accept 0 1 (some (4, afInet, [2, 0])),
    .listen 0 [afUnspec] (bound 5), .assign 0 1, .destroy 0]

theorem run_owned_server : ∃ w, (empty : Sockets Nat).run server = some w ∧
    w.log = [.acquire 3, .acquire 4, .acquire 5, .release 4] ∧
    ∃ lost : Finset Nat, lost.card = 2 ∧
      ∀ fd, fd ∈ opened ∅ w.log ↔ (∃ i, w.fd i = some fd) ∨ fd ∈ lost := by
  refine ⟨_, rfl, rfl, ?_⟩
  have fresh : Fresh ∅ [Op.acquire 3, .acquire 4, .acquire 5, .release 4] := by simp [Fresh, next]
  obtain ⟨-, -, lost, card, live, -⟩ := run_owned server _ rfl fresh
  exact ⟨lost, card, live⟩

end Sockets

end AprsWx
