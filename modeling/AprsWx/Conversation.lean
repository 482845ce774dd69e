import AprsWx.Daemon
import AprsWx.Login

/-!
# What the daemon says to servers

The daemon talks to one server at a time. A connection starts with the server's identification;
the daemon closes it, or logs in and from then on only listens. So it goes on, over any number of
connections.

* `Phase.onward`: the whole of it, as a monitor of the log.
* `main_speaks`: the monitor reads the log of every run of the daemon.
-/

namespace AprsWx

open Double Prog Trace

variable {F : Type}

/-! ## The monitor -/

/-- What may come next in the log of the daemon. A connection that has failed is followed by other
attempts, and after a login there are packets until the connection is closed. -/
def Phase.onward (login : List Char) : Phase → Sys → Option Phase
  | .connecting, .connection fd => some (if fd < 0 then .connecting else .connected fd)
  | .loggedIn fd, .close fd' => if fd' = fd then some .connecting else none
  | p, e => p.next login e

/-- Where the daemon stands after a log. -/
def conversation (login : List Char) (log : List Sys) : Option Phase :=
  after (Phase.onward login) .connecting log

section Connect

variable {login : List Char} {s t : Net F}

theorem conversation_concat {p : Phase} {e : Sys} (log : t.log = s.log ++ [e])
    (start : conversation login s.log = some p) :
    conversation login t.log = p.onward login e := by
  unfold conversation at start ⊢
  rw [log, after_concat start]

theorem conversation_attempts (tried : Attempts s t)
    (start : conversation login s.log = some .connecting) :
    conversation login t.log = some .connecting := by
  obtain ⟨l, log, attempts, -⟩ := tried.log
  unfold conversation at start ⊢
  rw [log, after_append, start, Option.bind_some]
  refine after_of_stay fun e mem => ?_
  have attempt := attempts e mem
  cases e with
  | socket => rfl
  | bindConnect => rfl
  | close => rfl
  | connection => exact attempt.elim
  | packet => exact attempt.elim
  | write => exact attempt.elim

/-! ## Exceptions -/

/-- A program that throws nothing. -/
abbrev Gentle {α : Type} (x : NetM F α) : Prop :=
  Moves (fun _ _ => True) (fun e => e.unwinds = false) x

instance : Std.Refl (fun _ _ : Net F => True) := ⟨fun _ => trivial⟩

instance : IsTrans (Net F) (fun _ _ => True) := ⟨fun _ _ _ _ _ => trivial⟩

theorem answer_gentle {α : Type} (f : Ext → Option α) : Gentle (F := F) (answer f) := fun _ =>
  ends_answer (fun _ _ => trivial) ⟨trivial, rfl⟩

theorem sysBindConnect_gentle (fd : Int) (peer : AddrInfo) :
    Gentle (F := F) (sysBindConnect fd peer) := by
  have rest : ∀ success, Gentle (F := F)
      (do logSys (.bindConnect fd peer success); return success) :=
    fun _ => .bind (.modify fun _ => trivial) fun _ => .pure
  unfold sysBindConnect
  exact .ite (.bind .pure rest) (.bind (answer_gentle _) rest)

theorem tryPeers_gentle (pref : Nat) (peers : List AddrInfo) :
    Gentle (F := F) (tryPeers pref peers) := by
  induction peers with
  | nil => exact .pure
  | cons peer peers ih =>
    unfold tryPeers
    refine .ite (.bind ?_ fun fd => .bind (.modify fun _ => trivial) fun _ => ?_) ih
    · exact .bind (answer_gentle _) fun _ => .bind (.modify fun _ => trivial) fun _ => .pure
    · refine .bind (sysBindConnect_gentle fd peer) fun success => .ite (.modify fun _ => trivial) ?_
      exact .bind (.modify fun _ => trivial) fun _ => .bind (.modify fun _ => trivial) fun _ => ih

theorem tryPrefs_gentle (peers : List AddrInfo) (prefs : List Nat) :
    Gentle (F := F) (tryPrefs peers prefs) := by
  induction prefs with
  | nil => exact .pure
  | cons pref prefs ih =>
    exact .bind (tryPeers_gentle _ _) fun _ => .bind (.bind .get fun _ => .pure) fun _ => .ite ih .pure

/-- Where `connect` throws, it has not tried a peer. -/
theorem connect_throws (prefs : List Nat) (s : Net F) (closed : s.sock.sockFd < 0) :
    Ends (connect prefs) s (fun _ _ => True) (fun e t => e.unwinds → t.sock.sockFd < 0) := by
  unfold connect findPeerInfo
  rw [ends_bind, ends_bind]
  refine ends_answer (fun r script => ?_) nofun
  cases r with
  | none => exact fun _ => closed
  | some peers =>
    rw [ends_bind, ends_modifySock]
    refine (tryPrefs_gentle peers prefs _).mono (fun _ _ _ => trivial) ?_
    rintro e t ⟨-, gentle⟩ unwinds
    rw [gentle] at unwinds
    cases unwinds

/-! ## Opening a connection -/

/-- On a connection, `select` throws nothing. -/
theorem getPacketLoop_connected (fuel : Nat) (stringBuf : List Char) (buf : Option Char) (s : Net F)
    (connected : s.sock.socketType = .SockConnect) :
    Ends (getPacketLoop fuel stringBuf buf) s (fun _ _ => True) (fun e _ => e.unwinds = false) := by
  induction fuel generalizing stringBuf buf s with
  | zero => rfl
  | succ fuel ih =>
    unfold getPacketLoop
    rw [ends_bind]
    have waits : Ends (select 60) s (fun _ t => t.sock.socketType = .SockConnect)
        (fun e _ => e.unwinds = false) := by
      unfold select
      rw [ends_bind, ends_getSock, if_neg (fun other => other.2 connected), ends_bind]
      refine ends_answer (fun n script => ?_) rfl
      split
      · rw [ends_bind, ends_modifySock, ends_bind, ends_getSock]
        exact connected
      · exact connected
    refine waits.mono (fun n t connected => ?_) fun _ _ stays => stays
    split
    · rw [ends_bind, ends_modifySock, ends_bind]
      have reads : Ends (readChar buf) { t with sock := t.sock.waited 0 }
          (fun _ u => u.sock.socketType = .SockConnect) (fun e _ => e.unwinds = false) := by
        unfold readChar
        rw [ends_bind]
        refine ends_answer (fun r script => ?_) rfl
        cases r with
        | error => rfl
        | byte c => exact connected
        | eof =>
          cases buf with
          | none => rfl
          | some c => exact connected
      refine reads.mono (fun c u connected => ?_) fun _ _ stays => stays
      split
      · trivial
      · exact ih _ _ u connected
    · split
      · trivial
      · exact ih _ _ t connected

theorem getPacket_connected (s : Net F) (connected : s.sock.socketType = .SockConnect) :
    Ends getPacket s (fun _ _ => True) (fun e _ => e.unwinds = false) := by
  unfold getPacket
  rw [ends_bind, ends_get, ends_bind]
  exact (getPacketLoop_connected _ _ _ s connected).mono (fun _ _ _ => trivial)
    fun _ _ stays => stays

/-- What holds where opening a connection stops: an exception leaves no connection behind. -/
def Net.Stops (login : List Char) (e : Stop) (t : Net F) : Prop :=
  ∃ p, conversation login t.log = some p ∧
    (e.unwinds → p = .connecting ∧ t.sock.sockFd < 0)

/-- The end of the observation unwinds nothing. -/
theorem pending_stays {P : Prop} (unwinds : Stop.pending.unwinds) : P :=
  absurd unwinds Bool.false_ne_true

/-- A packet is read where the monitor has `q`, and then it has the next phase. -/
theorem getPacket_conversation {q : Phase} {p : StdString → Phase} {s : Net F}
    (start : conversation login s.log = some q) (connected : s.sock.socketType = .SockConnect)
    (packet : ∀ mPacket, q.onward login (.packet s.sock.sockFd mPacket) = some (p mPacket)) :
    Ends getPacket s (fun mPacket t => conversation login t.log = some (p mPacket) ∧
      s.sock.Reads t.sock ∧ t.sock.mPacket = mPacket) (Net.Stops login) := by
  refine ((getPacket_ends s).and (getPacket_connected s connected)).mono ?_ ?_
  · rintro mPacket t ⟨⟨log, reads, -, framed, -⟩, -⟩
    exact ⟨by rw [conversation_concat log start, packet], reads, framed⟩
  · rintro e t ⟨⟨reads, -⟩, stays⟩
    refine ⟨q, by rw [reads.log]; exact start, fun unwinds => ?_⟩
    rw [stays] at unwinds
    cases unwinds

/-- The loop over servers. -/
theorem findServer_conversation (fuel : Nat) (s : Net F)
    (start : conversation login s.log = some .connecting) (closed : s.sock.sockFd < 0)
    (fresh : s.sock.mGoodServer = false) (valid : s.sock.validate = login) :
    Ends (findServer fuel) s
      (fun good t =>
        if good then ∃ mPacket, conversation login t.log = some (.identified t.sock.sockFd mPacket) ∧
          ¬ Rejected mPacket ∧ t.sock.validate = login ∧ 0 ≤ t.sock.sockFd ∧
          t.sock.socketType = .SockConnect
        else conversation login t.log = some .connecting ∧ t.sock.sockFd < 0)
      (Net.Stops login) := by
  induction fuel generalizing s with
  | zero => exact ⟨.connecting, start, pending_stays⟩
  | succ fuel ih =>
    unfold findServer
    rw [ends_bind, ends_getSock, fresh]
    simp only [Bool.false_eq_true, if_false]
    rw [ends_bind]
    refine ((connect_ends _ s closed).and (connect_throws _ s closed)).mono ?_ ?_
    · rintro fd t ⟨⟨u, tried, log, sock, rfl⟩, -⟩
      obtain ⟨socket, dialed⟩ := tried.sock
      have connected := conversation_concat log (conversation_attempts tried start)
      have fd : t.sock.sockFd = u.sock.sockFd := by rw [sock]; rfl
      split
      · next failed =>
        rw [ends_pure, if_neg Bool.false_ne_true, fd]
        rw [Phase.onward, if_pos failed] at connected
        exact ⟨connected, failed⟩
      · next opened =>
        rw [Phase.onward, if_neg opened] at connected
        have type : t.sock.socketType = .SockConnect := by rw [sock]; rfl
        have packet : ∀ mPacket, (Phase.connected u.sock.sockFd).onward login
            (.packet t.sock.sockFd mPacket) = some (.identified u.sock.sockFd mPacket) :=
          fun mPacket => if_pos fd
        refine (getPacket_conversation connected type packet).bind ?_
        rintro mPacket v ⟨identified, ⟨p, n, k, w, reads⟩, packet⟩
        have same : v.sock.sockFd = u.sock.sockFd := by rw [reads, sock]; rfl
        have valid' : v.sock.validate = login := by rw [reads, sock, dialed]; exact valid
        have type' : v.sock.socketType = .SockConnect := by rw [reads]; exact type
        have judged := judged_iff v.sock
        rw [packet] at judged
        rw [ends_bind, ends_modifySock, ends_bind, ends_getSock]
        cases good : v.sock.judged.mGoodServer with
        | false =>
          -- rejected: the connection is closed, and the loop starts again without one
          have version : Rejected mPacket := by
            rw [good] at judged
            exact not_not.mp (mt judged.mpr Bool.false_ne_true)
          have held : 0 ≤ v.sock.judged.sockFd := by
            show 0 ≤ v.sock.sockFd
            omega
          simp only [Bool.not_false, if_true]
          rw [ends_bind, ends_of_ok (close_run _), if_pos held]
          refine ih _ ?_ (show (-1 : Int) < 0 by decide) good valid'
          rw [conversation_concat rfl identified]
          exact if_pos ⟨same, version⟩
        | true =>
          -- accepted: the loop ends at its next test
          have version : ¬ Rejected mPacket := judged.mp good
          simp only [Bool.not_true, Bool.false_eq_true, if_false]
          cases fuel with
          | zero => exact ⟨_, identified, pending_stays⟩
          | succ fuel =>
            unfold findServer
            rw [ends_bind, ends_getSock, good, if_pos rfl, ends_pure, if_pos rfl]
            refine ⟨mPacket, ?_, version, valid', ?_, type'⟩
            · rw [show v.sock.judged.sockFd = u.sock.sockFd from same]
              exact identified
            · show 0 ≤ v.sock.sockFd
              omega
    · rintro e t ⟨tried, throws⟩
      exact ⟨.connecting, conversation_attempts tried start, fun unwinds => ⟨rfl, throws unwinds⟩⟩

/-- `openConnection` logs in, or there is no connection. -/
theorem openConnection_conversation (s : Net F)
    (start : conversation login s.log = some .connecting) (closed : s.sock.sockFd < 0)
    (fresh : s.sock.mGoodServer = false) (valid : s.sock.validate = login) :
    Ends openConnection s
      (fun opened t =>
        if opened then conversation login t.log = some (.loggedIn t.sock.sockFd) ∧
          0 ≤ t.sock.sockFd ∧ t.sock.socketType = .SockConnect
        else conversation login t.log = some .connecting ∧ t.sock.sockFd < 0)
      (Net.Stops login) := by
  unfold openConnection
  rw [ends_bind, ends_get]
  refine (findServer_conversation _ s start closed fresh valid).bind fun good t found => ?_
  cases good with
  | false =>
    rw [if_neg (by decide)] at found ⊢
    exact found
  | true =>
    rw [if_pos rfl] at found ⊢
    obtain ⟨mPacket, identified, version, valid, held, type⟩ := found
    simp only [putLine, ends_bind, ends_getSock]
    refine ends_answer (fun n script => ?_) ⟨_, identified, pending_stays⟩
    rw [ends_logSys, ends_pure]
    have sent : conversation login (t.log ++ [.write t.sock.sockFd t.sock.validate]) =
        some (.loggedIn t.sock.sockFd) := by
      unfold conversation at identified ⊢
      rw [after_concat identified]
      exact if_pos ⟨rfl, version, valid⟩
    have packet : ∀ mPacket, (Phase.loggedIn t.sock.sockFd).onward login
        (.packet t.sock.sockFd mPacket) = some (.loggedIn t.sock.sockFd) := fun mPacket => if_pos rfl
    refine (getPacket_conversation (s := ⟨t.sock, script, _⟩) sent type packet).mono ?_
      (fun _ _ stops => stops)
    rintro mPacket u ⟨answered, ⟨p, n, k, w, reads⟩, -⟩
    rw [ends_pure, if_pos rfl, reads]
    exact ⟨answered, held, type⟩

end Connect

/-! ## The daemon -/

/-- The line of a login. -/
def loginLine (callsign passCode filter : List Char) : List Char :=
  "user ".toList ++ callsign ++ " pass ".toList ++ passCode ++ " filter ".toList ++ filter ++
    "\r\n".toList

/-- The object is connected and logged in. -/
structure Net.Listens (login : List Char) (s : Net F) : Prop where
  loggedIn : conversation login s.log = some (.loggedIn s.sock.sockFd)
  held : 0 ≤ s.sock.sockFd

/-- The object is not connected. -/
structure Net.Seeks (login : List Char) (s : Net F) : Prop where
  connecting : conversation login s.log = some .connecting
  closed : s.sock.sockFd < 0

def Net.Speaks (login : List Char) (s : Net F) : Prop := ∃ p, conversation login s.log = some p

/-- What the destructor finds where it is called. -/
def Net.Unwinds (login : List Char) (s : Net F) : Prop := s.Listens login ∨ s.Seeks login

section Daemon

variable {login : List Char} {s t : Net F}

theorem Net.Listens.reads (listens : s.Listens login) (reads : s.Reads t) : t.Listens login := by
  constructor
  · rw [reads.log, reads.sock.sockFd]
    exact listens.loggedIn
  · rw [reads.sock.sockFd]
    exact listens.held

/-- After `close` the daemon is on its way to the next connection. -/
theorem Net.Unwinds.close (unwinds : s.Unwinds login) : (final (close.run s)).Seeks login := by
  rw [close_run]
  rcases unwinds with listens | seeks
  · rw [if_pos listens.held]
    refine ⟨?_, show (-1 : Int) < 0 by decide⟩
    show conversation login (s.log ++ [.close s.sock.sockFd]) = _
    unfold conversation
    rw [after_concat listens.loggedIn]
    exact if_pos rfl
  · rw [if_neg (Int.not_le.mpr seeks.closed)]
    exact seeks

/-- After the login, packets are all that is added to the log. -/
theorem getPacket_listens : Keeps (Net.Listens (F := F) login) getPacket := by
  intro s listens
  refine (getPacket_ends s).mono ?_ (fun _ _ stopped => listens.reads stopped.1)
  rintro mPacket t ⟨log, reads, -⟩
  constructor
  · rw [conversation_concat log listens.loggedIn, reads.sockFd]
    exact if_pos rfl
  · rw [reads.sockFd]
    exact listens.held

variable [CDouble F] {config : Config F}

theorem packetLoop_listens (fuel packetCount : Nat) :
    Keeps (fun s => s.net.Listens login) (packetLoop config fuel packetCount) := by
  have handling : ∀ {α : Type} {x : MainM F α}, Handling x →
      Keeps (fun s => s.net.Listens login) x := fun handling =>
    Moves.keeps handling fun _ _ handles listens => Net.Listens.reads listens handles
  induction fuel generalizing packetCount with
  | zero => exact .throw
  | succ fuel ih =>
    unfold packetLoop
    refine .bind (handling (value_pushes _ _).handles) fun _ => .ite ?_ .pure
    refine .bind (Keeps.zoom (l := netLens) getPacket_listens) fun _ => ?_
    exact .ite (.bind (handling (handlePacket_handles _)) fun _ => .ite .pure (ih _)) (ih _)

theorem useSock_conversation {s : Main F} (seeks : s.net.Seeks login)
    (fresh : s.net.sock.mGoodServer = false) (valid : s.net.sock.validate = login) :
    Ends (useSock config) s (fun _ t => t.net.Unwinds login)
      (fun e t => t.net.Speaks login ∧ (e.unwinds → t.net.Unwinds login)) := by
  unfold useSock
  rw [ends_bind, onNet, ends_zoom]
  refine (openConnection_conversation _ seeks.connecting seeks.closed fresh valid).mono ?_ ?_
  · intro opened net found
    cases opened with
    | false =>
      rw [if_neg Bool.false_ne_true] at found
      have seeks : Net.Seeks login net := ⟨found.1, found.2⟩
      unfold receivePackets
      rw [if_neg Bool.false_ne_true, ends_bind, ends_pure, if_neg Bool.false_ne_true, ends_bind,
        onNet, ends_zoom, ends_of_ok (close_run _)]
      have closed := Net.Unwinds.close (.inr seeks)
      rw [close_run] at closed
      exact .inr closed
    | true =>
      rw [if_pos rfl] at found
      have listens : Net.Listens login net := ⟨found.1, found.2.1⟩
      unfold receivePackets
      rw [if_pos rfl, ends_bind, ends_bind, ends_get]
      refine (packetLoop_listens _ _ (netLens.set net s) listens).mono ?_ ?_
      · intro returns t listens
        split
        · exact .inl listens
        · rw [ends_bind, onNet, ends_zoom, ends_of_ok (close_run _)]
          have closed := Net.Unwinds.close (.inl listens)
          rw [close_run] at closed
          exact .inr closed
      · intro e t listens
        exact ⟨⟨_, Net.Listens.loggedIn listens⟩, fun _ => .inl listens⟩
  · rintro e net ⟨p, reading, thrown⟩
    refine ⟨⟨p, reading⟩, fun unwinds => ?_⟩
    obtain ⟨rfl, closed⟩ := thrown unwinds
    exact .inr ⟨reading, closed⟩

theorem newSock_validate (callsign passCode filter : List Char) (now : Int)
    (nonempty : filter ≠ []) :
    (newSock config callsign passCode filter now).validate = loginLine callsign passCode filter := by
  unfold AprsIs.validate loginLine newSock
  dsimp only
  rw [if_neg (by simpa using nonempty)]
  simp only [List.append_assoc]

/-- A turn of the outer loop is a connection from its start to its end. -/
theorem session_conversation {callsign passCode filter : List Char}
    (configured : config.callsign = some callsign) (configured' : config.passCode = some passCode)
    (nonempty : filter ≠ []) {s : Main F}
    (start : conversation (loginLine callsign passCode filter) s.net.log = some .connecting) :
    Ends (session config filter) s
      (fun _ t => conversation (loginLine callsign passCode filter) t.net.log = some .connecting)
      (fun _ t => t.net.Speaks (loginLine callsign passCode filter)) := by
  unfold session
  rw [configured, configured', value_some, value_some]
  simp only [ends_bind, ends_pure]
  rw [onNet, ends_zoom]
  refine ends_answer (fun now script => ?_) ⟨_, start⟩
  rw [onNet, ends_zoom, ends_modifySock, ends_andFinally]
  refine (useSock_conversation (s := { s with net := ⟨_, script, s.net.log⟩ })
    ⟨start, show (-1 : Int) < 0 by decide⟩ rfl
    (newSock_validate callsign passCode filter now nonempty)).mono ?_ ?_
  · intro returns t unwinds
    exact unwinds.close.connecting
  · rintro e t ⟨speaks, unwinds⟩
    split
    · next throws => exact ⟨_, (unwinds throws).close.connecting⟩
    · exact speaks

theorem mainLoop_conversation {callsign passCode filter : List Char}
    (configured : config.callsign = some callsign) (configured' : config.passCode = some passCode)
    (nonempty : filter ≠ []) (fuel : Nat) {s : Main F}
    (start : conversation (loginLine callsign passCode filter) s.net.log = some .connecting) :
    Ends (mainLoop config filter fuel) s
      (fun _ t => t.net.Speaks (loginLine callsign passCode filter))
      (fun _ t => t.net.Speaks (loginLine callsign passCode filter)) := by
  induction fuel generalizing s with
  | zero => exact ⟨_, start⟩
  | succ fuel ih =>
    unfold mainLoop
    rw [ends_bind, onNet, ends_zoom]
    refine ends_answer (fun running script => ?_) ⟨_, start⟩
    split
    · refine (session_conversation configured configured' nonempty
        (s := { s with net := ⟨s.net.sock, script, s.net.log⟩ }) start).bind fun returns t next => ?_
      split
      · exact ⟨_, next⟩
      · exact ih next
    · exact ⟨_, start⟩

/-- Without a pass code there is not even an attempt to connect. -/
theorem mainLoop_silent (absent : config.passCode = none) (filter : List Char) (fuel : Nat) {s : Main F}
    (silent : s.net.log = []) :
    Ends (mainLoop config filter fuel) s (fun _ t => t.net.log = []) (fun _ t => t.net.log = []) := by
  cases fuel with
  | zero => exact silent
  | succ fuel =>
    unfold mainLoop
    rw [ends_bind, onNet, ends_zoom]
    refine ends_answer (fun running script => ?_) silent
    split
    · unfold session
      rw [absent, ends_bind, ends_bind]
      refine ends_value (fun callsign _ => ?_) silent
      rw [ends_bind]
      exact ends_value (fun _ some => (Option.some_ne_none _ some.symm).elim) silent
    · exact silent

/-- The login line of a configuration, if there is all of it. -/
def Config.loginText (format : F → List Char) (config : Config F) : Option (List Char) :=
  match config.callsign, config.passCode, config.qthLatitude, config.qthLongitude,
    config.filterRadius with
  | some callsign, some passCode, some qthLatitude, some qthLongitude, some filterRadius =>
    some (loginLine callsign passCode (filterText format qthLatitude qthLongitude filterRadius))
  | _, _, _, _, _ => none

/-- The log is a conversation with the login of the configuration. -/
def Main.Converses (format : F → List Char) (config : Config F) (s : Main F) : Prop :=
  s.net.log = [] ∨ ∃ login, config.loginText format = some login ∧ s.net.Speaks login

theorem mainTry_converses (format : F → List Char) (script : List Ext) :
    Ends (mainTry format config) (.start script) (fun _ t => t.Converses format config)
      (fun _ t => t.Converses format config) := by
  have silent : (Main.start script : Main F).Converses format config := .inl rfl
  unfold mainTry
  split
  · exact silent
  · rw [ends_bind]
    refine ends_value (fun qthLatitude lat => ?_) silent
    rw [ends_bind]
    refine ends_value (fun qthLongitude lon => ?_) silent
    rw [ends_bind]
    refine ends_value (fun filterRadius radius => ?_) silent
    rw [ends_bind]
    refine ends_value (fun callsign call => ?_) silent
    rw [ends_bind, ends_get]
    cases pass : config.passCode with
    | none =>
      exact (mainLoop_silent pass _ _ rfl).mono (fun _ _ none => .inl none) (fun _ _ none => .inl none)
    | some passCode =>
      have login : config.loginText format = some (loginLine callsign passCode
          (filterText format qthLatitude qthLongitude filterRadius)) := by
        unfold Config.loginText
        rw [call, pass, lat, lon, radius]
      have nonempty : filterText format qthLatitude qthLongitude filterRadius ≠ [] := by
        unfold filterText
        simp
      exact (mainLoop_conversation call pass nonempty _ rfl).mono
        (fun _ _ speaks => .inr ⟨_, login, speaks⟩) (fun _ _ speaks => .inr ⟨_, login, speaks⟩)

theorem main_converses (format : F → List Char) (config : Config F) (script : List Ext) :
    (Main.after format config script).Converses format config :=
  Main.after_of (mainTry_converses format script)

end Daemon

/-! ## What the monitor says of a log -/

section Logs

variable {login : List Char} {q p : Phase} {e : Sys} {pre post log : List Sys} {fd : Int}
  {mPacket : StdString}

/-- What one entry can do: what it can do in a session, or it is the end of one. -/
theorem Phase.onward_cases (next : q.onward login e = some p) :
    (∃ fd < 0, q = .connecting ∧ e = .connection fd ∧ p = .connecting) ∨
      (∃ fd, q = .loggedIn fd ∧ e = .close fd ∧ p = .connecting) ∨ Phase.Step login q e p := by
  unfold Phase.onward at next
  split at next
  · next fd =>
    by_cases failed : fd < 0
    · rw [if_pos failed] at next
      exact .inl ⟨fd, failed, rfl, rfl, (Option.some.inj next).symm⟩
    · rw [if_neg failed] at next
      exact .inr (.inr (Option.some.inj next ▸ .connected failed))
  · next fd fd' =>
    obtain ⟨rfl, equal⟩ := Option.ite_none_right_eq_some.mp next
    exact .inr (.inl ⟨_, rfl, rfl, (Option.some.inj equal).symm⟩)
  · exact .inr (.inr (Phase.step_of_next next))

theorem conversation_last (read : conversation login (pre ++ [e]) = some p) :
    ∃ q, conversation login pre = some q ∧ q.onward login e = some p := by
  obtain ⟨q, before, last⟩ := after_split read
  refine ⟨q, before, ?_⟩
  rw [after_cons] at last
  obtain ⟨p', next, rest⟩ := Option.bind_eq_some_iff.mp last
  rw [next, Option.some.inj rest]

/-- The phase before an entry and the one after it. -/
theorem conversation_split (read : conversation login (pre ++ e :: post) = some p) :
    ∃ q q', conversation login pre = some q ∧ q.onward login e = some q' ∧
      after (Phase.onward login) q' post = some p := by
  obtain ⟨q, before, rest⟩ := after_split read
  rw [after_cons] at rest
  obtain ⟨q', next, last⟩ := Option.bind_eq_some_iff.mp rest
  exact ⟨q, q', before, next, last⟩

theorem conversation_identified (read : conversation login log = some (.identified fd mPacket)) :
    ∃ pre, log = pre ++ [.connection fd, .packet fd mPacket] := by
  rcases List.eq_nil_or_concat' log with rfl | ⟨l, e, rfl⟩
  · cases read
  obtain ⟨q, before, next⟩ := conversation_last read
  rcases Phase.onward_cases next with ⟨_, _, _, _, other⟩ | ⟨_, _, _, other⟩ | step
  · cases other
  · cases other
  cases step
  rcases List.eq_nil_or_concat' l with rfl | ⟨l, e, rfl⟩
  · cases before
  obtain ⟨q, -, next⟩ := conversation_last before
  rcases Phase.onward_cases next with ⟨_, _, _, _, other⟩ | ⟨_, _, _, other⟩ | step
  · cases other
  · cases other
  cases step
  exact ⟨l, by simp⟩

/-- After a login the log goes on with packets of the connection, and then with its end. -/
theorem conversation_loggedIn {mid rest : List Sys}
    (read : after (Phase.onward login) (.loggedIn fd) (mid ++ e :: rest) = some p)
    (packets : ∀ x ∈ mid, ∃ mPacket, x = .packet fd mPacket) :
    (∃ mPacket, e = .packet fd mPacket) ∨ e = .close fd := by
  have stay : after (Phase.onward login) (.loggedIn fd) mid = some (.loggedIn fd) := by
    refine after_of_stay fun x mem => ?_
    obtain ⟨mPacket, rfl⟩ := packets x mem
    exact if_pos rfl
  rw [after_append, stay, Option.bind_some, after_cons] at read
  obtain ⟨q, next, -⟩ := Option.bind_eq_some_iff.mp read
  rcases Phase.onward_cases next with ⟨_, _, other, _⟩ | ⟨_, same, closed, _⟩ | step
  · cases other
  · cases same
    exact .inr closed
  · cases step
    exact .inl ⟨_, rfl⟩

/-- A login line is sent where a server has just identified itself. -/
theorem conversation_write {line : List Char}
    (read : conversation login (pre ++ .write fd line :: post) = some p) :
    line = login ∧ (∃ before mPacket, pre = before ++ [.connection fd, .packet fd mPacket] ∧
      ¬ Rejected mPacket) ∧ after (Phase.onward login) (.loggedIn fd) post = some p := by
  obtain ⟨q, q', before, next, rest⟩ := conversation_split read
  rcases Phase.onward_cases next with ⟨_, _, _, other, _⟩ | ⟨_, _, other, _⟩ | step
  · cases other
  · cases other
  cases step with
  | attempt attempt => exact attempt.elim
  | login version =>
    obtain ⟨before, split⟩ := conversation_identified before
    exact ⟨rfl, ⟨before, _, split, version⟩, rest⟩

/-- A rejected server is left. -/
theorem conversation_rejected (version : Rejected mPacket)
    (read : conversation login (pre ++ .connection fd :: .packet fd mPacket :: e :: post) = some p) :
    e = .close fd := by
  obtain ⟨q, q', -, next, rest⟩ := conversation_split read
  rw [after_cons] at rest
  obtain ⟨r, next', rest⟩ := Option.bind_eq_some_iff.mp rest
  rw [after_cons] at rest
  obtain ⟨r', next'', -⟩ := Option.bind_eq_some_iff.mp rest
  rcases Phase.onward_cases next with ⟨_, _, _, _, rfl⟩ | ⟨_, _, other, _⟩ | step
  · cases next'
  · cases other
  cases step with
  | attempt attempt => exact attempt.elim
  | failed => cases next'
  | connected =>
    rcases Phase.onward_cases next' with ⟨_, _, other, _⟩ | ⟨_, other, _⟩ | step
    · cases other
    · cases other
    cases step
    rcases Phase.onward_cases next'' with ⟨_, _, other, _⟩ | ⟨_, other, _⟩ | step
    · cases other
    · cases other
    cases step with
    | rejected => rfl
    | login accepted => exact absurd version accepted

end Logs

/-- In every run of the daemon, over any number of connections, with any answers and wherever it
stops: what it does on the network follows one protocol. Nothing but the login line of the
configuration is ever sent, each time right after the identification packet of the same
connection, which is none of the rejected ones; from then on there are only packets of this
connection until it is closed. A connection whose identification is rejected is closed next. -/
theorem main_conversation [CDouble F] (format : F → List Char) (config : Config F)
    (script : List Ext) :
    let log := (Main.after format config script).net.log
    (log = [] ∨ ∃ login p, config.loginText format = some login ∧ conversation login log = some p) ∧
    (∀ pre fd line post, log = pre ++ .write fd line :: post →
      config.loginText format = some line ∧
      (∃ before mPacket, pre = before ++ [.connection fd, .packet fd mPacket] ∧ ¬ Rejected mPacket) ∧
      ∀ mid e rest, post = mid ++ e :: rest → (∀ x ∈ mid, ∃ mPacket, x = .packet fd mPacket) →
        (∃ mPacket, e = .packet fd mPacket) ∨ e = .close fd) ∧
    (∀ pre fd mPacket e post, log = pre ++ .connection fd :: .packet fd mPacket :: e :: post →
      Rejected mPacket → e = .close fd) := by
  intro log
  have converses : (Main.after format config script).Converses format config :=
    main_converses format config script
  refine ⟨?_, ?_, ?_⟩
  · rcases converses with silent | ⟨login, configured, p, read⟩
    · exact .inl silent
    · exact .inr ⟨login, p, configured, read⟩
  · intro pre fd line post split
    rcases converses with silent | ⟨login, configured, p, read⟩
    · exact absurd (split.symm.trans silent) (by simp)
    · rw [show (Main.after format config script).net.log = _ from split] at read
      obtain ⟨rfl, identified, rest⟩ := conversation_write read
      refine ⟨configured, identified, ?_⟩
      rintro mid e tail rfl packets
      exact conversation_loggedIn rest packets
  · intro pre fd mPacket e post split version
    rcases converses with silent | ⟨login, configured, p, read⟩
    · exact absurd (split.symm.trans silent) (by simp)
    · rw [show (Main.after format config script).net.log = _ from split] at read
      exact conversation_rejected version read

end AprsWx
