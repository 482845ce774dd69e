import AprsWx.Conversation

/-!
# How long the daemon stays with a server

After the login the daemon takes a number of packets from a server, and goes on to the next
connection. An empty packet, where the server has been silent for too long, has it go on sooner.

* `Stay`: where the daemon stands with a server, as a monitor of the log.
* `main_stays`: the monitor reads the log of every run of the daemon.
-/

namespace AprsWx

open Double Prog Trace

variable {F : Type}

/-! ## The monitor -/

/-- Where the daemon stands with a server: not logged in, with a login that is not answered, with
the packets it has taken, or with an empty one. After `closed` the daemon does no more. -/
inductive Stay
  | away
  | asked
  | taken (packetCount : Nat)
  | emptied
  | closed

/-- What may come next in the log. -/
def Stay.next (serverCycleRate : Option Nat) : Stay → Sys → Option Stay
  | .away, .write _ _ => some .asked
  | .away, _ => some .away
  | .asked, .packet _ _ => some (.taken 0)
  | .taken packetCount, .packet _ mPacket =>
    if packetCount < serverCycleRate.getD 0 then
      some (if mPacket = StdString.empty then .emptied else .taken (packetCount + 1))
    else none
  -- a connection that is closed before it has had its packets is the last one
  | .taken packetCount, .close _ =>
    some (if serverCycleRate = some packetCount then .away else .closed)
  | .emptied, .close _ => some .away
  | _, _ => none

/-- Where the daemon stands after a log. -/
def stay (serverCycleRate : Option Nat) (log : List Sys) : Option Stay :=
  after (Stay.next serverCycleRate) .away log

/-- A connection that the loop over the packets has left. -/
def Stay.Spent (serverCycleRate : Option Nat) : Stay → Prop
  | .taken packetCount => serverCycleRate = some packetCount
  | .emptied => True
  | _ => False

/-- A connection that may be closed, or none. -/
def Stay.MayClose : Stay → Prop
  | .asked => False
  | .closed => False
  | _ => True

section Monitor

variable {rate : Option Nat} {s t : Net F} {q : Stay} {fd : Int}

theorem stay_concat {e : Sys} (log : t.log = s.log ++ [e]) (start : stay rate s.log = some q) :
    stay rate t.log = q.next rate e := by
  unfold stay at start ⊢
  rw [log, after_concat start]

theorem Stay.Spent.next_close (spent : q.Spent rate) : q.next rate (.close fd) = some .away := by
  cases q with
  | taken packetCount => exact congrArg some (if_pos spent)
  | emptied => rfl
  | away => exact spent.elim
  | asked => exact spent.elim
  | closed => exact spent.elim

theorem Stay.MayClose.next_close (mayClose : q.MayClose) (rate : Option Nat) (fd : Int) :
    ∃ p, q.next rate (.close fd) = some p := by
  cases q with
  | away => exact ⟨_, rfl⟩
  | taken packetCount => exact ⟨_, rfl⟩
  | emptied => exact ⟨_, rfl⟩
  | asked => exact mayClose.elim
  | closed => exact mayClose.elim

end Monitor

/-! ## Opening a connection -/

/-- The log goes on without a login. -/
def Net.Unasked (s t : Net F) : Prop :=
  ∃ l, t.log = s.log ++ l ∧ ∀ fd line, .write fd line ∉ l

instance : Std.Refl (Net.Unasked (F := F)) := ⟨fun s => ⟨[], by simp, by simp⟩⟩

instance : IsTrans (Net F) Net.Unasked := by
  refine ⟨?_⟩
  rintro s t u ⟨l, st, unasked⟩ ⟨l', tu, unasked'⟩
  refine ⟨l ++ l', by rw [tu, st, List.append_assoc], fun fd line mem => ?_⟩
  rcases List.mem_append.mp mem with mem | mem
  · exact unasked fd line mem
  · exact unasked' fd line mem

/-- A program that sends no login. -/
abbrev Unasking {α : Type} (x : NetM F α) : Prop := Moves Net.Unasked (fun _ => True) x

theorem Net.Unasked.of_log {s t : Net F} (log : t.log = s.log) : s.Unasked t :=
  ⟨[], by rw [log, List.append_nil], by simp⟩

theorem answer_unasked {α : Type} (f : Ext → Option α) : Unasking (F := F) (answer f) := fun _ =>
  ends_answer (fun _ _ => .of_log rfl) ⟨.of_log rfl, trivial⟩

theorem modifySock_unasked (f : AprsIs F → AprsIs F) : Unasking (modifySock f) :=
  .modify fun _ => .of_log rfl

theorem getSock_unasked : Unasking (F := F) getSock := fun s => Std.Refl.refl (r := Net.Unasked) s

theorem logSys_unasked {e : Sys} (other : ∀ fd line, e ≠ .write fd line) :
    Unasking (F := F) (logSys e) :=
  .modify fun _ => ⟨[e], rfl, fun fd line mem => other fd line (List.mem_singleton.mp mem).symm⟩

theorem getPacket_unasked : Unasking (F := F) getPacket := by
  intro s
  refine (getPacket_ends s).mono ?_ fun e t stopped => ⟨.of_log stopped.1.log, trivial⟩
  rintro mPacket t ⟨log, -⟩
  exact ⟨_, log, by simp⟩

theorem close_unasked : Unasking (F := F) close := by
  refine .bind getSock_unasked fun sock => .ite (.bind (logSys_unasked fun _ _ same => by cases same) fun _ => ?_) .pure
  exact modifySock_unasked _

theorem tryPeers_unasked (pref : Nat) (peers : List AddrInfo) :
    Unasking (F := F) (tryPeers pref peers) := by
  induction peers with
  | nil => exact .pure
  | cons peer peers ih =>
    have dials : ∀ fd, Unasking (F := F) (sysBindConnect fd peer) := fun fd => by
      unfold sysBindConnect
      refine .ite (.bind .pure fun _ => ?_) (.bind (answer_unasked _) fun _ => ?_)
      · exact .bind (logSys_unasked fun _ _ same => by cases same) fun _ => .pure
      · exact .bind (logSys_unasked fun _ _ same => by cases same) fun _ => .pure
    unfold tryPeers
    refine .ite (.bind ?_ fun fd => .bind (modifySock_unasked _) fun _ => ?_) ih
    · exact .bind (answer_unasked _) fun _ => .bind (logSys_unasked fun _ _ same => by cases same) fun _ => .pure
    · refine .bind (dials fd) fun success => .ite (modifySock_unasked _) ?_
      refine .bind (logSys_unasked fun _ _ same => by cases same) fun _ => ?_
      exact .bind (modifySock_unasked _) fun _ => ih

theorem tryPrefs_unasked (peers : List AddrInfo) (prefs : List Nat) :
    Unasking (F := F) (tryPrefs peers prefs) := by
  induction prefs with
  | nil => exact .pure
  | cons pref prefs ih =>
    exact .bind (tryPeers_unasked _ _) fun _ => .bind getSock_unasked fun _ => .ite ih .pure

theorem connect_unasked (prefs : List Nat) : Unasking (F := F) (connect prefs) := by
  unfold connect findPeerInfo
  refine .bind (.bind (answer_unasked _) fun r => ?_) fun _ => ?_
  · cases r with
    | none => exact .throw trivial
    | some peers => exact .bind (modifySock_unasked _) fun _ => tryPrefs_unasked _ _
  · refine .bind (modifySock_unasked _) fun _ => .bind getSock_unasked fun _ => ?_
    exact .bind (logSys_unasked fun _ _ same => by cases same) fun _ => .pure

theorem findServer_unasked (fuel : Nat) : Unasking (F := F) (findServer fuel) := by
  induction fuel with
  | zero => exact .throw trivial
  | succ fuel ih =>
    unfold findServer
    refine .bind getSock_unasked fun sock => .ite .pure (.bind (connect_unasked _) fun fd => ?_)
    refine .ite .pure (.bind getPacket_unasked fun _ => .bind (modifySock_unasked _) fun _ => ?_)
    exact .bind getSock_unasked fun _ => .ite (.bind close_unasked fun _ => ih) ih

/-- Where the daemon is with no server. -/
def Net.Away (rate : Option Nat) (s : Net F) : Prop := stay rate s.log = some .away

def Net.Stays (rate : Option Nat) (s : Net F) : Prop := ∃ q, stay rate s.log = some q

/-- The connection may be closed where the daemon stands. -/
def Net.MayClose (rate : Option Nat) (s : Net F) : Prop :=
  ∃ q, stay rate s.log = some q ∧ q.MayClose

section Stays

variable {rate : Option Nat} {login : List Char} {s t : Net F}

theorem Net.Away.mayClose (away : s.Away rate) : s.MayClose rate := ⟨.away, away, trivial⟩

theorem Net.MayClose.stays (mayClose : s.MayClose rate) : s.Stays rate := by
  obtain ⟨q, read, -⟩ := mayClose
  exact ⟨q, read⟩

theorem Net.Away.unasked (away : s.Away rate) (unasked : s.Unasked t) : t.Away rate := by
  obtain ⟨l, log, none⟩ := unasked
  unfold Net.Away stay at away ⊢
  rw [log, after_append, away, Option.bind_some]
  refine after_of_stay fun e mem => ?_
  cases e with
  | write fd line => exact absurd mem (none fd line)
  | socket => rfl
  | bindConnect => rfl
  | close => rfl
  | connection => rfl
  | packet => rfl

/-- `close` where the daemon stands at `q`. -/
theorem stay_close {q : Stay} (read : stay rate s.log = some q) :
    stay rate (final (close.run s)).log = some q ∨
      stay rate (final (close.run s)).log = q.next rate (.close s.sock.sockFd) := by
  rw [close_run]
  split
  · exact .inr (stay_concat (s := s) rfl read)
  · exact .inl read

theorem Net.MayClose.close (mayClose : s.MayClose rate) : (final (close.run s)).Stays rate := by
  obtain ⟨q, read, mayClose⟩ := mayClose
  obtain ⟨p, next⟩ := mayClose.next_close rate s.sock.sockFd
  rcases stay_close read with same | closed
  · exact ⟨q, same⟩
  · exact ⟨p, closed.trans next⟩

theorem Net.Away.close (away : s.Away rate) : (final (close.run s)).Away rate := by
  rcases stay_close away with same | closed
  · exact same
  · exact closed

/-- A connection is closed after its last packet. -/
theorem Stay.Spent.away {q : Stay} (spent : q.Spent rate) (read : stay rate s.log = some q)
    (held : 0 ≤ s.sock.sockFd) : (final (close.run s)).Away rate := by
  rw [close_run, if_pos held]
  exact (stay_concat (s := s) rfl read).trans spent.next_close

/-- `openConnection` has an answer to its login, or has sent none. An exception comes before the
login only. -/
theorem openConnection_stays (s : Net F) (away : s.Away rate)
    (start : conversation login s.log = some .connecting) (closed : s.sock.sockFd < 0)
    (fresh : s.sock.mGoodServer = false) (valid : s.sock.validate = login) :
    Ends openConnection s
      (fun opened t => if opened then stay rate t.log = some (.taken 0) else t.Away rate)
      (fun e t => t.Stays rate ∧ (e.unwinds → t.Away rate)) := by
  unfold openConnection
  rw [ends_bind, ends_get, ends_bind]
  refine ((findServer_unasked _ s).and
    (findServer_conversation _ s start closed fresh valid)).mono ?_ ?_
  · rintro good t ⟨unasked, found⟩
    have away : t.Away rate := away.unasked unasked
    cases good with
    | false =>
      rw [if_neg Bool.false_ne_true, ends_pure, if_neg Bool.false_ne_true]
      exact away
    | true =>
      rw [if_pos rfl] at found ⊢
      obtain ⟨-, -, -, -, -, type⟩ := found
      simp only [putLine, ends_bind, ends_getSock]
      refine ends_answer (fun n script => ?_) ⟨⟨_, away⟩, pending_stays⟩
      rw [ends_logSys, ends_pure]
      have asked : stay rate (t.log ++ [.write t.sock.sockFd t.sock.validate]) = some .asked :=
        stay_concat (s := t) (t := ⟨t.sock, script, _⟩) rfl away
      refine ((getPacket_ends ⟨t.sock, script, _⟩).and (getPacket_connected _ type)).mono ?_ ?_
      · rintro mPacket u ⟨⟨log, -⟩, -⟩
        rw [ends_pure, if_pos rfl]
        exact stay_concat log asked
      · rintro e u ⟨⟨reads, -⟩, stays⟩
        refine ⟨⟨.asked, by rw [reads.log]; exact asked⟩, fun unwinds => ?_⟩
        rw [stays] at unwinds
        cases unwinds
  · rintro e t ⟨⟨unasked, -⟩, -⟩
    have away : t.Away rate := away.unasked unasked
    exact ⟨⟨_, away⟩, fun _ => away⟩

end Stays

/-! ## The daemon -/

section Daemon

variable [CDouble F] {config : Config F} {login : List Char} {s : Main F}

/-- The loop over the packets counts them. -/
theorem packetLoop_stays (fuel packetCount : Nat) (s : Main F)
    (taken : stay config.serverCycleRate s.net.log = some (.taken packetCount))
    (most : ∀ rate, config.serverCycleRate = some rate → packetCount ≤ rate) :
    Ends (packetLoop config fuel packetCount) s
      (fun returns t => if returns then t.net.MayClose config.serverCycleRate
        else ∃ q, stay config.serverCycleRate t.net.log = some q ∧ q.Spent config.serverCycleRate)
      (fun _ t => t.net.MayClose config.serverCycleRate) := by
  have handles : ∀ {q : Stay} {t u : Main F}, t.Handles u →
      stay config.serverCycleRate t.net.log = some q →
      stay config.serverCycleRate u.net.log = some q := fun handles read => by
    rw [Net.Reads.log handles]
    exact read
  induction fuel generalizing packetCount s with
  | zero => exact ⟨_, taken, trivial⟩
  | succ fuel ih =>
    unfold packetLoop
    rw [ends_bind]
    refine ends_value (fun rate configured => ?_) ⟨_, taken, trivial⟩
    split
    · next below =>
      rw [ends_bind, onNet, ends_zoom]
      refine (getPacket_ends _).mono ?_ ?_
      · rintro mPacket net ⟨log, -⟩
        have read := stay_concat log taken
        rw [Stay.next, configured, Option.getD_some, if_pos below] at read
        by_cases empty : mPacket = StdString.empty
        · -- the loop ends at its next test
          rw [if_pos empty] at read
          rw [if_neg (not_not.mpr empty)]
          cases fuel with
          | zero => exact ⟨.emptied, by rw [configured]; exact read, trivial⟩
          | succ fuel =>
            unfold packetLoop
            rw [ends_bind, configured, value_some, ends_pure, if_neg (Nat.lt_irrefl rate), ends_pure,
              if_neg Bool.false_ne_true]
            exact ⟨.emptied, read, trivial⟩
        · rw [if_neg empty] at read
          rw [if_pos empty, ends_bind]
          have counted : stay config.serverCycleRate (netLens.set net s).net.log =
              some (.taken (packetCount + 1)) := by
            rw [configured]
            exact read
          refine (handlePacket_handles config _).mono ?_ ?_
          · intro returns t handled
            have counted := handles handled counted
            split
            · rw [ends_pure, if_pos rfl]
              exact ⟨_, counted, trivial⟩
            · refine ih _ _ counted fun rate' configured' => ?_
              rw [configured] at configured'
              exact Option.some.inj configured' ▸ below
          · rintro e t ⟨handled, -⟩
            exact ⟨_, handles handled counted, trivial⟩
      · rintro e net ⟨reads, -⟩
        have same : (netLens.set net s).net.log = s.net.log := reads.log
        exact ⟨.taken packetCount, by rw [same]; exact taken, trivial⟩
    · next enough =>
      rw [ends_pure, if_neg Bool.false_ne_true]
      have full : packetCount = rate := Nat.le_antisymm (most rate configured) (Nat.le_of_not_lt enough)
      exact ⟨_, taken, by rw [full]; exact configured⟩

omit [CDouble F] in
/-- `sock.close()` does what the destructor does. -/
theorem ends_onNet_close {Q : PUnit → Main F → Prop} {E : Stop → Main F → Prop} :
    Ends (onNet close) s Q E ↔ Q ⟨⟩ s.destroyed := by
  unfold onNet Main.destroyed
  rw [ends_zoom, ends_of_ok (close_run _), close_run]
  rfl

theorem useSock_stays (away : s.net.Away config.serverCycleRate)
    (start : conversation login s.net.log = some .connecting) (closed : s.net.sock.sockFd < 0)
    (fresh : s.net.sock.mGoodServer = false) (valid : s.net.sock.validate = login) :
    Ends (useSock config) s
      (fun returns t => if returns then t.net.MayClose config.serverCycleRate
        else t.net.Away config.serverCycleRate)
      (fun e t => t.net.Stays config.serverCycleRate ∧
        (e.unwinds → t.net.MayClose config.serverCycleRate)) := by
  unfold useSock
  rw [ends_bind, onNet, ends_zoom]
  refine ((openConnection_stays _ away start closed fresh valid).and
    (openConnection_conversation _ start closed fresh valid)).mono ?_ ?_
  · rintro opened net ⟨found, listening⟩
    cases opened with
    | false =>
      rw [if_neg Bool.false_ne_true] at found
      unfold receivePackets
      rw [if_neg Bool.false_ne_true, ends_bind, ends_pure, if_neg Bool.false_ne_true, ends_bind,
        ends_onNet_close, ends_pure, if_neg Bool.false_ne_true]
      exact Net.Away.close found
    | true =>
      rw [if_pos rfl] at found listening
      obtain ⟨loggedIn, held, -⟩ := listening
      unfold receivePackets
      rw [if_pos rfl, ends_bind, ends_bind, ends_get]
      refine ((packetLoop_stays _ 0 (netLens.set net s) found fun _ _ => Nat.zero_le _).and
        (packetLoop_listens _ 0 (netLens.set net s) ⟨loggedIn, held⟩)).mono ?_ ?_
      · rintro returns t ⟨left, listens⟩
        cases returns with
        | true => exact left
        | false =>
          rw [if_neg Bool.false_ne_true] at left ⊢
          obtain ⟨q, read, spent⟩ := left
          rw [ends_bind, ends_onNet_close, ends_pure, if_neg Bool.false_ne_true]
          exact spent.away read listens.held
      · rintro e t ⟨mayClose, -⟩
        exact ⟨mayClose.stays, fun _ => mayClose⟩
  · rintro e net ⟨⟨stays, away⟩, -⟩
    exact ⟨stays, fun unwinds => (away unwinds).mayClose⟩

/-- A turn of the outer loop ends away from the server, unless it is the last one. -/
theorem session_stays {callsign passCode filter : List Char}
    (configured : config.callsign = some callsign) (configured' : config.passCode = some passCode)
    (nonempty : filter ≠ []) (away : s.net.Away config.serverCycleRate)
    (start : conversation (loginLine callsign passCode filter) s.net.log = some .connecting) :
    Ends (session config filter) s
      (fun returns t => t.net.Stays config.serverCycleRate ∧
        (returns = false → t.net.Away config.serverCycleRate))
      (fun _ t => t.net.Stays config.serverCycleRate) := by
  unfold session
  rw [configured, configured', value_some, value_some]
  simp only [ends_bind, ends_pure]
  rw [onNet, ends_zoom]
  refine ends_answer (fun now script => ?_) ⟨_, away⟩
  rw [onNet, ends_zoom, ends_modifySock, ends_andFinally]
  refine (useSock_stays (s := { s with net := ⟨_, script, s.net.log⟩ }) away start
    (show (-1 : Int) < 0 by decide) rfl
    (newSock_validate callsign passCode filter now nonempty)).mono ?_ ?_
  · intro returns t left
    cases returns with
    | true => exact ⟨Net.MayClose.close left, fun same => by cases same⟩
    | false =>
      have away : t.destroyed.net.Away config.serverCycleRate := Net.Away.close left
      exact ⟨⟨_, away⟩, fun _ => away⟩
  · rintro e t ⟨stays, mayClose⟩
    split
    · next throws => exact (mayClose throws).close
    · exact stays

theorem mainLoop_stays {callsign passCode filter : List Char}
    (configured : config.callsign = some callsign) (configured' : config.passCode = some passCode)
    (nonempty : filter ≠ []) (fuel : Nat) {s : Main F} (away : s.net.Away config.serverCycleRate)
    (start : conversation (loginLine callsign passCode filter) s.net.log = some .connecting) :
    Ends (mainLoop config filter fuel) s (fun _ t => t.net.Stays config.serverCycleRate)
      (fun _ t => t.net.Stays config.serverCycleRate) := by
  induction fuel generalizing s with
  | zero => exact ⟨_, away⟩
  | succ fuel ih =>
    unfold mainLoop
    rw [ends_bind, onNet, ends_zoom]
    refine ends_answer (fun running script => ?_) ⟨_, away⟩
    split
    · rw [ends_bind]
      refine ((session_stays configured configured' nonempty
        (s := { s with net := ⟨s.net.sock, script, s.net.log⟩ }) away start).and
        (session_conversation configured configured' nonempty start)).mono ?_ fun _ _ left => left.1
      rintro returns t ⟨⟨stays, away⟩, next⟩
      cases returns with
      | true => exact stays
      | false => exact ih (away rfl) next
    · exact ⟨_, away⟩

theorem mainTry_stays (format : F → List Char) (script : List Ext) :
    Ends (mainTry format config) (.start script) (fun _ t => t.net.Stays config.serverCycleRate)
      (fun _ t => t.net.Stays config.serverCycleRate) := by
  have away : (Main.start script : Main F).net.Away config.serverCycleRate := rfl
  have stays : (Main.start script : Main F).net.Stays config.serverCycleRate := ⟨_, away⟩
  unfold mainTry
  split
  · exact stays
  · rw [ends_bind]
    refine ends_value (fun qthLatitude lat => ?_) stays
    rw [ends_bind]
    refine ends_value (fun qthLongitude lon => ?_) stays
    rw [ends_bind]
    refine ends_value (fun filterRadius radius => ?_) stays
    rw [ends_bind]
    refine ends_value (fun callsign call => ?_) stays
    rw [ends_bind, ends_get]
    cases pass : config.passCode with
    | none =>
      have silent : ∀ {t : Main F}, t.net.log = [] → t.net.Stays config.serverCycleRate :=
        fun silent => ⟨.away, by rw [silent]; rfl⟩
      exact (mainLoop_silent pass _ _ rfl).mono (fun _ _ none => silent none) fun _ _ none => silent none
    | some passCode =>
      have nonempty : filterText format qthLatitude qthLongitude filterRadius ≠ [] := by
        unfold filterText
        simp
      exact mainLoop_stays call pass nonempty _ away rfl

theorem main_stays (format : F → List Char) (config : Config F) (script : List Ext) :
    (Main.after format config script).net.Stays config.serverCycleRate :=
  Main.after_of (I := fun s => s.net.Stays config.serverCycleRate) (mainTry_stays format script)

end Daemon

/-! ## What the monitor says of a log -/

/-- The packets that are taken of a connection after its login, and the log after them: all of
them but the last one have a text, and when the daemon goes on after the connection, it has had as
many as it is configured to take or the last one is empty. -/
structure Visit (rate : Option Nat) (fd : Int) (packets : List StdString) (rest : List Sys) : Prop where
  most : packets.length ≤ rate.getD 0
  texts : ∀ mPacket ∈ packets.dropLast, mPacket ≠ StdString.empty
  closed : rest = [] ∨ ∃ more, rest = .close fd :: more ∧
    (more ≠ [] → rate = some packets.length ∨ packets.getLast? = some StdString.empty)

/-- Each login of a log is followed by its answer and by the packets of the connection. -/
def Rotates (rate : Option Nat) (log : List Sys) : Prop :=
  ∀ pre fd line post, log = pre ++ .write fd line :: post → post = [] ∨
    ∃ answer packets rest, post = .packet fd answer :: (packets.map (.packet fd) ++ rest) ∧
      Visit rate fd packets rest

section Logs

variable {rate : Option Nat} {login : List Char} {q : Stay} {p : Phase} {fd : Int} {post : List Sys}

/-- After the end of the daemon there is nothing. -/
theorem closed_last (read : after (Stay.next rate) .closed post = some q) : post = [] := by
  cases post with
  | nil => rfl
  | cons e post => cases read

/-- After a login there are packets, or the connection is closed. -/
theorem onward_loggedIn {e : Sys} (next : (Phase.loggedIn fd).onward login e = some p) :
    (∃ mPacket, e = .packet fd mPacket ∧ p = .loggedIn fd) ∨ e = .close fd := by
  rcases Phase.onward_cases next with ⟨_, _, other, _⟩ | ⟨_, same, closed, _⟩ | step
  · cases other
  · cases same
    exact .inr closed
  · cases step
    exact .inl ⟨_, rfl, rfl⟩

/-- What there is after a connection that is left or goes on, with the packets before it. -/
def Closes (rate : Option Nat) (fd : Int) (packetCount : Nat) (packets : List StdString)
    (rest : List Sys) : Prop :=
  rest = [] ∨ ∃ more, rest = .close fd :: more ∧ (more ≠ [] →
    rate = some (packetCount + packets.length) ∨ packets.getLast? = some StdString.empty)

/-- After an empty packet the connection is closed. -/
theorem emptied_closes {packetCount : Nat} (read : after (Stay.next rate) .emptied post = some q)
    (phase : after (Phase.onward login) (.loggedIn fd) post = some p) :
    Closes rate fd packetCount [StdString.empty] post := by
  cases post with
  | nil => exact .inl rfl
  | cons e post =>
    rw [after_cons] at read phase
    obtain ⟨q', next, -⟩ := Option.bind_eq_some_iff.mp read
    obtain ⟨p', onward, -⟩ := Option.bind_eq_some_iff.mp phase
    rcases onward_loggedIn onward with ⟨mPacket, rfl, -⟩ | rfl
    · cases next
    · exact .inr ⟨post, rfl, fun _ => .inr rfl⟩

/-- The log from where `packetCount` packets have been taken. -/
theorem taken_visit {packetCount : Nat}
    (read : after (Stay.next rate) (.taken packetCount) post = some q)
    (phase : after (Phase.onward login) (.loggedIn fd) post = some p) :
    ∃ packets rest, post = packets.map (.packet fd) ++ rest ∧
      (packets ≠ [] → packetCount + packets.length ≤ rate.getD 0) ∧
      (∀ mPacket ∈ packets.dropLast, mPacket ≠ StdString.empty) ∧
      Closes rate fd packetCount packets rest := by
  induction post generalizing packetCount with
  | nil => exact ⟨[], [], rfl, fun some => absurd rfl some, by simp, .inl rfl⟩
  | cons e post ih =>
    rw [after_cons] at read phase
    obtain ⟨q', next, reads⟩ := Option.bind_eq_some_iff.mp read
    obtain ⟨p', onward, phases⟩ := Option.bind_eq_some_iff.mp phase
    rcases onward_loggedIn onward with ⟨mPacket, rfl, rfl⟩ | rfl
    · obtain ⟨below, next⟩ := Option.ite_none_right_eq_some.mp next
      by_cases empty : mPacket = StdString.empty
      · rw [if_pos empty] at next
        obtain rfl := Option.some.inj next
        subst empty
        exact ⟨[StdString.empty], post, rfl, fun _ => below, by simp, emptied_closes reads phases⟩
      · rw [if_neg empty] at next
        obtain rfl := Option.some.inj next
        obtain ⟨packets, rest, rfl, most, texts, closes⟩ := ih reads phases
        refine ⟨mPacket :: packets, rest, rfl, fun _ => ?_, ?_, ?_⟩
        · rcases eq_or_ne packets [] with rfl | some
          · exact below
          · have := most some
            rw [List.length_cons]
            omega
        · rcases eq_or_ne packets [] with rfl | some
          · simp
          · rw [List.dropLast_cons_of_ne_nil some]
            exact List.forall_mem_cons.mpr ⟨empty, texts⟩
        · rcases closes with none | ⟨more, rfl, full⟩
          · exact .inl none
          · refine .inr ⟨more, rfl, fun goesOn => ?_⟩
            rcases full goesOn with enough | last
            · exact .inl (by rw [enough, List.length_cons, Nat.add_assoc, Nat.add_comm 1])
            · refine .inr ?_
              rw [List.getLast?_cons, last]
              rfl
    · refine ⟨[], _, rfl, fun some => absurd rfl some, by simp, .inr ⟨post, rfl, fun goesOn => ?_⟩⟩
      by_cases full : rate = some packetCount
      · exact .inl full
      · rw [Stay.next, if_neg full] at next
        obtain rfl := Option.some.inj next
        exact absurd (closed_last reads) goesOn

/-- What the two monitors say of a log. -/
theorem rotates_of_read {log : List Sys} (read : stay rate log = some q)
    (phase : conversation login log = some p) : Rotates rate log := by
  rintro pre fd line post rfl
  obtain ⟨-, -, phase⟩ := conversation_write phase
  obtain ⟨q', before, read⟩ := after_split read
  rw [after_cons] at read
  obtain ⟨q'', next, read⟩ := Option.bind_eq_some_iff.mp read
  cases q' with
  | away =>
    obtain rfl := Option.some.inj next
    cases post with
    | nil => exact .inl rfl
    | cons e post =>
      rw [after_cons] at read phase
      obtain ⟨q', next, read⟩ := Option.bind_eq_some_iff.mp read
      obtain ⟨p', onward, phase⟩ := Option.bind_eq_some_iff.mp phase
      rcases onward_loggedIn onward with ⟨answer, rfl, rfl⟩ | rfl
      · obtain rfl := Option.some.inj next
        obtain ⟨packets, rest, rfl, most, texts, closes⟩ := taken_visit read phase
        refine .inr ⟨answer, packets, rest, rfl, ?_, texts, ?_⟩
        · rcases eq_or_ne packets [] with rfl | some
          · exact Nat.zero_le _
          · simpa using most some
        · simpa [Closes] using closes
      · cases next
  | asked => cases next
  | taken packetCount => cases next
  | emptied => cases next
  | closed => cases next

end Logs

/-- In every run of the daemon, with any answers and wherever it stops: after each login it takes
the answer and then at most as many packets of the connection as `serverCycleRate` says, an empty
one only as the last. It goes on to another connection only where it has taken as many or has come
to an empty packet; a connection that is closed earlier is the last thing that it does. -/
theorem main_rotates [CDouble F] (format : F → List Char) (config : Config F) (script : List Ext) :
    Rotates config.serverCycleRate (Main.after format config script).net.log := by
  obtain ⟨q, read⟩ := main_stays format config script
  rcases main_converses format config script with silent | ⟨login, -, p, phase⟩
  · rw [silent]
    intro pre fd line post split
    exact absurd split (by simp)
  · exact rotates_of_read read phase

end AprsWx
