import AprsWx.Main
import AprsWx.Session

/-!
# Descriptors

What every run of the daemon does with the descriptors that `::socket` returns.

* `decode_reads`: `decode` changes nothing but the cursors of the object.
* `Net.Holds`: the descriptor that the log leaves open is the one that `sock_fd` holds.
* `main_descriptors`: at every moment one descriptor is open at most, it is the one that
  `sock_fd` holds, and `main` returns when all are closed.
-/

namespace AprsWx

open Double Prog Trace

variable {F : Type}

/-! ## Decoding -/

theorem moved_reads (s : AprsIs F) (n : Nat) : s.Reads (s.moved n) := ⟨_, _, _, _, rfl⟩

theorem substr_reads (s : StdString) (pos n : Nat) :
    Moving (AprsIs.Reads (F := F)) (s.substr pos n) := .ite .pure (.throw ⟨nofun, nofun⟩)

theorem at_reads (s : StdString) (i : Nat) : Moving (AprsIs.Reads (F := F)) (s.at_ i) :=
  .ite .pure (.throw ⟨nofun, nofun⟩)

theorem decodeCharAtIndex_reads : Moving (AprsIs.Reads (F := F)) decodeCharAtIndex :=
  .get_set (fun s => moved_reads s _) (fun _ => at_reads _ _)

theorem charAtIndex_reads (offset : Nat) : Moving (AprsIs.Reads (F := F)) (charAtIndex offset) :=
  .bind .get fun _ => at_reads _ _

theorem positionAfter_reads (c : Char) : Moving (AprsIs.Reads (F := F)) (positionAfter c) := by
  unfold positionAfter positionAt
  refine .bind (.get_set (fun s => moved_reads s _) fun _ => .pure) fun _ => ?_
  exact .bind (.modify fun s => moved_reads s _) fun _ => .pure

theorem stringTerminateBy_reads (c : Char) : Moving (AprsIs.Reads (F := F)) (stringTerminateBy c) :=
  .get_set (fun _ => ⟨_, _, _, _, rfl⟩) (fun _ => substr_reads _ _ _)

theorem decodeString_reads (length : Nat) : Moving (AprsIs.Reads (F := F)) (decodeString length) := by
  intro s
  unfold decodeString
  rw [ends_bind, ends_get, ends_bind]
  unfold StdString.substr
  split
  · exact moved_reads s _
  · exact ⟨AprsIs.Reads.refl s, nofun, nofun⟩

theorem decodeValueLong_reads (len : Nat) : Moving (AprsIs.Reads (F := F)) (decodeValueLong len) := by
  unfold decodeValueLong
  refine .bind .get fun s => .bind (substr_reads _ _ _) fun _ => ?_
  exact .bind (.modify fun s => moved_reads s _) fun _ => .pure

section Decoding

variable [CDouble F]

theorem decodeValueDouble_reads (len : Nat) (factor : F) :
    Moving AprsIs.Reads (decodeValueDouble len factor) := by
  unfold decodeValueDouble
  refine .bind .get fun s => .bind (substr_reads _ _ _) fun _ => .bind ?_ fun _ => ?_
  · exact .ite .pure (.ite (.throw ⟨nofun, nofun⟩) .pure)
  · exact .bind (.modify fun s => moved_reads s _) fun _ => .pure

theorem decodeCoordinate_reads (coordinateType : CoordinateType) :
    Moving (AprsIs.Reads (F := F)) (decodeCoordinate coordinateType) :=
  .bind (decodeValueLong_reads _) fun _ => .bind (decodeValueDouble_reads _ _) fun _ =>
    .bind decodeCharAtIndex_reads fun _ => .pure

theorem decodeWeatherValue_reads (wxReport : AprsWxReport F) (wxSym : WxSym) (valueFlag : Char)
    (factor : F) : Moving AprsIs.Reads (decodeWeatherValue wxReport wxSym valueFlag factor) :=
  .bind (decodeValueDouble_reads _ _) fun _ => .pure

theorem decodeFlag_reads (wxReport : AprsWxReport F) (flag : Char) :
    Moving AprsIs.Reads (decodeFlag wxReport flag) := by
  unfold decodeFlag
  cases findItem flag with
  | none => exact .pure
  | some found => exact .bind (decodeWeatherValue_reads _ _ _ _) fun _ => .pure

theorem weatherLoop_reads (fuel : Nat) (wxReport : AprsWxReport F) :
    Moving AprsIs.Reads (weatherLoop fuel wxReport) := by
  induction fuel generalizing wxReport with
  | zero => exact .throw ⟨nofun, nofun⟩
  | succ fuel ih =>
    unfold weatherLoop
    refine .bind .get fun s => .ite (.bind decodeCharAtIndex_reads fun flag => ?_) .pure
    refine .bind (.catching (decodeFlag_reads _ _) ?_) fun next => .ite (ih _) .pure
    intro e y handled
    obtain ⟨-, equal⟩ := Option.ite_none_right_eq_some.mp handled
    obtain rfl := Option.some.inj equal
    exact .pure

theorem setBearingDistance_reads (this other : AprsPosition F) :
    Moving (AprsIs.Reads (F := F)) (this.setBearingDistance other) := by
  have value_reads : ∀ o : Option F,
      Moving (AprsIs.Reads (F := F)) (value .setBearingDistance o) := by
    rintro (_ | v)
    · exact .throw ⟨nofun, nofun⟩
    · exact .pure
  unfold AprsPosition.setBearingDistance
  refine .ite (.bind (value_reads _) fun _ => .bind (value_reads _) fun _ => ?_) .pure
  exact .bind (value_reads _) fun _ => .bind (value_reads _) fun _ => .pure

theorem decodeWeather_reads (wxReport : AprsWxReport F) :
    Moving AprsIs.Reads (decodeWeather wxReport) := by
  unfold decodeWeather decodeWind
  refine .bind (.bind (decodeWeatherValue_reads _ _ _ _) fun _ => ?_) fun _ => ?_
  · exact .bind (.modify fun s => moved_reads s _) fun _ => decodeWeatherValue_reads _ _ _ _
  · refine .bind .get fun _ => .bind (weatherLoop_reads _ _) fun _ => ?_
    refine .bind (.modify fun s => moved_reads s _) fun _ => .bind .get fun _ => ?_
    exact .bind (setBearingDistance_reads _ _) fun _ => .pure

theorem decodePosition_reads (wxReport : AprsWxReport F) :
    Moving AprsIs.Reads (decodePosition wxReport) := by
  unfold decodePosition
  refine .bind (decodeCoordinate_reads _) fun mLat => ?_
  cases mLat with
  | none => exact .pure
  | some mLat =>
    refine .bind decodeCharAtIndex_reads fun _ => .bind (decodeCoordinate_reads _) fun mLon => ?_
    cases mLon with
    | none => exact .pure
    | some mLon =>
      exact .bind decodeCharAtIndex_reads fun _ => .bind (decodeWeather_reads _) fun _ => .pure

/-- `decode` moves cursors, whether it returns or not. -/
theorem decode_reads (now : Int) : Moving (AprsIs.Reads (F := F)) (decode now) := by
  unfold decode decodePayload decodeReport
  refine .bind (stringTerminateBy_reads _) fun name => .bind (positionAfter_reads _) fun _ => ?_
  refine .bind .get fun s => .ite (.bind decodeCharAtIndex_reads fun descriminator => ?_) .pure
  refine .ite (.ite ?_ (decodePosition_reads _)) .pure
  exact .bind (decodeString_reads _) fun _ => decodePosition_reads _

end Decoding

/-! ## The connection -/

/-- The descriptor that the log leaves open is the one that `sock_fd` holds. -/
def Net.Holds (s : Net F) : Prop := descriptors none s.log = some (held s.sock.sockFd)

/-- No descriptor is open. -/
def Net.Closed (s : Net F) : Prop := s.Holds ∧ s.sock.sockFd < 0

theorem Net.Holds.attempts {s t : Net F} (closed : s.Closed) (tried : Attempts s t) : t.Holds := by
  obtain ⟨l, log, -, fds⟩ := tried.log
  have before : descriptors none s.log = some none := by
    rw [closed.1, held_of_neg closed.2]
  unfold Net.Holds
  rw [log, descriptors_append before, fds]

theorem Net.Holds.other {s t : Net F} {e : Sys} (holds : s.Holds) (other : e.op = none)
    (log : t.log = s.log ++ [e]) (same : t.sock.sockFd = s.sock.sockFd) : t.Holds := by
  unfold Net.Holds
  rw [log, descriptors_append holds, descriptors_other other, same]

theorem AprsIs.Reads.sockFd {a b : AprsIs F} (reads : a.Reads b) : b.sockFd = a.sockFd := by
  obtain ⟨_, _, _, _, rfl⟩ := reads
  rfl

theorem Net.Holds.reads {s t : Net F} (holds : s.Holds) (reads : s.Reads t) : t.Holds := by
  unfold Net.Holds
  rw [reads.log, reads.sock.sockFd]
  exact holds

theorem getPacket_holds : Keeps (Net.Holds (F := F)) getPacket := by
  intro s holds
  refine (getPacket_ends s).mono ?_ (fun _ _ stopped => holds.reads stopped.1)
  rintro mPacket t ⟨log, reads, -⟩
  exact holds.other rfl log reads.sockFd

/-- After `close` no descriptor is open. -/
theorem close_closed {s : Net F} (holds : s.Holds) : (final (close.run s)).Closed := by
  rw [close_run]
  by_cases open_ : 0 ≤ s.sock.sockFd
  · rw [if_pos open_]
    refine ⟨?_, show (-1 : Int) < 0 by decide⟩
    show descriptors none (s.log ++ [.close s.sock.sockFd]) = some (held (-1))
    rw [descriptors_append holds, descriptors_close]
    rfl
  · rw [if_neg open_]
    exact ⟨holds, Int.not_le.mp open_⟩

theorem ends_close {s : Net F} {E : Stop → Net F → Prop} (holds : s.Holds) :
    Ends close s (fun _ t => t.Closed) E := by
  rw [ends_of_ok (close_run s)]
  have closed := close_closed holds
  rw [close_run] at closed
  exact closed

/-- The search for a server holds a connection only to one that it has not rejected. -/
theorem findServer_holds (fuel : Nat) (s : Net F) (holds : s.Holds)
    (closed : s.sock.mGoodServer = false → s.sock.sockFd < 0) :
    Ends (findServer fuel) s (fun _ t => t.Holds) (fun _ t => t.Holds) := by
  induction fuel generalizing s with
  | zero => exact holds
  | succ fuel ih =>
    unfold findServer
    rw [ends_bind, ends_getSock]
    split
    · exact holds
    · next searching =>
      -- while there is no good server there is no descriptor that `connect` could overwrite
      have closed : s.Closed := ⟨holds, closed (Bool.eq_false_iff.mpr searching)⟩
      rw [ends_bind]
      refine (connect_ends _ s closed.2).mono ?_ (fun _ _ tried => .attempts closed tried)
      rintro fd t ⟨u, tried, log, sock, -⟩
      have connected : t.Holds := (Net.Holds.attempts closed tried).other rfl log (by rw [sock]; rfl)
      split
      · exact connected
      · refine (getPacket_holds t connected).bind fun mPacket v identified => ?_
        have judged : Net.Holds { v with sock := v.sock.judged } := identified
        rw [ends_bind, ends_modifySock, ends_bind, ends_getSock]
        cases good : v.sock.judged.mGoodServer with
        | true => exact ih _ judged fun bad => by cases good.symm.trans bad
        | false =>
          simp only [Bool.not_false, if_true]
          exact (ends_close judged).bind fun _ w closed => ih w closed.1 fun _ => closed.2

theorem openConnection_holds {s : Net F} (closed : s.Closed) :
    Ends openConnection s (fun _ t => t.Holds) (fun _ t => t.Holds) := by
  unfold openConnection
  rw [ends_bind, ends_get]
  refine (findServer_holds _ s closed.1 fun _ => closed.2).bind fun good t holds => ?_
  split
  · simp only [putLine, ends_bind, ends_getSock]
    refine ends_answer (fun n script => ?_) holds
    rw [ends_logSys, ends_pure]
    have written : Net.Holds ⟨t.sock, script, t.log ++ [.write t.sock.sockFd t.sock.validate]⟩ :=
      holds.other rfl rfl rfl
    exact (getPacket_holds _ written).mono (fun _ _ answered => answered)
      (fun _ _ answered => answered)
  · exact holds

/-! ## Pushes -/

/-- What a push leaves alone: it uses answers and makes entries in the history. -/
structure Main.Pushes (s t : Main F) : Prop where
  sock : t.net.sock = s.net.sock
  log : t.net.log = s.net.log
  weatherAggregator : t.weatherAggregator = s.weatherAggregator
  script : t.net.script <:+ s.net.script

instance : Std.Refl (Main.Pushes (F := F)) := ⟨fun _ => ⟨rfl, rfl, rfl, List.suffix_refl _⟩⟩

instance : IsTrans (Main F) Main.Pushes :=
  ⟨fun _ _ _ st tu => ⟨tu.sock.trans st.sock, tu.log.trans st.log,
    tu.weatherAggregator.trans st.weatherAggregator, tu.script.trans st.script⟩⟩

/-- A pushing program may stop with anything. -/
abbrev Pushing {α : Type} (x : MainM F α) : Prop := Moves Main.Pushes (fun _ => True) x

theorem value_pushes {α : Type} (site : Site) (o : Option α) : Pushing (F := F) (value site o) := by
  cases o with
  | none => exact .throw trivial
  | some a => exact .pure

theorem observe_pushes (o : Obs F) : Pushing (observe o) :=
  .modify fun _ => ⟨rfl, rfl, rfl, List.suffix_refl _⟩

theorem ask_pushes {α : Type} (f : Ext → Option α) : Pushing (F := F) (onNet (answer f)) := by
  intro s
  rw [onNet, ends_zoom]
  refine ends_answer_of (fun e a script more _ => ?_) ⟨Std.Refl.refl s, trivial⟩
  change s.net.script = e :: script at more
  exact ⟨rfl, rfl, rfl, by rw [more]; exact List.suffix_cons e script⟩

section Pushes

variable [CDouble F]

theorem print_pushes (series : String) :
    Pushing (F := F) (onAggregator (printInfluxFormat series)) := by
  intro s
  rw [onAggregator, ends_zoom]
  refine (printInfluxFormat_ends _ _).mono ?_ ?_
  · rintro body a rfl
    exact ⟨rfl, rfl, rfl, List.suffix_refl _⟩
  · rintro e a ⟨rfl, -⟩
    exact ⟨⟨rfl, rfl, rfl, List.suffix_refl _⟩, trivial⟩

theorem pushToInflux_pushes (cause : Cause) (host : List Char) (tls : Bool) (port : Nat)
    (dataBase : List Char) : Pushing (F := F) (pushToInflux cause host tls port dataBase) := by
  refine .bind (print_pushes _) fun body => .ite ?_ .pure
  exact .bind (ask_pushes _) fun _ => .bind (observe_pushes _) fun _ => .pure

theorem pushIfConfigured_pushes (config : Config F) (cause : Cause) :
    Pushing (pushIfConfigured config cause) := by
  unfold pushIfConfigured
  split
  · exact .bind (value_pushes _ _) fun _ => .bind (pushToInflux_pushes _ _ _ _ _) fun _ => .pure
  · exact .pure

theorem handleServerLine_pushes (config : Config F) : Pushing (handleServerLine config) := by
  refine .bind (value_pushes _ _) fun _ => .ite (.bind .get fun _ => ?_) .pure
  exact .ite (pushIfConfigured_pushes _ _) .pure

end Pushes

/-! ## Packets -/

/-- What handling a packet leaves of the connection: as much as `getPacket`. -/
def Main.Handles (s t : Main F) : Prop := s.net.Reads t.net

instance : Std.Refl (Main.Handles (F := F)) := ⟨fun s => Std.Refl.refl (r := Net.Reads) s.net⟩

instance : IsTrans (Main F) Main.Handles :=
  ⟨fun s t u => IsTrans.trans (r := Net.Reads) s.net t.net u.net⟩

/-- A handling program may stop with anything. -/
abbrev Handling {α : Type} (x : MainM F α) : Prop := Moves Main.Handles (fun _ => True) x

theorem Pushing.handles {α : Type} {x : MainM F α} (pushing : Pushing x) : Handling x := by
  refine Moves.imp pushing (fun s t pushes => ?_) fun _ stop => stop
  exact ⟨pushes.log, by rw [pushes.sock]; exact .refl _, pushes.script⟩

theorem onSock_handles {α : Type} {x : Decoder F α} (moves : Moving AprsIs.Reads x) :
    Handling (onSock x) := by
  have moved : Moving Main.Handles (onSock x) :=
    moves.zoom fun _ _ reads => ⟨rfl, reads, List.suffix_refl _⟩
  exact moved.imp (fun _ _ handles => handles) fun _ _ => trivial

theorem onAggregator_handles {α : Type} (x : Aggregating F α) : Handling (onAggregator x) := by
  intro s
  rw [onAggregator, ends_zoom]
  have same : Main.Handles s s := Std.Refl.refl s
  exact .of_forall (fun _ _ => same) (fun _ _ => ⟨same, trivial⟩)

section Handling

variable [CDouble F]

theorem handleWeather_handles (config : Config F) (wx : AprsWxReport F) :
    Handling (handleWeather config wx) := by
  have stored : Handling (F := F) (modify fun s : Main F =>
      { s with weatherAggregator := s.weatherAggregator.store wx }) :=
    .modify fun s => Std.Refl.refl (r := Net.Reads) s.net
  refine .bind (observe_pushes _).handles fun _ => .bind stored fun _ => ?_
  refine .bind (ask_pushes _).handles fun now => .bind (onAggregator_handles _) fun _ => ?_
  refine .bind .get fun _ => .bind (observe_pushes _).handles fun _ => ?_
  exact (pushIfConfigured_pushes _ _).handles

theorem handleDecoded_handles (config : Config F) (packet : Decoded F) :
    Handling (handleDecoded config packet) := by
  unfold handleDecoded
  split
  · split
    · exact .bind (handleWeather_handles _ _) fun _ => .pure
    · exact .throw trivial
  · exact .pure
  · exact .pure

theorem handlePacket_handles (config : Config F) : Handling (handlePacket config) := by
  refine .bind .get fun s => .ite ?_ ?_
  · refine .bind (onSock_handles (charAtIndex_reads 0)) fun c => .ite ?_ .pure
    refine .bind (ask_pushes _).handles fun now => ?_
    exact .bind (onSock_handles (decode_reads now)) fun packet => handleDecoded_handles _ _
  · exact .bind (handleServerLine_pushes _).handles fun _ => .pure

end Handling

/-! ## The daemon -/

/-- What holds of the connection, whatever is done with packets. -/
def Main.Holds (s : Main F) : Prop := s.net.Holds

section Daemon

variable [CDouble F]

omit [CDouble F] in
theorem onNet_holds {α : Type} {x : NetM F α} (keeps : Keeps Net.Holds x) :
    Keeps Main.Holds (onNet x) := Keeps.zoom (l := netLens) keeps

omit [CDouble F] in
theorem Handling.holds {α : Type} {x : MainM F α} (handling : Handling x) : Keeps Main.Holds x :=
  Moves.keeps handling fun _ _ handles holds => Net.Holds.reads holds handles

theorem packetLoop_holds (config : Config F) (fuel packetCount : Nat) :
    Keeps Main.Holds (packetLoop config fuel packetCount) := by
  induction fuel generalizing packetCount with
  | zero => exact .throw
  | succ fuel ih =>
    unfold packetLoop
    refine .bind (value_pushes _ _).handles.holds fun _ => .ite ?_ .pure
    refine .bind (onNet_holds getPacket_holds) fun _ => ?_
    exact .ite (.bind (handlePacket_handles _).holds fun _ => .ite .pure (ih _)) (ih _)

theorem receivePackets_holds (config : Config F) (opened : Bool) :
    Keeps Main.Holds (receivePackets config opened) := by
  refine .ite (.bind .get fun _ => packetLoop_holds _ _ _) .pure

/-- The use of `sock` leaves one open descriptor at most, the destructor none. -/
theorem useSock_holds (config : Config F) {s : Main F} (closed : s.net.Closed) :
    Ends (useSock config) s (fun _ t => t.Holds) (fun _ t => t.Holds) := by
  unfold useSock
  rw [ends_bind, onNet, ends_zoom]
  refine (openConnection_holds closed).mono ?_ (fun _ _ holds => holds)
  intro opened net holds
  refine (receivePackets_holds config opened (netLens.set net s) holds).bind
    fun returns t holds => ?_
  split
  · exact holds
  · rw [ends_bind, onNet, ends_zoom]
    exact (ends_close (E := fun _ _ => False) holds).mono (fun _ _ closed => closed.1)
      (fun _ _ stopped => stopped.elim)

/-- No descriptor is open after a turn of the outer loop that returns or throws. -/
theorem session_holds (config : Config F) (filter : List Char) {s : Main F} (closed : s.net.Closed) :
    Ends (session config filter) s (fun _ t => t.net.Closed)
      (fun e t => t.Holds ∧ (e.unwinds → t.net.Closed)) := by
  unfold session
  rw [ends_bind]
  refine ends_value (fun callsign _ => ?_) ⟨closed.1, fun _ => closed⟩
  rw [ends_bind]
  refine ends_value (fun passCode _ => ?_) ⟨closed.1, fun _ => closed⟩
  rw [ends_bind, onNet, ends_zoom]
  refine ends_answer (fun now script => ?_) ⟨closed.1, fun _ => closed⟩
  rw [ends_bind, onNet, ends_zoom, ends_modifySock, ends_andFinally]
  have fresh : (⟨newSock config callsign passCode filter now, script, s.net.log⟩ : Net F).Closed := by
    refine ⟨?_, show (-1 : Int) < 0 by decide⟩
    show descriptors none s.net.log = some (held (-1))
    rw [closed.1, held_of_neg closed.2]
    rfl
  refine (useSock_holds config (s := { s with net := _ }) fresh).mono ?_ ?_
  · intro returns t holds
    exact close_closed holds
  · intro e t holds
    cases unwinds : e.unwinds with
    | true => exact ⟨(close_closed holds).1, fun _ => close_closed holds⟩
    | false => exact ⟨holds, nofun⟩

theorem mainLoop_holds (config : Config F) (filter : List Char) (fuel : Nat) {s : Main F}
    (closed : s.net.Closed) :
    Ends (mainLoop config filter fuel) s (fun _ t => t.net.Closed)
      (fun e t => t.Holds ∧ (e.unwinds → t.net.Closed)) := by
  induction fuel generalizing s with
  | zero => exact ⟨closed.1, nofun⟩
  | succ fuel ih =>
    unfold mainLoop
    rw [ends_bind, onNet, ends_zoom]
    refine ends_answer (fun running script => ?_) ⟨closed.1, nofun⟩
    have closed' : Net.Closed ⟨s.net.sock, script, s.net.log⟩ := closed
    split
    · refine (session_holds config filter (s := { s with net := _ }) closed').bind
        fun returns t closed => ?_
      split
      · exact closed
      · exact ih closed
    · exact closed'

theorem mainTry_holds (format : F → List Char) (config : Config F) {s : Main F}
    (closed : s.net.Closed) :
    Ends (mainTry format config) s (fun _ t => t.net.Closed)
      (fun e t => t.Holds ∧ (e.unwinds → t.net.Closed)) := by
  unfold mainTry
  split
  · exact ⟨closed.1, nofun⟩
  · rw [ends_bind]
    refine ends_value (fun qthLatitude _ => ?_) ⟨closed.1, fun _ => closed⟩
    rw [ends_bind]
    refine ends_value (fun qthLongitude _ => ?_) ⟨closed.1, fun _ => closed⟩
    rw [ends_bind]
    refine ends_value (fun filterRadius _ => ?_) ⟨closed.1, fun _ => closed⟩
    rw [ends_bind]
    refine ends_value (fun callsign _ => ?_) ⟨closed.1, fun _ => closed⟩
    rw [ends_bind, ends_get]
    exact mainLoop_holds config _ _ closed

theorem main_holds (format : F → List Char) (config : Config F) {s : Main F} (closed : s.net.Closed) :
    Ends (main format config) s (fun _ t => t.net.Closed) (fun _ t => t.Holds) := by
  unfold main
  rw [ends_catching]
  refine (mainTry_holds format config closed).mono (fun _ _ closed => closed) ?_
  rintro e t ⟨holds, closed⟩
  cases e with
  -- every exception is caught, and `main` returns after the destructor
  | thrown => exact closed rfl
  | pending => exact holds
  | undefined => exact holds
  | exited => exact holds

end Daemon

/-! ## Counting -/

theorem count_socket (log : List Sys) (fd : Nat) :
    (log.filterMap Sys.op).count (.acquire fd) = log.count (.socket fd) := by
  rw [List.count_filterMap]
  refine List.countP_congr fun e _ => ?_
  cases e with
  | socket fd' =>
    simp only [Sys.op, beq_iff_eq, Sys.socket.injEq]
    split <;> simp <;> omega
  | close fd' =>
    simp only [Sys.op, beq_iff_eq]
    split <;> simp
  | _ => simp [Sys.op]

theorem count_close (log : List Sys) (fd : Nat) :
    (log.filterMap Sys.op).count (.release fd) = log.count (.close fd) := by
  rw [List.count_filterMap]
  refine List.countP_congr fun e _ => ?_
  cases e with
  | close fd' =>
    simp only [Sys.op, beq_iff_eq, Sys.close.injEq]
    split <;> simp <;> omega
  | socket fd' =>
    simp only [Sys.op, beq_iff_eq]
    split <;> simp
  | _ => simp [Sys.op]

/-- What a log that is read to its end says of a descriptor. -/
theorem count_descriptors {log : List Sys} {open_ : Option Nat}
    (read : descriptors none log = some open_) (fd : Nat) :
    log.count (.socket fd) = log.count (.close fd) + holds open_ fd := by
  have count := count_acquire read fd
  rwa [holds_none, Nat.zero_add, count_socket, count_close] at count

/-- At every moment of every run, one descriptor that `::socket` has returned is open at most,
each other one has been closed as often as it was returned, and the open one is the one
that `sock_fd` holds. When `main` returns all have been closed. -/
theorem main_descriptors [CDouble F] (format : F → List Char) (config : Config F)
    (script : List Ext) :
    let r := (main format config).run (.start script)
    let log := (final r).net.log
    (∀ pre, pre <+: log → ∃ open_ : Option Nat, ∀ fd : Nat,
      pre.count (.socket fd) = pre.count (.close fd) + holds open_ fd) ∧
    (∀ fd : Nat, log.count (.socket fd) =
      log.count (.close fd) + holds (held (final r).net.sock.sockFd) fd) ∧
    (∀ code t, r = .ok code t → ∀ fd : Nat, log.count (.socket fd) = log.count (.close fd)) := by
  intro r log
  have closed : (Main.start script : Main F).net.Closed := ⟨rfl, show (-1 : Int) < 0 by decide⟩
  have ended := main_holds format config closed
  have holds : (final r).Holds :=
    (ended.mono (fun _ _ closed => closed.1) (fun _ _ holds => holds)).final
  refine ⟨?_, ?_, ?_⟩
  · rintro pre ⟨post, split⟩
    have read : descriptors none (pre ++ post) = some (held (final r).net.sock.sockFd) := by
      rw [split]
      exact holds
    unfold descriptors at read
    rw [List.filterMap_append] at read
    -- a log that is read to its end is read up to each of its moments
    obtain ⟨open_, first, -⟩ := after_split read
    exact ⟨open_, count_descriptors first⟩
  · exact count_descriptors holds
  · intro code t returned fd
    have closed : t.net.Closed := ended.of_ok returned
    have same : log = t.net.log := by
      show (final r).net.log = t.net.log
      rw [returned]
      rfl
    have count := count_descriptors closed.1 fd
    rw [held_of_neg closed.2, holds_none] at count
    rw [same]
    exact count

end AprsWx
