import AprsWx.Descriptors
import AprsWx.Story
import AprsWx.WeatherReport

/-!
# Runs of the daemon

Every run of `main` makes a `Story`, and what this says about every run.

* `mainTry_told`, `main_tells`: the history and the aggregator of a run, wherever it stops, are
  a story.
-/

namespace AprsWx

open Double Prog Trace

variable {F : Type}

/-! ## The connection -/

/-- What all functions of the connection do: they use answers, and leave the place and the
radius of the object alone. -/
structure Net.Advances (s t : Net F) : Prop where
  script : t.script <:+ s.script
  mQthPosition : t.sock.mQthPosition = s.sock.mQthPosition
  mRadius : t.sock.mRadius = s.sock.mRadius

theorem Net.Advances.refl (s : Net F) : s.Advances s := ⟨List.suffix_refl _, rfl, rfl⟩

instance : Std.Refl (Net.Advances (F := F)) := ⟨Net.Advances.refl⟩

instance : IsTrans (Net F) Net.Advances :=
  ⟨fun _ _ _ st tu => ⟨tu.script.trans st.script, tu.mQthPosition.trans st.mQthPosition,
    tu.mRadius.trans st.mRadius⟩⟩

theorem AprsIs.Reads.mQthPosition {a b : AprsIs F} (reads : a.Reads b) :
    b.mQthPosition = a.mQthPosition := by
  obtain ⟨_, _, _, _, rfl⟩ := reads
  rfl

theorem AprsIs.Reads.mRadius {a b : AprsIs F} (reads : a.Reads b) : b.mRadius = a.mRadius := by
  obtain ⟨_, _, _, _, rfl⟩ := reads
  rfl

theorem answer_advances {α : Type} (f : Ext → Option α) :
    Moving (Net.Advances (F := F)) (answer f) := by
  intro s
  refine ends_answer_of (fun e a script more _ => ?_) ⟨.refl s, elsewhere_pending⟩
  exact ⟨by rw [more]; exact List.suffix_cons e script, rfl, rfl⟩

theorem logSys_advances (e : Sys) : Moving (Net.Advances (F := F)) (logSys e) :=
  .modify fun _ => ⟨List.suffix_refl _, rfl, rfl⟩

theorem getSock_advances : Moving (Net.Advances (F := F)) getSock := fun s => .refl s

/-- The connection changes the object where it is a socket, and its judgement of the server. -/
theorem modifySock_advances {f : AprsIs F → AprsIs F}
    (place : ∀ sock, (f sock).mQthPosition = sock.mQthPosition)
    (radius : ∀ sock, (f sock).mRadius = sock.mRadius) : Moving Net.Advances (modifySock f) :=
  .modify fun s => ⟨List.suffix_refl _, place s.sock, radius s.sock⟩

theorem getPacket_advances : Moving (Net.Advances (F := F)) getPacket := by
  intro s
  refine (getPacket_ends s).mono ?_ ?_
  · rintro mPacket t ⟨-, reads, script, -⟩
    exact ⟨script, reads.mQthPosition, reads.mRadius⟩
  · rintro e t ⟨reads, elsewhere⟩
    exact ⟨⟨reads.script, reads.sock.mQthPosition, reads.sock.mRadius⟩, elsewhere⟩

theorem close_advances : Moving (Net.Advances (F := F)) close := by
  refine .bind getSock_advances fun sock => .ite (.bind (logSys_advances _) fun _ => ?_) .pure
  exact modifySock_advances (fun _ => rfl) fun _ => rfl

theorem sysSocket_advances : Moving (Net.Advances (F := F)) sysSocket :=
  .bind (answer_advances _) fun _ => .bind (logSys_advances _) fun _ => .pure

theorem sysBindConnect_advances (fd : Int) (peer : AddrInfo) :
    Moving (Net.Advances (F := F)) (sysBindConnect fd peer) := by
  have rest : ∀ success, Moving (Net.Advances (F := F))
      (do logSys (.bindConnect fd peer success); return success) :=
    fun _ => .bind (logSys_advances _) fun _ => .pure
  unfold sysBindConnect
  exact .ite (.bind .pure rest) (.bind (answer_advances _) rest)

theorem tryPeers_advances (pref : Nat) (peers : List AddrInfo) :
    Moving (Net.Advances (F := F)) (tryPeers pref peers) := by
  induction peers with
  | nil => exact .pure
  | cons peer peers ih =>
    unfold tryPeers
    refine .ite (.bind sysSocket_advances fun fd => ?_) ih
    refine .bind (modifySock_advances (fun _ => rfl) fun _ => rfl) fun _ => ?_
    refine .bind (sysBindConnect_advances fd peer) fun success => ?_
    refine .ite (modifySock_advances (fun _ => rfl) fun _ => rfl) ?_
    refine .bind (logSys_advances _) fun _ => ?_
    exact .bind (modifySock_advances (fun _ => rfl) fun _ => rfl) fun _ => ih

theorem tryPrefs_advances (peers : List AddrInfo) (prefs : List Nat) :
    Moving (Net.Advances (F := F)) (tryPrefs peers prefs) := by
  induction prefs with
  | nil => exact .pure
  | cons pref prefs ih =>
    exact .bind (tryPeers_advances _ _) fun _ => .bind getSock_advances fun _ => .ite ih .pure

theorem connect_advances (prefs : List Nat) : Moving (Net.Advances (F := F)) (connect prefs) := by
  unfold connect findPeerInfo
  refine .bind (.bind (answer_advances _) fun r => ?_) fun _ => ?_
  · cases r with
    | none => exact .throw ⟨nofun, nofun⟩
    | some peers =>
      refine .bind (modifySock_advances (fun _ => rfl) fun _ => rfl) fun _ => ?_
      exact tryPrefs_advances _ _
  · refine .bind (modifySock_advances (fun _ => rfl) fun _ => rfl) fun _ => ?_
    exact .bind getSock_advances fun _ => .bind (logSys_advances _) fun _ => .pure

theorem findServer_advances (fuel : Nat) : Moving (Net.Advances (F := F)) (findServer fuel) := by
  induction fuel with
  | zero => exact .throw elsewhere_pending
  | succ fuel ih =>
    unfold findServer
    refine .bind getSock_advances fun sock => .ite .pure (.bind (connect_advances _) fun fd => ?_)
    refine .ite .pure (.bind getPacket_advances fun _ => ?_)
    refine .bind (modifySock_advances (fun _ => rfl) fun _ => rfl) fun _ => ?_
    exact .bind getSock_advances fun _ => .ite (.bind close_advances fun _ => ih) ih

theorem openConnection_advances : Moving (Net.Advances (F := F)) openConnection := by
  refine .bind .get fun s => .bind (findServer_advances _) fun good => .ite ?_ .pure
  refine .bind getSock_advances fun sock => .bind ?_ fun _ => .bind getPacket_advances fun _ => .pure
  refine .bind getSock_advances fun _ => .bind (answer_advances _) fun _ => ?_
  exact .bind (logSys_advances _) fun _ => .pure

/-! ## Packets -/

/-- The packet at the cursor is looked at, and nothing changes. -/
theorem charAtIndex_ends (offset : Nat) (s : AprsIs F) :
    Ends (charAtIndex offset) s (fun _ t => t = s) (fun e t => t = s ∧ e.Elsewhere) := by
  unfold charAtIndex StdString.at_
  rw [ends_bind, ends_get]
  split
  · exact rfl
  · exact ⟨rfl, nofun, nofun⟩

section Daemon

variable [CDouble F]

/-- `decode` of a received packet moves cursors, and a packet of status `WxPacket` is one of a
payload that holds weather. -/
theorem decode_ends (now : Int) (s : AprsIs F) (packet : StdString) :
    Ends (decode now) (s.received packet)
      (fun d t => (s.received packet).Reads t ∧ (d.status = .WxPacket →
        HoldsWeather (payload packet.chars) ∧ ∃ mLat mLon, d = .report (weatherOf now s.mQthPosition
          s.mRadius (textBefore '>' packet.chars) (payload packet.chars) mLat mLon)))
      (fun e t => (s.received packet).Reads t ∧ e.Elsewhere) := by
  have reads := decode_reads now (s.received packet)
  unfold Ends at reads ⊢
  cases run : (decode now).run (s.received packet) with
  | ok d t =>
    rw [run] at reads
    exact ⟨reads, decode_weather run⟩
  | error e t =>
    rw [run] at reads
    exact reads

/-! ## The daemon's state -/

/-- The object's place and radius are those of the configuration, which has them. -/
def AprsIs.Placed (sock : AprsIs F) : Prop :=
  sock.mQthPosition.mLat.isSome ∧ sock.mQthPosition.mLon.isSome ∧ sock.mRadius.isSome

/-- The state tells a story, and its times are clock readings of the script that was given, in
their order. -/
structure Main.Tells (config : Config F) (times : List Int) (whole : Bool) (s : Main F) : Prop where
  story : Story config whole s.history s.weatherAggregator
  times : (readings s.history ++ s.net.script.filterMap Ext.asNow).Sublist times

/-- What holds between the packets of a connection. -/
structure Main.Ready (config : Config F) (times : List Int) (s : Main F) : Prop where
  tells : s.Tells config times true
  placed : s.net.sock.Placed

/-- What holds where a run stops. -/
def Main.Stopped (config : Config F) (times : List Int) (e : Stop) (s : Main F) : Prop :=
  (∃ whole, s.Tells config times whole) ∧ e.Elsewhere

/-- The aggregator and the history are as they were. -/
structure Main.Quiet (s t : Main F) : Prop where
  weatherAggregator : t.weatherAggregator = s.weatherAggregator
  history : t.history = s.history
  net : s.net.Advances t.net

variable {config : Config F} {times : List Int} {whole : Bool} {s t : Main F}

omit [CDouble F] in
theorem AprsIs.Placed.of_eq {sock sock' : AprsIs F} (placed : sock.Placed)
    (mQthPosition : sock'.mQthPosition = sock.mQthPosition) (mRadius : sock'.mRadius = sock.mRadius) :
    sock'.Placed := by
  unfold AprsIs.Placed
  rw [mQthPosition, mRadius]
  exact placed

theorem Main.Tells.quiet (tells : s.Tells config times whole) (quiet : s.Quiet t) :
    t.Tells config times whole := by
  constructor
  · rw [quiet.history, quiet.weatherAggregator]
    exact tells.story
  · rw [quiet.history]
    have rest := (quiet.net.script.sublist.filterMap Ext.asNow)
    exact ((List.Sublist.refl (readings s.history)).append rest).trans tells.times

theorem Main.Ready.quiet (ready : s.Ready config times) (quiet : s.Quiet t) :
    t.Ready config times :=
  ⟨ready.tells.quiet quiet, ready.placed.of_eq quiet.net.mQthPosition quiet.net.mRadius⟩

theorem Main.Ready.stopped (ready : s.Ready config times) {e : Stop} (elsewhere : e.Elsewhere) :
    s.Stopped config times e := ⟨⟨true, ready.tells⟩, elsewhere⟩

omit [CDouble F] in
theorem onNet_quiet {α : Type} {x : NetM F α} (moving : Moving Net.Advances x) :
    Moving Main.Quiet (onNet x) := moving.zoom fun _ _ advances => ⟨rfl, rfl, advances⟩

omit [CDouble F] in
theorem Main.Quiet.of_reads {s : Main F} {sock : AprsIs F} (reads : s.net.sock.Reads sock) :
    s.Quiet (sockLens.set sock s) :=
  ⟨rfl, rfl, List.suffix_refl _, reads.mQthPosition, reads.mRadius⟩

omit [CDouble F] in
/-- An answer that `main` takes from the script. -/
theorem ends_ask {α : Type} {f : Ext → Option α} {Q : α → Main F → Prop} {E : Stop → Main F → Prop}
    (next : ∀ e a script, s.net.script = e :: script → f e = some a →
      Q a { s with net := { s.net with script := script } })
    (pending : E .pending s) : Ends (onNet (answer f)) s Q E := by
  rw [onNet, ends_zoom]
  exact ends_answer_of next pending

theorem Main.Ready.asked (ready : s.Ready config times) {e : Ext} {script : List Ext}
    (more : s.net.script = e :: script) :
    ({ s with net := { s.net with script := script } } : Main F).Ready config times :=
  ready.quiet ⟨rfl, rfl, by rw [more]; exact List.suffix_cons e script, rfl, rfl⟩

/-- A value of the configuration. -/
theorem ends_config {α : Type} {o : Option α} {Q : α → Main F → Prop} (ready : s.Ready config times)
    (present : ∀ a, o = some a → Q a s) :
    Ends (value .main o) s Q (fun e t => t.Stopped config times e) :=
  ends_value present (ready.stopped ⟨nofun, nofun⟩)

/-! ## What is done with a packet -/

/-- An entry of the history that no reading is made with. -/
theorem Main.Ready.pushed (ready : s.Ready config times) {cause : Cause} {at_ : Int}
    {url : List Char} {body : List (InfluxLine F)}
    (story : Story config true (s.history ++ [.pushed cause at_ url body]) s.weatherAggregator) :
    ({ s with history := s.history ++ [.pushed cause at_ url body] } : Main F).Ready
      config times := by
  refine ⟨⟨story, ?_⟩, ready.placed⟩
  show (readings (s.history ++ [.pushed cause at_ url body]) ++ _).Sublist times
  rw [readings_concat, Obs.reading, Option.toList_none, List.append_nil]
  exact ready.tells.times

theorem pushIfConfigured_told (cause : Cause) (ready : s.Ready config times)
    (why : cause = .weatherPacket ∧
        (∃ now, s.history.getLast? = some (.aggregated now s.weatherAggregator)) ∨
      cause = .serverLine ∧ config.influxRepeats = some true ∧
        s.weatherAggregator.reports.isEmpty = false) :
    Ends (pushIfConfigured config cause) s (fun _ t => t.Ready config times)
      (fun e t => t.Stopped config times e) := by
  unfold pushIfConfigured
  split
  · rw [ends_bind]
    refine ends_config ready fun tls _ => ?_
    obtain ⟨body, printed⟩ := printInfluxFormat_run ready.tells.story.setAt influxSeries
    rw [ends_bind, pushToInflux, ends_bind, onAggregator, ends_zoom,
      ends_of_ok (show (printInfluxFormat _).run (aggregatorLens.get s) = _ from printed)]
    show Ends (if body ≠ [] then _ else _) s _ _
    split
    · rw [ends_bind]
      refine ends_ask (fun e answered script more _ => ?_) (ready.stopped elsewhere_pending)
      obtain ⟨at_, success⟩ := answered
      exact (ready.asked more).pushed (.pushed ready.tells.story printed why)
    · exact ready
  · exact ready

/-- A weather packet is received, aggregated and pushed. -/
theorem handleWeather_told {wx : AprsWxReport F}
    (story : Story config true s.history s.weatherAggregator) (located : wx.Located wx.mName)
    (placed : s.net.sock.Placed) (order : (readings s.history ++
      wx.mTimePoint :: s.net.script.filterMap Ext.asNow).Sublist times) :
    Ends (handleWeather config wx) s (fun _ t => t.Ready config times)
      (fun e t => t.Stopped config times e) := by
  have received : Main.Tells config times false
      { s with history := s.history ++ [.received wx]
               weatherAggregator := s.weatherAggregator.store wx } := by
    refine ⟨story.received located, ?_⟩
    show (readings (s.history ++ [.received wx]) ++ _).Sublist times
    rw [readings_concat, List.append_assoc]
    exact order
  unfold handleWeather
  rw [ends_bind, observe, ends_modify, ends_bind, ends_modify, ends_bind]
  refine ends_ask (fun e now script more answered => ?_) ⟨⟨false, received⟩, elsewhere_pending⟩
  rw [ends_bind, onAggregator,
    ends_zoom_of_ok (aggregateData_run received.story.filled.weighed now) rfl, ends_bind, ends_get, ends_bind, observe, ends_modify]
  refine pushIfConfigured_told .weatherPacket ⟨⟨received.story.aggregated, ?_⟩, placed⟩
    (.inl ⟨rfl, now, List.getLast?_concat⟩)
  show (readings (s.history ++ [.received wx] ++ [.aggregated now _]) ++
    script.filterMap Ext.asNow).Sublist times
  have next : s.net.script.filterMap Ext.asNow = now :: script.filterMap Ext.asNow := by
    change s.net.script = e :: script at more
    rw [more, List.filterMap_cons_some answered]
  rw [next] at order
  rw [readings_concat, readings_concat, List.append_assoc, List.append_assoc]
  exact order

theorem handleServerLine_told (ready : s.Ready config times) :
    Ends (handleServerLine config) s (fun _ t => t.Ready config times)
      (fun e t => t.Stopped config times e) := by
  unfold handleServerLine
  rw [ends_bind]
  refine ends_config ready fun repeats configured => ?_
  split
  · next on =>
    rw [ends_bind, ends_get]
    split
    · next some =>
      refine pushIfConfigured_told .serverLine ready (.inr ⟨rfl, by rw [configured, on], ?_⟩)
      simpa using some
    · exact ready
  · exact ready

theorem handleDecoded_told {d : Decoded F} (ready : s.Ready config times)
    (weather : d.status = .WxPacket → ∃ wx, d = .report wx ∧ wx.Located wx.mName ∧
      (readings s.history ++ wx.mTimePoint :: s.net.script.filterMap Ext.asNow).Sublist times) :
    Ends (handleDecoded config d) s (fun _ t => t.Ready config times)
      (fun e t => t.Stopped config times e) := by
  unfold handleDecoded
  split
  · next status =>
    obtain ⟨wx, rfl, located, order⟩ := weather status
    exact (handleWeather_told ready.tells.story located ready.placed order).bind
      fun _ _ ready => ready
  · exact ready
  · exact ready

/-- The packet that was received is handled between two ready states. -/
theorem handlePacket_told (ready : s.Ready config times) {u : AprsIs F} {packet : StdString}
    (received : s.net.sock = u.received packet) :
    Ends (handlePacket config) s (fun _ t => t.Ready config times)
      (fun e t => t.Stopped config times e) := by
  unfold handlePacket
  rw [ends_bind, ends_get]
  dsimp only
  split
  · rw [ends_bind, onSock, ends_zoom]
    refine (charAtIndex_ends 0 _).mono ?_ ?_
    · rintro c sock rfl
      show Ends (if c ≠ '#' then _ else _) s _ _
      split
      · rw [ends_bind]
        refine ends_ask (fun e now script more answered => ?_) (ready.stopped elsewhere_pending)
        have ready' := ready.asked more
        rw [ends_bind, onSock, ends_zoom]
        have decoded := decode_ends now u packet
        rw [← received] at decoded
        refine decoded.mono ?_ ?_
        · rintro d sock ⟨reads, weather⟩
          refine handleDecoded_told (ready'.quiet (.of_reads reads)) fun status => ?_
          obtain ⟨-, mLat, mLon, rfl⟩ := weather status
          obtain ⟨qthLat, qthLon, radius⟩ := ready.placed
          rw [received] at qthLat qthLon radius
          refine ⟨_, rfl, ?_, ?_⟩
          · rw [weatherOf_packet]
            exact weatherOf_located now _ _ _ _ mLat mLon qthLat qthLon radius
          · rw [weatherOf_packet]
            have times := ready.tells.times
            rw [more, List.filterMap_cons_some answered] at times
            exact times
        · rintro e sock ⟨reads, elsewhere⟩
          exact (ready'.quiet (.of_reads reads)).stopped elsewhere
      · exact ready
    · rintro e sock ⟨rfl, elsewhere⟩
      exact ready.stopped elsewhere
  · exact (handleServerLine_told ready).bind fun _ _ ready => ready

/-! ## The loops -/

theorem packetLoop_told (fuel packetCount : Nat) (ready : s.Ready config times) :
    Ends (packetLoop config fuel packetCount) s (fun _ t => t.Ready config times)
      (fun e t => t.Stopped config times e) := by
  induction fuel generalizing packetCount s with
  | zero => exact ready.stopped elsewhere_pending
  | succ fuel ih =>
    unfold packetLoop
    rw [ends_bind]
    refine ends_config ready fun rate _ => ?_
    split
    · rw [ends_bind, onNet, ends_zoom]
      refine (getPacket_ends _).mono ?_ ?_
      · rintro mPacket net ⟨-, reads, script, -, packet⟩
        have ready' : (netLens.set net s).Ready config times :=
          ready.quiet ⟨rfl, rfl, script, reads.mQthPosition, reads.mRadius⟩
        split
        · next some =>
          obtain ⟨u, received⟩ := packet.resolve_left some
          refine (handlePacket_told ready' received).bind fun returns t ready => ?_
          split
          · exact ready
          · exact ih _ ready
        · exact ih _ ready'
      · rintro e net ⟨reads, elsewhere⟩
        exact (ready.quiet (t := netLens.set net s)
          ⟨rfl, rfl, reads.script, reads.sock.mQthPosition, reads.sock.mRadius⟩).stopped elsewhere
    · exact ready

/-- A program of the connection runs between two ready states. -/
theorem Main.Ready.onNet {α : Type} {x : NetM F α} (moving : Moving Net.Advances x)
    (ready : s.Ready config times) :
    Ends (onNet x) s (fun _ t => t.Ready config times) (fun e t => t.Stopped config times e) :=
  (onNet_quiet moving s).mono (fun _ _ quiet => ready.quiet quiet)
    (fun _ _ ⟨quiet, elsewhere⟩ => (ready.quiet quiet).stopped elsewhere)

theorem receivePackets_told (opened : Bool) (ready : s.Ready config times) :
    Ends (receivePackets config opened) s (fun _ t => t.Ready config times)
      (fun e t => t.Stopped config times e) := by
  unfold receivePackets
  split
  · rw [ends_bind, ends_get]
    exact packetLoop_told _ 0 ready
  · exact ready

theorem useSock_told (ready : s.Ready config times) :
    Ends (useSock config) s (fun _ t => t.Ready config times)
      (fun e t => t.Stopped config times e) := by
  unfold useSock
  refine (ready.onNet openConnection_advances).bind fun opened t ready => ?_
  refine (receivePackets_told opened ready).bind fun returns t ready => ?_
  split
  · exact ready
  · exact (ready.onNet close_advances).bind fun _ _ ready => ready

omit [CDouble F] in
theorem destroyed_quiet (s : Main F) : s.Quiet s.destroyed := by
  refine ⟨rfl, rfl, ?_⟩
  show s.net.Advances (final (close.run s.net))
  have advances := close_advances s.net
  unfold Ends at advances
  rw [close_run] at advances ⊢
  exact advances

/-- A new object has the place and the radius of the configuration, where that has them. -/
theorem session_told (filter : List Char) (lat : config.qthLatitude.isSome)
    (lon : config.qthLongitude.isSome) (radius : config.filterRadius.isSome)
    (tells : s.Tells config times true) :
    Ends (session config filter) s (fun _ t => t.Tells config times true)
      (fun e t => t.Stopped config times e) := by
  have stopped : ∀ e : Stop, e.Elsewhere → s.Stopped config times e :=
    fun e elsewhere => ⟨⟨true, tells⟩, elsewhere⟩
  unfold session
  rw [ends_bind]
  refine ends_value (fun callsign _ => ?_) (stopped _ ⟨nofun, nofun⟩)
  rw [ends_bind]
  refine ends_value (fun passCode _ => ?_) (stopped _ ⟨nofun, nofun⟩)
  rw [ends_bind]
  refine ends_ask (fun e now script more _ => ?_) (stopped _ elsewhere_pending)
  rw [ends_bind, onNet, ends_zoom, ends_modifySock, ends_andFinally]
  have fresh : ({ s with net := ⟨newSock config callsign passCode filter now, script, s.net.log⟩ } :
      Main F).Ready config times := by
    refine ⟨⟨tells.story, ?_⟩, lat, lon, ?_⟩
    -- the reading of the constructor is a reading of the script, and no entry is made with it
    · have times := tells.times
      rw [more, List.filterMap_cons] at times
      refine List.Sublist.trans ?_ times
      refine (List.Sublist.refl _).append ?_
      split
      · exact List.Sublist.refl _
      · exact List.sublist_cons_self _ _
    · rw [newSock, Option.isSome_map]
      exact radius
  refine (useSock_told fresh).mono ?_ ?_
  · intro returns t ready
    exact ready.tells.quiet (destroyed_quiet t)
  · rintro e t ⟨⟨whole, tells⟩, elsewhere⟩
    refine ⟨⟨whole, ?_⟩, elsewhere⟩
    -- the destructor runs where the stack is unwound
    split
    · exact tells.quiet (destroyed_quiet t)
    · exact tells

theorem mainLoop_told (filter : List Char) (fuel : Nat) (lat : config.qthLatitude.isSome)
    (lon : config.qthLongitude.isSome) (radius : config.filterRadius.isSome)
    (tells : s.Tells config times true) :
    Ends (mainLoop config filter fuel) s (fun _ t => t.Tells config times true)
      (fun e t => t.Stopped config times e) := by
  induction fuel generalizing s with
  | zero => exact ⟨⟨true, tells⟩, elsewhere_pending⟩
  | succ fuel ih =>
    unfold mainLoop
    rw [ends_bind]
    refine ends_ask (fun e running script more _ => ?_) ⟨⟨true, tells⟩, elsewhere_pending⟩
    have tells' : ({ s with net := { s.net with script := script } } : Main F).Tells
        config times true :=
      tells.quiet ⟨rfl, rfl, by rw [more]; exact List.suffix_cons e script, rfl, rfl⟩
    split
    · refine (session_told filter lat lon radius tells').bind fun returns t tells => ?_
      split
      · exact tells
      · exact ih tells
    · exact tells'

/-- Every run tells a story, and no optional of the aggregator stops it. -/
theorem mainTry_told (format : F → List Char) (config : Config F) (script : List Ext) :
    Ends (mainTry format config) (.start script)
      (fun _ t => t.Tells config (script.filterMap Ext.asNow) true)
      (fun e t => t.Stopped config (script.filterMap Ext.asNow) e) := by
  have tells : (Main.start script).Tells config (script.filterMap Ext.asNow) true :=
    ⟨.start, List.Sublist.refl _⟩
  have stopped : ∀ e : Stop, e.Elsewhere →
      (Main.start script).Stopped config (script.filterMap Ext.asNow) e :=
    fun e elsewhere => ⟨⟨true, tells⟩, elsewhere⟩
  unfold mainTry
  split
  · exact stopped _ ⟨nofun, nofun⟩
  · rw [ends_bind]
    refine ends_value (fun _ lat => ?_) (stopped _ ⟨nofun, nofun⟩)
    rw [ends_bind]
    refine ends_value (fun _ lon => ?_) (stopped _ ⟨nofun, nofun⟩)
    rw [ends_bind]
    refine ends_value (fun _ radius => ?_) (stopped _ ⟨nofun, nofun⟩)
    rw [ends_bind]
    refine ends_value (fun _ _ => ?_) (stopped _ ⟨nofun, nofun⟩)
    rw [ends_bind, ends_get]
    exact mainLoop_told _ _ (by rw [lat]; rfl) (by rw [lon]; rfl) (by rw [radius]; rfl) tells

/-- The state at the end of a run of `main`. -/
def Main.after (format : F → List Char) (config : Config F) (script : List Ext) : Main F :=
  final ((main format config).run (.start script))

/-- Catching an exception changes nothing in the state. -/
theorem Main.after_of {I : Main F → Prop} {format : F → List Char} {config : Config F}
    {script : List Ext} (ended : Ends (mainTry format config) (.start script) (fun _ => I) (fun _ => I)) :
    I (Main.after format config script) := by
  refine Ends.final ?_
  unfold main
  rw [ends_catching]
  refine ended.mono (fun _ _ holds => holds) ?_
  intro e t holds
  cases e <;> exact holds

/-- Wherever `main` stops or returns, the state tells a story. -/
theorem main_tells (format : F → List Char) (config : Config F) (script : List Ext) :
    ∃ whole, (Main.after format config script).Tells config (script.filterMap Ext.asNow) whole :=
  Main.after_of (I := fun s => ∃ whole, s.Tells config (script.filterMap Ext.asNow) whole)
    ((mainTry_told format config script).mono (fun _ _ tells => ⟨true, tells⟩)
      (fun _ _ stopped => stopped.1))

end Daemon

end AprsWx
