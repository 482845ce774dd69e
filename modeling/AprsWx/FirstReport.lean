import AprsWx.Bodies
import AprsWx.Framing
import AprsWx.Login
import AprsWx.Reports
import AprsWx.WeatherText

/-!
# A run that hears a report

The answers under which the daemon connects to a server, logs in and receives the line of one
station, and what it makes of them with any configuration.

* `main_damp`: with a configuration that connects and pushes, the report is received and pushed.
* `main_connected`: with a configuration that connects, there is a connection.
-/

namespace AprsWx

open Double Prog

variable {F : Type}

/-! ## The server -/

theorem lineAnswers_eq (line : List Char) :
    lineAnswers line = (line.map Outcome.byte).flatMap Outcome.answers := by
  unfold lineAnswers
  rw [List.flatMap_map]
  rfl

theorem call_line {body : List Char} (whole : '\n' ∉ body) (mWaitTime : Nat) :
    call mWaitTime ((body ++ ['\n']).map .byte) = .line (body ++ ['\n']) [] := by
  induction body generalizing mWaitTime with
  | nil => rfl
  | cons c body ih =>
    rw [List.mem_cons, not_or] at whole
    rw [List.cons_append, List.map_cons, call, if_neg (Ne.symm whole.1), ih whole.2]
    rfl

/-- A line that is there is received. -/
theorem getPacket_line {body : List Char} (whole : '\n' ∉ body) {more : List Ext} {s : Net F}
    (connected : s.sock.socketType = .SockConnect)
    (next : s.script = lineAnswers (body ++ ['\n']) ++ more) {packet : StdString}
    (framed : packet = StdString.ofChars ((body ++ ['\n']).filter (· ≠ '\r'))) :
    getPacket.run s = .ok packet
      ⟨(s.sock.waited 0).received packet, more, s.log ++ [.packet s.sock.sockFd packet]⟩ := by
  rw [lineAnswers_eq] at next
  have run := getPacket_run _ more s connected next
  rw [call_line whole] at run
  rw [framed]
  exact run

theorem getPacket_waits {s : Net F} (connected : s.sock.socketType = .SockConnect)
    (none : s.script = []) : getPacket.run s = .error .pending s := by
  unfold getPacket
  rw [EStateM.run_bind, EStateM.run_get]
  dsimp only
  rw [EStateM.run_bind, loop_pending _ _ _ connected none]

/-- The peer that the name of the server stands for. -/
def server : AddrInfo := ⟨afInet6, 1, 6, []⟩

/-- The line that the server sends at the start and after the login. -/
def greeting : StdString := ⟨['#', '\n'], by decide⟩

/-- The answers up to the login, and what comes after it. -/
def loginAnswers (more : List Ext) : List Ext :=
  .getaddrinfo (some [server]) :: .socket (some 5) :: .bindConnect true ::
    (lineAnswers ['#', '\n'] ++ .write 1 :: (lineAnswers ['#', '\n'] ++ more))

theorem connect_server (sock : AprsIs F) (script : List Ext) (log : List Sys) :
    ∃ sock' : AprsIs F, (connect [afInet6, afInet, afUnspec]).run
        ⟨sock, .getaddrinfo (some [server]) :: .socket (some 5) :: .bindConnect true :: script, log⟩ =
          .ok 5 ⟨sock', script,
            log ++ [.socket 5] ++ [.bindConnect 5 server true] ++ [.connection 5]⟩ ∧
      sock'.socketType = .SockConnect ∧ sock'.mGoodServer = sock.mGoodServer :=
  ⟨_, rfl, rfl, rfl⟩

/-- The server is accepted, and the daemon logs in. -/
theorem openConnection_accepted {s : Net F} (fresh : s.sock.mGoodServer = false) {more : List Ext}
    (next : s.script = loginAnswers more) :
    Ends openConnection s
      (fun opened t => opened = true ∧ t.script = more ∧ t.sock.socketType = .SockConnect)
      (fun _ _ => False) := by
  obtain ⟨sock, script, log⟩ := s
  obtain rfl : script = loginAnswers more := next
  have whole : '\n' ∉ ['#'] := by decide
  have framed : greeting = StdString.ofChars ((['#'] ++ ['\n']).filter (· ≠ '\r')) := rfl
  obtain ⟨sock', connected, type, -⟩ := connect_server sock
    (lineAnswers ['#', '\n'] ++ .write 1 :: (lineAnswers ['#', '\n'] ++ more)) log
  unfold openConnection
  rw [ends_bind, ends_get, ends_bind]
  unfold findServer
  rw [ends_bind, ends_getSock, show sock.mGoodServer = false from fresh, if_neg Bool.false_ne_true,
    ends_bind]
  unfold loginAnswers
  rw [ends_of_ok connected, if_neg (by decide), ends_bind,
    ends_of_ok (getPacket_line whole type rfl framed), ends_bind, ends_modifySock,
    ends_bind, ends_getSock]
  have good : ((sock'.waited 0).received greeting).judged.mGoodServer = true := rfl
  rw [good, if_neg (by decide)]
  -- the loop ends at its next test
  rw [List.length_cons]
  unfold findServer
  rw [ends_bind, ends_getSock, good, if_pos rfl, ends_pure, if_pos rfl, ends_bind, ends_getSock,
    ends_bind, putLine, ends_bind, ends_getSock, ends_bind,
    ends_of_ok (answer_run (f := Ext.asWrite) rfl rfl), ends_bind, ends_logSys, ends_pure, ends_bind,
    ends_of_ok (getPacket_line whole (by exact type) rfl framed), ends_pure]
  exact ⟨rfl, rfl, type⟩

/-! ## The report -/

/-- The text without the end of the line. -/
def dampLine : List Char := "W>A:!4500.00N/07500.00W_000/000t077h50".toList

theorem dampText_text : dampText.text = dampLine ++ ['\n'] := by decide

/-! ## The daemon -/

section Run

/-- With this configuration the daemon gets to a connection. -/
structure Config.Connects (config : Config F) : Prop where
  callsign : ∃ callsign, config.callsign = some callsign ∧ rfind callsign "N0CALL".toList ≠ some 0
  passCode : config.passCode.isSome
  qthLatitude : config.qthLatitude.isSome
  qthLongitude : config.qthLongitude.isSome
  filterRadius : config.filterRadius.isSome

theorem answered {α : Type} {f : Ext → Option α} {e : Ext} {a : α} {script : List Ext} {s : Main F}
    {Q : α → Main F → Prop} {E : Stop → Main F → Prop} (next : s.net.script = e :: script)
    (accepted : f e = some a) :
    Ends (onNet (answer f)) s Q E ↔ Q a { s with net := { s.net with script := script } } := by
  rw [onNet, ends_zoom_of_ok (answer_run next accepted) rfl]
  rfl

theorem unanswered {α : Type} {f : Ext → Option α} {s : Main F} {Q : α → Main F → Prop}
    {E : Stop → Main F → Prop} (none : s.net.script = []) :
    Ends (onNet (answer f)) s Q E ↔ E .pending s := by
  rw [onNet, ends_zoom]
  unfold Ends
  rw [answer_pending (show (netLens.get s).script = [] from none)]
  rfl

theorem closed_script (s : Net F) : (final (close.run s)).script = s.script := by
  rw [close_run]
  show (if 0 ≤ s.sock.sockFd then _ else s : Net F).script = _
  split <;> rfl

/-- A run of one turn of the outer loop. -/
theorem mainTry_useSock [CDouble F] {config : Config F} (connects : config.Connects) (format : F → List Char)
    (script : List Ext) {E : Stop → Main F → Prop}
    (used : ∀ callsign passCode filter, Ends (useSock config)
      ⟨⟨newSock config callsign passCode filter 0, script, []⟩, {}, []⟩
      (fun returns t => returns = false ∧ t.net.script = [] ∧ E .pending t.destroyed)
      (fun e t => e = .pending ∧ E e t)) :
    Ends (mainTry format config) (.start (.running true :: .now 0 :: script)) (fun _ _ => False) E := by
  obtain ⟨⟨callsign, hcallsign, configured⟩, passCode, lat, lon, radius⟩ := connects
  obtain ⟨passCode, hpassCode⟩ := Option.isSome_iff_exists.mp passCode
  obtain ⟨lat, hlat⟩ := Option.isSome_iff_exists.mp lat
  obtain ⟨lon, hlon⟩ := Option.isSome_iff_exists.mp lon
  obtain ⟨radius, hradius⟩ := Option.isSome_iff_exists.mp radius
  unfold mainTry
  rw [hcallsign, hlat, hlon, hradius, Option.any_some, if_neg (mt of_decide_eq_true configured)]
  simp only [value_some, ends_bind, ends_pure, ends_get]
  unfold mainLoop
  rw [ends_bind, answered (f := Ext.asRunning) rfl rfl, if_pos rfl, ends_bind]
  unfold session
  rw [hcallsign, hpassCode]
  simp only [value_some, ends_bind, ends_pure]
  rw [answered (f := Ext.asNow) rfl rfl, onNet, ends_zoom, ends_modifySock, ends_andFinally]
  refine (used callsign passCode _).mono ?_ ?_
  · rintro returns t ⟨rfl, none, ended⟩
    rw [if_neg Bool.false_ne_true]
    show Ends (mainLoop config _ (_ + 1)) t.destroyed _ _
    unfold mainLoop
    rw [ends_bind, unanswered ((closed_script t.net).trans none)]
    exact ended
  · rintro e t ⟨rfl, ended⟩
    exact ended

/-- With this configuration the daemon pushes to this database. -/
structure Config.Pushes (config : Config F) (host : List Char) (tls : Bool) (port : Nat)
    (dataBase : List Char) : Prop where
  influxHost : config.influxHost = some host
  influxTls : config.influxTls = some tls
  influxPort : config.influxPort = some port
  influxDb : config.influxDb = some dataBase
  serverCycleRate : ∃ rate, config.serverCycleRate = some rate ∧ 0 < rate

/-- The history of a run in which the report is received, aggregated and pushed. -/
def DampHistory (config : Config ExReal) (url : List Char) (h : List (Obs ExReal)) : Prop :=
  ∃ (u v : AprsIs ExReal) (packet : StdString) (wx : AprsWxReport ExReal)
    (body : List (InfluxLine ExReal)), u.Configured config ∧ packet.chars = dampText.text ∧
    (decode 0).run (u.received packet) = .ok (.report wx) v ∧ wx.mTimePoint = 0 ∧
    h = [.received wx, .aggregated 0 ((({} : WeatherAggregator ExReal).store wx).aggregated 0),
      .pushed .weatherPacket 0 url body]

/-- The report is aggregated. -/
theorem stored_damp {wx : AprsWxReport ExReal} (now : wx.mTimePoint = 0) :
    wx ∈ stored ((({} : WeatherAggregator ExReal).store wx).aggregated 0).reports := by
  have live : liveAt 0 (reportOf (({} : WeatherAggregator ExReal).store wx)) wx.mName = some wx := by
    rw [reportOf_store]
    simp [liveAt, Expiry.live, now, maxAge]
  rw [← reportOf_aggregated] at live
  exact mem_stored.mpr ⟨_, Option.join_eq_some_iff.mp live⟩

theorem handleWeather_damp {config : Config ExReal} {host : List Char} {tls : Bool} {port : Nat}
    {dataBase : List Char} (pushes : config.Pushes host tls port dataBase) {wx : AprsWxReport ExReal}
    (located : wx.Located wx.mName) (now : wx.mTimePoint = 0)
    (temperature : (wx.mWeatherValue WxSym.Temperature.idx).isSome) {net : Net ExReal}
    (script : net.script = [.now 0, .perform 0 true]) :
    Ends (handleWeather config wx) ⟨net, {}, []⟩
      (fun _ t => t.net = { net with script := [] } ∧ ∃ body, t.history =
        [.received wx, .aggregated 0 ((({} : WeatherAggregator ExReal).store wx).aggregated 0),
          .pushed .weatherPacket 0 (buildUrl host tls port dataBase) body])
      (fun _ _ => False) := by
  have received : Story config false [.received wx] (({} : WeatherAggregator ExReal).store wx) :=
    Story.start.received located
  have aggregated : Story config true _ ((({} : WeatherAggregator ExReal).store wx).aggregated 0) :=
    received.aggregated
  unfold handleWeather
  rw [ends_bind, observe, ends_modify, ends_bind, ends_modify, ends_bind,
    answered (f := Ext.asNow) script rfl, ends_bind, onAggregator,
    ends_zoom_of_ok (aggregateData_run received.filled.weighed 0) rfl, ends_bind, ends_get, ends_bind, observe, ends_modify]
  unfold pushIfConfigured
  rw [pushes.influxHost, pushes.influxTls, pushes.influxPort, pushes.influxDb]
  simp only [value_some, ends_bind, ends_pure]
  obtain ⟨body, printed⟩ := printInfluxFormat_run aggregated.setAt influxSeries
  have named := (printInfluxFormat_names influxSeries).of_ok printed
  have some : body ≠ [] := by
    have has := (aggregated.setAt WxSym.Temperature.idx).1.mpr ⟨wx, stored_damp now, temperature⟩
    have row : (⟨.Temperature, 't', 3, "Temp", .Fahrenheit, 1⟩ : WeatherItem) ∈
        weatherItemList.filter ((({} : WeatherAggregator ExReal).store wx).aggregated 0).prints :=
      List.mem_filter.mpr ⟨by decide, has⟩
    rintro rfl
    have none := List.append_eq_nil_iff.mp named.symm
    exact List.ne_nil_of_mem (List.mem_map_of_mem row) none.1
  rw [pushToInflux, ends_bind, onAggregator, ends_zoom_of_ok printed rfl, if_pos some, ends_bind, answered (f := Ext.asPerform) rfl rfl, ends_bind, observe, ends_modify]
  exact ⟨rfl, body, rfl⟩

theorem handlePacket_damp {config : Config ExReal} {host : List Char} {tls : Bool} {port : Nat}
    {dataBase : List Char} (pushes : config.Pushes host tls port dataBase) {u : AprsIs ExReal}
    (configured : u.Configured config) (placed : u.Placed) {net : Net ExReal} {packet : StdString}
    (received : net.sock = u.received packet) (sent : packet.chars = dampText.text)
    (script : net.script = [.now 0, .now 0, .perform 0 true]) :
    Ends (handlePacket config) ⟨net, {}, []⟩
      (fun returns t => returns = false ∧ t.net.script = [] ∧
        t.net.sock.socketType = net.sock.socketType ∧
        DampHistory config (buildUrl host tls port dataBase) t.history)
      (fun _ _ => False) := by
  obtain ⟨wx, v, decoded, status, -, -, -, -, -, -, values⟩ :=
    decode_weatherText 0 u dampText packet sent
  obtain ⟨reads, weather⟩ := (decode_ends 0 u packet).of_ok decoded
  obtain ⟨-, mLat, mLon, equal⟩ := weather status
  have parts := Decoded.report.inj equal
  have first : (charAtIndex 0).run net.sock = .ok 'W' net.sock := by
    rw [received]
    unfold charAtIndex
    rw [EStateM.run_bind, EStateM.run_get]
    show (packet.at_ 0).run _ = _
    unfold StdString.at_
    rw [if_pos (Nat.zero_le _), sent]
    rfl
  have decoded' := decoded
  rw [← received] at decoded'
  have station : net.sock.hasPrefix "# aprsc" = false := by
    rw [received]
    show packet.startsWith _ = false
    unfold StdString.startsWith
    rw [sent]
    decide
  unfold handlePacket
  rw [ends_bind, ends_get]
  dsimp only
  rw [station, if_pos (by decide), ends_bind, onSock, ends_zoom_of_ok first rfl,
    if_pos (by decide), ends_bind,
    answered (f := Ext.asNow) script rfl, ends_bind, onSock,
    ends_zoom_of_ok decoded' rfl]
  unfold handleDecoded
  rw [show (Decoded.report wx).status = .WxPacket from status]
  dsimp only
  rw [ends_bind]
  obtain ⟨lat, lon, radius⟩ := placed
  have located : wx.Located wx.mName := by
    rw [parts, weatherOf_packet]
    exact weatherOf_located 0 _ _ _ _ mLat mLon lat lon radius
  have now : wx.mTimePoint = 0 := by rw [parts, weatherOf_packet]
  have temperature : (wx.mWeatherValue WxSym.Temperature.idx).isSome := by
    rw [values]
    decide
  have script' : (⟨v, [.now 0, .perform 0 true], net.log⟩ : Net ExReal).script = [.now 0, .perform 0 true] :=
    rfl
  refine (handleWeather_damp pushes located now temperature script').mono ?_ ?_
  · rintro _ t ⟨same, body, history⟩
    refine ⟨rfl, by rw [same], ?_, ?_⟩
    · rw [same, received]
      obtain ⟨_, _, _, _, rfl⟩ := reads
      rfl
    · exact ⟨u, v, packet, wx, body, configured, sent, decoded, now, history⟩
  · exact fun _ _ never => never

/-- Where there are no more answers, the loop waits for a packet or is at its end. -/
theorem packetLoop_waits [CDouble F] {config : Config F} {rate : Nat}
    (serverCycleRate : config.serverCycleRate = some rate) (fuel packetCount : Nat) {s : Main F}
    (none : s.net.script = []) (connected : s.net.sock.socketType = .SockConnect) :
    Ends (packetLoop config fuel packetCount) s
      (fun returns t => returns = false ∧ t = s) (fun e t => e = .pending ∧ t = s) := by
  cases fuel with
  | zero => exact ⟨rfl, rfl⟩
  | succ fuel =>
    unfold packetLoop
    rw [serverCycleRate, value_some, ends_bind, ends_pure]
    split
    · rw [ends_bind, onNet, ends_zoom]
      unfold Ends
      rw [show getPacket.run (netLens.get s) = _ from getPacket_waits connected none]
      exact ⟨rfl, rfl⟩
    · exact ⟨rfl, rfl⟩

/-- The answers of a run that hears the report. -/
def dampAnswers : List Ext :=
  lineAnswers dampText.text ++ [.now 0, .now 0, .perform 0 true]

theorem useSock_damp {config : Config ExReal} {host : List Char} {tls : Bool} {port : Nat}
    {dataBase : List Char} (pushes : config.Pushes host tls port dataBase) {net : Net ExReal}
    (fresh : net.sock.mGoodServer = false) (configured : net.sock.Configured config)
    (placed : net.sock.Placed) (next : net.script = loginAnswers dampAnswers) :
    Ends (useSock config) ⟨net, {}, []⟩
      (fun returns t => returns = false ∧ t.net.script = [] ∧
        DampHistory config (buildUrl host tls port dataBase) t.destroyed.history)
      (fun e t => e = .pending ∧ DampHistory config (buildUrl host tls port dataBase) t.history) := by
  obtain ⟨rate, serverCycleRate, positive⟩ := pushes.serverCycleRate
  have opened := (openConnection_accepted fresh next).and (openConnection_advances net)
  unfold useSock
  rw [ends_bind, onNet, ends_zoom]
  refine opened.mono ?_ (fun _ _ both => both.1.elim)
  rintro _ net' ⟨⟨rfl, script, connected⟩, advances⟩
  show Ends (receivePackets config true >>= _) ⟨net', {}, []⟩ _ _
  rw [ends_bind]
  unfold receivePackets
  rw [if_pos rfl, ends_bind, ends_get]
  unfold packetLoop
  rw [serverCycleRate, value_some, ends_bind, ends_pure, if_pos positive, ends_bind, onNet]
  generalize framed : StdString.ofChars ((dampLine ++ ['\n']).filter (· ≠ '\r')) = packet
  have sent : packet.chars = dampText.text := by
    rw [← framed]
    decide
  have some : packet ≠ StdString.empty := by
    rintro rfl
    exact absurd sent (by decide)
  rw [dampAnswers, dampText_text] at script
  have received := getPacket_line (by decide) (s := net') connected script framed.symm
  rw [ends_zoom_of_ok received rfl, if_pos some, ends_bind]
  have configured' : (net'.sock.waited 0).Configured config :=
    configured.of_eq advances.mQthPosition advances.mRadius
  have placed' : (net'.sock.waited 0).Placed :=
    placed.of_eq advances.mQthPosition advances.mRadius
  refine (handlePacket_damp pushes configured' placed' rfl sent rfl).mono ?_
    (fun _ _ never => never.elim)
  rintro _ t ⟨rfl, none, type, history⟩
  rw [if_neg Bool.false_ne_true]
  refine (packetLoop_waits serverCycleRate _ _ none (type.trans connected)).mono ?_ ?_
  · rintro _ t ⟨rfl, rfl⟩
    rw [if_neg Bool.false_ne_true, ends_bind, onNet, ends_zoom, ends_of_ok (close_run _), ends_pure]
    have kept := closed_script t.net
    rw [close_run] at kept
    exact ⟨rfl, kept.trans none, history⟩
  · rintro e t ⟨rfl, rfl⟩
    exact ⟨rfl, history⟩

/-- The script of a run that hears the report. -/
def dampScript : List Ext := .running true :: .now 0 :: loginAnswers dampAnswers

/-- A run with a configuration that connects and pushes hears the report and pushes. -/
theorem mainTry_damp (format : ExReal → List Char) {config : Config ExReal}
    (connects : config.Connects) {host : List Char} {tls : Bool} {port : Nat} {dataBase : List Char}
    (pushes : config.Pushes host tls port dataBase) :
    Ends (mainTry format config) (.start dampScript) (fun _ _ => False)
      (fun _ t => DampHistory config (buildUrl host tls port dataBase) t.history) := by
  unfold dampScript
  generalize next : loginAnswers dampAnswers = script
  refine mainTry_useSock connects format script fun callsign passCode filter => ?_
  have radius : (newSock config callsign passCode filter 0).mRadius.isSome := by
    rw [newSock, Option.isSome_map]
    exact connects.filterRadius
  exact useSock_damp pushes rfl ⟨rfl, rfl, rfl⟩ ⟨connects.qthLatitude, connects.qthLongitude, radius⟩
    next.symm

theorem main_damp (format : ExReal → List Char) {config : Config ExReal}
    (connects : config.Connects) {host : List Char} {tls : Bool} {port : Nat} {dataBase : List Char}
    (pushes : config.Pushes host tls port dataBase) :
    DampHistory config (buildUrl host tls port dataBase)
      (Main.after format config dampScript).history :=
  Main.after_of (I := fun s => DampHistory config (buildUrl host tls port dataBase) s.history)
    ((mainTry_damp format connects pushes).mono (fun _ _ never => never.elim)
      (fun _ _ history => history))

/-! ## A run that only connects -/

/-- The answers with which a connection is made. -/
def connectScript : List Ext :=
  [.running true, .now 0, .getaddrinfo (some [server]), .socket (some 5), .bindConnect true]

/-- A run with a configuration that connects opens a connection. -/
theorem main_connected [CDouble F] (format : F → List Char) {config : Config F}
    (connects : config.Connects) :
    .connection 5 ∈ (Main.after format config connectScript).net.log := by
  refine Main.after_of (I := fun s => .connection 5 ∈ s.net.log)
    ((mainTry_useSock (E := fun _ t => .connection 5 ∈ t.net.log) connects format _
      fun callsign passCode filter => ?_).mono (fun _ _ never => never.elim) (fun _ _ mem => mem))
  unfold useSock
  rw [ends_bind, onNet, ends_zoom]
  unfold openConnection
  rw [ends_bind, ends_get, ends_bind]
  unfold findServer
  obtain ⟨sock, connected, type, -⟩ := connect_server (newSock config callsign passCode filter 0) [] []
  rw [ends_bind, ends_getSock, if_neg (by exact Bool.false_ne_true), ends_bind,
    ends_of_ok (by exact connected), if_neg (by decide), ends_bind]
  unfold Ends
  rw [getPacket_waits type rfl]
  exact ⟨rfl, List.mem_append_right _ List.mem_cons_self⟩

end Run

end AprsWx
