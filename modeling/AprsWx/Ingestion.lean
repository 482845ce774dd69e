import AprsWx.Clock
import AprsWx.Conversation
import AprsWx.Heard

/-!
# What becomes of the lines

Every line that a server sends is taken once and in its turn, over any number of connections: the
reports of a history are those of the weather packets among the lines, and there are no others.

* `hears`: the lines of a log that the loop over the packets is given.
* `main_ingests`: in every run, the reports are those of the lines.
-/

namespace AprsWx

open Double Prog

variable {F : Type}

/-! ## The lines of a log -/

/-- Whether a packet is a line for the loop: not before the login, and not the answer to it. -/
inductive Ear
  | deaf
  | answer
  | listening
  deriving DecidableEq

/-- The lines so far, and what the next packet is. -/
structure Hearing where
  ear : Ear := .deaf
  lines : List StdString := []

def Hearing.hear (h : Hearing) : Sys → Hearing
  | .write _ _ => { h with ear := .answer }
  | .packet _ mPacket =>
    match h.ear with
    | .deaf => h
    | .answer => { h with ear := .listening }
    | .listening => { h with lines := h.lines ++ [mPacket] }
  | .connection _ => { h with ear := .deaf }
  | .close _ => { h with ear := .deaf }
  | .socket _ => h
  | .bindConnect _ _ _ => h

/-- What is heard in a log. -/
def hears (log : List Sys) : Hearing := log.foldl Hearing.hear {}

theorem hears_concat (log : List Sys) (e : Sys) : hears (log ++ [e]) = (hears log).hear e :=
  List.foldl_concat _ _ _ _

/-- A line that is a weather packet. -/
def IsWeatherLine (line : StdString) : Prop :=
  line.chars.headD '\x00' ≠ '#' ∧ HoldsWeather (payload line.chars)

instance (line : StdString) : Decidable (IsWeatherLine line) := inferInstanceAs (Decidable (_ ∧ _))

/-! ## Opening a connection -/

section Connect

variable {lines : List StdString}

/-- The lines of the log. -/
def Net.Heard (lines : List StdString) (s : Net F) : Prop := (hears s.log).lines = lines

/-- Outside a connection that is logged in, packets are no lines. -/
structure Net.Deaf (lines : List StdString) (s : Net F) : Prop where
  heard : s.Heard lines
  deaf : (hears s.log).ear = .deaf

theorem answer_heard {α : Type} (f : Ext → Option α) :
    Keeps (Net.Heard (F := F) lines) (answer f) := fun _ heard =>
  ends_answer (fun _ _ => heard) heard

theorem modifySock_heard (f : AprsIs F → AprsIs F) : Keeps (Net.Heard lines) (modifySock f) :=
  .modify fun _ heard => heard

theorem getSock_heard : Keeps (Net.Heard (F := F) lines) getSock := .bind .get fun _ => .pure

/-- Only a packet is a line. -/
theorem logSys_heard {e : Sys} (other : ∀ fd mPacket, e ≠ .packet fd mPacket) :
    Keeps (Net.Heard (F := F) lines) (logSys e) := by
  refine .modify fun s heard => ?_
  show (hears (s.log ++ [e])).lines = lines
  rw [hears_concat]
  cases e with
  | packet fd mPacket => exact absurd rfl (other fd mPacket)
  | _ => exact heard

theorem sysBindConnect_heard (fd : Int) (peer : AddrInfo) :
    Keeps (Net.Heard (F := F) lines) (sysBindConnect fd peer) := by
  have rest : ∀ success, Keeps (Net.Heard (F := F) lines)
      (do logSys (.bindConnect fd peer success); return success) :=
    fun _ => .bind (logSys_heard fun _ _ same => by cases same) fun _ => .pure
  unfold sysBindConnect
  exact .ite (.bind .pure rest) (.bind (answer_heard _) rest)

theorem tryPeers_heard (pref : Nat) (peers : List AddrInfo) :
    Keeps (Net.Heard (F := F) lines) (tryPeers pref peers) := by
  induction peers with
  | nil => exact .pure
  | cons peer peers ih =>
    unfold tryPeers
    refine .ite (.bind ?_ fun fd => .bind (modifySock_heard _) fun _ => ?_) ih
    · exact .bind (answer_heard _) fun _ => .bind (logSys_heard fun _ _ same => by cases same) fun _ => .pure
    · refine .bind (sysBindConnect_heard fd peer) fun success => .ite (modifySock_heard _) ?_
      exact .bind (logSys_heard fun _ _ same => by cases same) fun _ => .bind (modifySock_heard _) fun _ => ih

theorem tryPrefs_heard (peers : List AddrInfo) (prefs : List Nat) :
    Keeps (Net.Heard (F := F) lines) (tryPrefs peers prefs) := by
  induction prefs with
  | nil => exact .pure
  | cons pref prefs ih =>
    exact .bind (tryPeers_heard _ _) fun _ => .bind getSock_heard fun _ => .ite ih .pure

/-- A new connection is deaf, whatever the last one was. -/
theorem connect_deaf (prefs : List Nat) (s : Net F) (heard : s.Heard lines) :
    Ends (connect prefs) s (fun _ t => t.Deaf lines) (fun _ t => t.Heard lines) := by
  unfold connect
  have found : Keeps (Net.Heard (F := F) lines) (findPeerInfo prefs) := by
    refine .bind (answer_heard _) fun r => ?_
    cases r with
    | none => exact .throw
    | some peers => exact .bind (modifySock_heard _) fun _ => tryPrefs_heard _ _
  refine (found s heard).bind fun _ t heard => ?_
  rw [ends_bind, ends_modifySock, ends_bind, ends_getSock, ends_bind, ends_logSys, ends_pure]
  constructor
  · show (hears (t.log ++ _)).lines = lines
    rw [hears_concat]
    exact heard
  · show (hears (t.log ++ _)).ear = .deaf
    rw [hears_concat]
    rfl

theorem getPacket_deaf (s : Net F) (deaf : s.Deaf lines) :
    Ends getPacket s (fun _ t => t.Deaf lines) (fun _ t => t.Heard lines) := by
  refine (getPacket_ends s).mono ?_ ?_
  · rintro mPacket t ⟨log, -⟩
    have same : hears t.log = hears s.log := by
      rw [log, hears_concat, Hearing.hear, deaf.deaf]
    exact ⟨by unfold Net.Heard; rw [same]; exact deaf.heard, by rw [same]; exact deaf.deaf⟩
  · rintro e t ⟨reads, -⟩
    unfold Net.Heard
    rw [reads.log]
    exact deaf.heard

theorem close_deaf (s : Net F) (deaf : s.Deaf lines) :
    Ends close s (fun _ t => t.Deaf lines) (fun _ t => t.Heard lines) := by
  rw [ends_of_ok (close_run s)]
  split
  · constructor
    · show (hears (s.log ++ _)).lines = lines
      rw [hears_concat]
      exact deaf.heard
    · show (hears (s.log ++ _)).ear = .deaf
      rw [hears_concat]
      rfl
  · exact deaf

/-- The search for a server hears no line. -/
theorem findServer_deaf (fuel : Nat) (s : Net F) (heard : s.Heard lines)
    (deaf : s.sock.mGoodServer = true → s.Deaf lines) :
    Ends (findServer fuel) s (fun good t => t.Heard lines ∧ (good = true → t.Deaf lines))
      (fun _ t => t.Heard lines) := by
  induction fuel generalizing s with
  | zero => exact heard
  | succ fuel ih =>
    unfold findServer
    rw [ends_bind, ends_getSock]
    split
    · next good => exact ⟨heard, fun _ => deaf good⟩
    · refine (connect_deaf _ s heard).bind fun fd t deaf => ?_
      split
      · exact ⟨deaf.heard, fun good => absurd good Bool.false_ne_true⟩
      · refine (getPacket_deaf t deaf).bind fun mPacket u deaf => ?_
        have judged : Net.Deaf lines { u with sock := u.sock.judged } := ⟨deaf.heard, deaf.deaf⟩
        rw [ends_bind, ends_modifySock, ends_bind, ends_getSock]
        split
        · exact (close_deaf _ judged).bind fun _ v deaf => ih v deaf.heard fun _ => deaf
        · exact ih _ judged.heard fun _ => judged

/-- After the login and its answer, packets are lines. -/
theorem openConnection_heard (s : Net F) (heard : s.Heard lines)
    (fresh : s.sock.mGoodServer = false) :
    Ends openConnection s
      (fun opened t => t.Heard lines ∧ (opened = true → (hears t.log).ear = .listening))
      (fun _ t => t.Heard lines) := by
  unfold openConnection
  rw [ends_bind, ends_get]
  refine (findServer_deaf _ s heard fun good => ?_).bind fun good t found => ?_
  · rw [fresh] at good
    cases good
  · split
    · simp only [putLine, ends_bind, ends_getSock]
      refine ends_answer (fun n script => ?_) found.1
      rw [ends_logSys, ends_pure]
      have sent : hears (t.log ++ [.write t.sock.sockFd t.sock.validate]) =
          ⟨.answer, lines⟩ := by
        rw [hears_concat, Hearing.hear, show (hears t.log).lines = lines from found.1]
      refine (getPacket_ends _).mono ?_ ?_
      · rintro mPacket u ⟨log, -⟩
        have answered : hears u.log = ⟨.listening, lines⟩ := by
          rw [log, hears_concat, sent]
          rfl
        exact ⟨congrArg Hearing.lines answered, fun _ => congrArg Hearing.ear answered⟩
      · rintro e u ⟨reads, -⟩
        unfold Net.Heard
        rw [reads.log, sent]
    · exact ⟨found.1, fun opened => absurd opened Bool.false_ne_true⟩

end Connect

/-! ## The loop over the packets -/

/-- The reports of a history. -/
def reportsOf (h : List (Obs F)) : List (AprsWxReport F) := h.filterMap Obs.report

theorem reportsOf_concat (h : List (Obs F)) (o : Obs F) :
    reportsOf (h ++ [o]) = reportsOf h ++ o.report.toList := by
  unfold reportsOf
  rw [List.filterMap_append]
  cases reported : o.report <;> simp [reported]

section Packets

variable [CDouble F]

/-- A report is what an object of the configuration has decoded of a line, at the report's time. -/
def IsReportOf (config : Config F) (line : StdString) (wx : AprsWxReport F) : Prop :=
  ∃ sock t : AprsIs F, sock.Configured config ∧
    (decode wx.mTimePoint).run (sock.received line) = .ok (.report wx) t ∧
    wx.mPacketStatus = .WxPacket

/-- The weather packets among the lines. -/
def weatherLines (lines : List StdString) : List StdString := lines.filter (IsWeatherLine ·)

/-- The times of reports. -/
def timesOf (reports : List (AprsWxReport F)) : List Int := reports.map fun wx => wx.mTimePoint

/-- The reports are those of the weather packets among the lines, one each, in their order, with the
readings of the clock that come after the packets in the answers that have been used. -/
structure Reported (config : Config F) (used : List Ext) (lines : List StdString)
    (reports : List (AprsWxReport F)) : Prop where
  decoded : List.Forall₂ (IsReportOf config) (weatherLines lines) reports
  timed : Timed used (weatherLines lines) (timesOf reports)

variable {config : Config F} {used es : List Ext} {lines : List StdString}
  {reports : List (AprsWxReport F)} {line : StdString}

omit [CDouble F] in
theorem weatherLines_other (other : ¬ IsWeatherLine line) :
    weatherLines (lines ++ [line]) = weatherLines lines := by
  unfold weatherLines
  rw [List.filter_append, List.filter_cons_of_neg (by simpa using other), List.filter_nil,
    List.append_nil]

theorem Reported.append (reported : Reported config used lines reports) (more : List Ext) :
    Reported config (used ++ more) lines reports :=
  ⟨reported.decoded, reported.timed.append more⟩

theorem Reported.other (reported : Reported config used lines reports)
    (other : ¬ IsWeatherLine line) : Reported config used (lines ++ [line]) reports := by
  constructor
  · rw [weatherLines_other other]
    exact reported.decoded
  · rw [weatherLines_other other]
    exact reported.timed

theorem Reported.weather (reported : Reported config used lines reports)
    (weather : IsWeatherLine line) (read : ReadFrom line es) {wx : AprsWxReport F}
    (decoded : IsReportOf config line wx) :
    Reported config (used ++ (es ++ [.now wx.mTimePoint])) (lines ++ [line]) (reports ++ [wx]) := by
  have last : weatherLines (lines ++ [line]) = weatherLines lines ++ [line] := by
    unfold weatherLines
    rw [List.filter_append, List.filter_cons_of_pos (by simpa using weather), List.filter_nil]
  constructor
  · rw [last]
    exact List.rel_append reported.decoded (.cons decoded .nil)
  · rw [last, timesOf, List.map_append]
    exact reported.timed.concat read

/-- No packet of the server, and no empty one, is a weather packet. -/
theorem not_isWeatherLine {line : StdString} (comment : line.chars.headD '\x00' = '#') :
    ¬ IsWeatherLine line := fun weather => weather.1 comment

theorem head_of_startsWith {line : StdString} (server : line.startsWith "# aprsc".toList = true) :
    line.chars.headD '\x00' = '#' := by
  obtain ⟨rest, split⟩ := List.isPrefixOf_iff_prefix.mp server
  rw [← split]
  rfl

section Same

variable {r : List (AprsWxReport F)}

/-- The reports of the history are `r`. -/
def Main.Has (r : List (AprsWxReport F)) (s : Main F) : Prop := reportsOf s.history = r

omit [CDouble F] in
theorem onNet_has {α : Type} (x : NetM F α) : Keeps (Main.Has r) (onNet x) :=
  .zoom_frame (fun _ _ has => has) x

omit [CDouble F] in
theorem onAggregator_has {α : Type} (x : Aggregating F α) : Keeps (Main.Has r) (onAggregator x) :=
  .zoom_frame (fun _ _ has => has) x

omit [CDouble F] in
theorem observe_has {o : Obs F} (other : o.report = none) : Keeps (Main.Has r) (observe o) := by
  refine .modify fun s has => ?_
  show reportsOf (s.history ++ [o]) = r
  rw [reportsOf_concat, other]
  exact (List.append_nil _).trans has

theorem pushIfConfigured_has (cause : Cause) : Keeps (Main.Has r) (pushIfConfigured config cause) := by
  unfold pushIfConfigured
  split
  · refine .bind (value_keeps _ _) fun tls => .bind ?_ fun _ => .pure
    refine .bind (onAggregator_has _) fun body => .ite ?_ .pure
    refine .bind (onNet_has _) fun _ => .bind (observe_has rfl) fun _ => .pure
  · exact .pure

theorem handleServerLine_has : Keeps (Main.Has r) (handleServerLine config) := by
  refine .bind (value_keeps _ _) fun _ => .ite (.bind .get fun _ => ?_) .pure
  exact .ite (pushIfConfigured_has _) .pure

end Same

/-- A weather packet is a report, and whatever happens then there is no other. -/
theorem handleWeather_has (wx : AprsWxReport F) (s : Main F) :
    Ends (handleWeather config wx) s (fun _ t => t.Has (reportsOf s.history ++ [wx]))
      (fun _ t => t.Has (reportsOf s.history ++ [wx])) := by
  have rest : Keeps (Main.Has (reportsOf s.history ++ [wx])) (do
      modify fun s => { s with weatherAggregator := s.weatherAggregator.store wx }
      let now ← onNet (answer Ext.asNow)
      onAggregator (aggregateData now)
      observe (.aggregated now (← get).weatherAggregator)
      pushIfConfigured config .weatherPacket) := by
    refine .bind (.modify fun _ has => has) fun _ => .bind (onNet_has _) fun now => ?_
    refine .bind (onAggregator_has _) fun _ => .bind .get fun _ => ?_
    exact .bind (observe_has rfl) fun _ => pushIfConfigured_has _
  unfold handleWeather
  rw [ends_bind, observe, ends_modify]
  exact rest _ (reportsOf_concat _ _)

/-- What handling a line does to the reports, and the reading of the clock that it takes for one:
where it returns, and where it stops. -/
structure TakesLine (config : Config F) (line : StdString) (s t : Main F) : Prop where
  weather : IsWeatherLine line → ∃ wx rest, IsReportOf config line wx ∧
    reportsOf t.history = reportsOf s.history ++ [wx] ∧
    s.net.script = .now wx.mTimePoint :: rest ∧ t.net.script <:+ rest
  other : ¬ IsWeatherLine line → reportsOf t.history = reportsOf s.history

omit [CDouble F] in
theorem charAtIndex_received (u : AprsIs F) (line : StdString) :
    (charAtIndex 0).run (u.received line) = .ok (line.chars.headD '\x00') (u.received line) := by
  unfold charAtIndex
  rw [EStateM.run_bind, EStateM.run_get]
  show (line.at_ 0).run _ = _
  unfold StdString.at_
  rw [if_pos (Nat.zero_le _)]
  rfl

/-- `decode` makes a report of status `WxPacket` of the weather packets only, and of all of them. -/
theorem decode_takes (now : Int) {u t : AprsIs F} {line : StdString} {d : Decoded F}
    (configured : u.Configured config) (decoded : (decode now).run (u.received line) = .ok d t) :
    (d.status = .WxPacket ∧ HoldsWeather (payload line.chars) ∧
        ∃ wx, d = .report wx ∧ wx.mTimePoint = now ∧ IsReportOf config line wx) ∨
      (d.status ≠ .WxPacket ∧ ¬ HoldsWeather (payload line.chars)) := by
  by_cases holds : HoldsWeather (payload line.chars)
  · obtain ⟨mLat, mLon, parsed⟩ :=
      parse_of_weather now u.mQthPosition u.mRadius (textBefore '>' line.chars) holds
    obtain rfl := Option.some.inj (parsed.symm.trans (parse_of_decode decoded))
    have packet := weatherOf_packet now u.mQthPosition u.mRadius (textBefore '>' line.chars)
      (payload line.chars) mLat mLon
    have status := congrArg AprsPacket.mPacketStatus packet
    have time := congrArg AprsPacket.mTimePoint packet
    refine .inl ⟨status, holds, _, rfl, time, u, t, configured, ?_, status⟩
    rw [time]
    exact decoded
  · exact .inr ⟨fun status => holds (decode_weather decoded status).1, holds⟩

/-- What is done with a decoded packet, after the clock was asked. -/
theorem handleDecoded_takes {now : Int} {rest : List Ext} {s : Main F} {u v : AprsIs F}
    {line : StdString} {d : Decoded F} (asked : s.net.script = .now now :: rest)
    (configured : u.Configured config) (decoded : (decode now).run (u.received line) = .ok d v)
    (first : line.chars.headD '\x00' ≠ '#') :
    Ends (handleDecoded config d) { s with net := { s.net with sock := v, script := rest } }
      (fun _ t => TakesLine config line s t) (fun _ t => TakesLine config line s t) := by
  have handles := handleDecoded_handles config d { s with net := { s.net with sock := v, script := rest } }
  rcases decode_takes now configured decoded with ⟨status, holds, wx, rfl, time, reported⟩ | ⟨status, not⟩
  · subst time
    have has : Ends (handleDecoded config (.report wx))
        { s with net := { s.net with sock := v, script := rest } }
        (fun _ t => t.Has (reportsOf s.history ++ [wx]))
        (fun _ t => t.Has (reportsOf s.history ++ [wx])) := by
      unfold handleDecoded
      rw [status, ends_bind]
      exact (handleWeather_has wx _).mono (fun _ _ has => has) (fun _ _ has => has)
    have takes : ∀ t : Main F, t.Has (reportsOf s.history ++ [wx]) → t.net.script <:+ rest →
        TakesLine config line s t := fun t has used =>
      ⟨fun _ => ⟨wx, rest, reported, has, asked, used⟩, fun not => absurd ⟨first, holds⟩ not⟩
    exact (has.and handles).mono (fun _ t ⟨has, handles⟩ => takes t has handles.script)
      (fun _ t ⟨has, handles, _⟩ => takes t has handles.script)
  · have same : TakesLine config line s { s with net := { s.net with sock := v, script := rest } } :=
      ⟨fun weather => absurd weather.2 not, fun _ => rfl⟩
    unfold handleDecoded
    split
    · next weather => exact absurd weather status
    · exact same
    · exact same

theorem handlePacket_takes {s : Main F} {u : AprsIs F} {line : StdString}
    (received : s.net.sock = u.received line) (configured : u.Configured config) :
    Ends (handlePacket config) s (fun _ t => TakesLine config line s t)
      (fun _ t => TakesLine config line s t ∨ reportsOf t.history = reportsOf s.history) := by
  unfold handlePacket
  rw [ends_bind, ends_get]
  dsimp only
  cases server : s.net.sock.hasPrefix "# aprsc" with
  | true =>
    rw [received] at server
    have not := not_isWeatherLine (head_of_startsWith server)
    simp only [Bool.not_true, Bool.false_eq_true, if_false]
    rw [ends_bind]
    refine (handleServerLine_has (r := reportsOf s.history) s rfl).mono ?_ fun _ _ has => .inr has
    intro _ t has
    rw [ends_pure]
    exact ⟨fun weather => absurd weather not, fun _ => has⟩
  | false =>
    simp only [Bool.not_false, if_true]
    rw [ends_bind, onSock, ends_zoom_of_ok (charAtIndex_received u line) received]
    split
    · next first =>
      rw [ends_bind]
      refine ends_ask (fun e now script more asked => ?_) (.inr rfl)
      have next : s.net.script = .now now :: script := by
        cases e with
        | now t =>
          obtain rfl := Option.some.inj asked
          exact more
        | _ => cases asked
      rw [ends_bind, onSock, ends_zoom]
      change Ends (decode now) (u.received line) _ _
      unfold Ends
      cases decoded : (decode now).run (u.received line) with
      | ok d v =>
        exact (handleDecoded_takes next configured decoded first).mono (fun _ _ takes => takes)
          (fun _ _ takes => .inl takes)
      | error e t => exact .inr rfl
    · next comment =>
      have not := not_isWeatherLine (not_not.mp comment)
      exact ⟨fun weather => absurd weather not, fun _ => rfl⟩

/-! ## The daemon -/

/-- What the answers used so far, of all those of the script, say of the reports of a state. -/
def Main.Accounts (config : Config F) (script : List Ext) (lines : List StdString) (s : Main F) : Prop :=
  ∃ used, script = used ++ s.net.script ∧ Reported config used lines (reportsOf s.history)

/-- Every line has been taken. -/
def Main.UpToDate (config : Config F) (script : List Ext) (s : Main F) : Prop :=
  s.Accounts config script (hears s.net.log).lines

/-- What holds while there is a connection. -/
structure Main.Ingests (config : Config F) (script : List Ext) (s : Main F) : Prop where
  upToDate : s.UpToDate config script
  listening : (hears s.net.log).ear = .listening
  configured : s.net.sock.Configured config

/-- What holds where a run stops: the last line may not have been taken. -/
def Main.Behind (config : Config F) (script : List Ext) (s : Main F) : Prop :=
  ∃ taken rest, (hears s.net.log).lines = taken ++ rest ∧ rest.length ≤ 1 ∧
    s.Accounts config script taken

variable {s t : Main F} {script : List Ext}

theorem Main.UpToDate.behind (upToDate : s.UpToDate config script) : s.Behind config script :=
  ⟨_, [], (List.append_nil _).symm, Nat.zero_le 1, upToDate⟩

/-- What makes no report accounts for the same ones. -/
theorem Main.Accounts.of_eq (accounts : s.Accounts config script lines)
    (reports : t.Has (reportsOf s.history)) (used : t.net.script <:+ s.net.script) :
    t.Accounts config script lines := by
  obtain ⟨before, rfl, reported⟩ := accounts
  obtain ⟨more, split⟩ := used
  refine ⟨before ++ more, by rw [← split, List.append_assoc], ?_⟩
  rw [show reportsOf t.history = _ from reports]
  exact reported.append more

/-- What hears no line and makes no report changes nothing. -/
theorem Main.UpToDate.of_eq (upToDate : s.UpToDate config script)
    (lines : t.net.Heard (hears s.net.log).lines) (reports : t.Has (reportsOf s.history))
    (used : t.net.script <:+ s.net.script) : t.UpToDate config script := by
  unfold Main.UpToDate
  rw [show (hears t.net.log).lines = _ from lines]
  exact Main.Accounts.of_eq upToDate reports used

/-- A line that was read has been handled. -/
theorem TakesLine.accounts (takes : TakesLine config line s t) (read : ReadFrom line es)
    (script_eq : script = used ++ es ++ s.net.script)
    (reported : Reported config used lines (reportsOf s.history))
    (left : t.net.script <:+ s.net.script) : t.Accounts config script (lines ++ [line]) := by
  by_cases weather : IsWeatherLine line
  · obtain ⟨wx, rest, decoded, reports, asked, more, rfl⟩ := takes.weather weather
    refine ⟨used ++ (es ++ [.now wx.mTimePoint]) ++ more, ?_, ?_⟩
    · rw [script_eq, asked]
      simp
    · rw [reports]
      exact (reported.weather weather read decoded).append more
  · obtain ⟨more, split⟩ := left
    refine ⟨used ++ (es ++ more), ?_, ?_⟩
    · rw [script_eq, ← split]
      simp
    · rw [takes.other weather]
      exact (reported.other weather).append _

theorem handlePacket_ingests {u : AprsIs F} (received : s.net.sock = u.received line)
    (configured : u.Configured config) (listening : (hears s.net.log).ear = .listening)
    (heard : (hears s.net.log).lines = lines ++ [line]) (read : ReadFrom line es)
    (script_eq : script = used ++ es ++ s.net.script)
    (reported : Reported config used lines (reportsOf s.history)) :
    Ends (handlePacket config) s (fun _ t => t.Ingests config script)
      (fun _ t => t.Behind config script) := by
  refine ((handlePacket_takes received configured).and (handlePacket_handles config s)).mono ?_ ?_
  · rintro _ t ⟨takes, reads⟩
    refine ⟨?_, by rw [reads.log]; exact listening, ?_⟩
    · unfold Main.UpToDate
      rw [reads.log, heard]
      exact takes.accounts read script_eq reported reads.script
    · exact configured.of_eq (by rw [reads.sock.mQthPosition, received]; rfl)
        (by rw [reads.sock.mRadius, received]; rfl)
  · rintro e t ⟨takes | silent, reads, -⟩
    · refine ⟨lines ++ [line], [], ?_, Nat.zero_le 1, takes.accounts read script_eq reported reads.script⟩
      rw [reads.log, heard, List.append_nil]
    · refine ⟨lines, [line], by rw [reads.log, heard], le_rfl, ?_⟩
      have before : s.Accounts config script lines := ⟨used ++ es, script_eq, reported.append es⟩
      exact before.of_eq silent reads.script

theorem packetLoop_ingests (fuel packetCount : Nat) (s : Main F) (ingests : s.Ingests config script) :
    Ends (packetLoop config fuel packetCount) s (fun _ t => t.Ingests config script)
      (fun _ t => t.Behind config script) := by
  induction fuel generalizing packetCount s with
  | zero => exact ingests.upToDate.behind
  | succ fuel ih =>
    unfold packetLoop
    rw [ends_bind]
    refine ends_value (fun rate _ => ?_) ingests.upToDate.behind
    split
    · rw [ends_bind, onNet, ends_zoom]
      refine ((getPacket_ends _).and (getPacket_readFrom _)).mono ?_ ?_
      · rintro mPacket net ⟨⟨log, reads, -, -, packet⟩, es, taken, spelled⟩
        have heard : hears net.log = ⟨.listening, (hears s.net.log).lines ++ [mPacket]⟩ := by
          rw [log, hears_concat, Hearing.hear, show (hears (netLens.get s).log).ear = _ from
            ingests.listening]
          rfl
        have listening := congrArg Hearing.ear heard
        have configured : net.sock.Configured config :=
          ingests.configured.of_eq reads.mQthPosition reads.mRadius
        obtain ⟨used, script_eq, reported⟩ := ingests.upToDate
        rw [show s.net.script = es ++ net.script from taken, ← List.append_assoc] at script_eq
        split
        · next some =>
          obtain ⟨u, received⟩ := packet.resolve_left some
          have same : u.Configured config := by
            rw [received] at configured
            exact configured.of_eq rfl rfl
          refine (handlePacket_ingests (s := netLens.set net s) received same listening
            (congrArg Hearing.lines heard) (spelled.resolve_left some) script_eq reported).bind
            fun returns t ingests => ?_
          split
          · exact ingests
          · exact ih _ t ingests
        · next empty =>
          rw [not_not.mp empty] at heard
          refine ih _ _ ⟨⟨used ++ es, script_eq, ?_⟩, listening, configured⟩
          show Reported config (used ++ es) (hears net.log).lines (reportsOf s.history)
          rw [heard]
          exact (reported.other (by decide)).append es
      · rintro e net ⟨⟨reads, -⟩, -⟩
        refine Main.UpToDate.behind (ingests.upToDate.of_eq (t := netLens.set net s) ?_ rfl reads.script)
        show (hears net.log).lines = _
        rw [reads.log]
        rfl
    · exact ingests

omit [CDouble F] in
/-- Neither `close` nor the destructor hears anything. -/
theorem close_lines (s : Net F) : (final (close.run s)).Heard (hears s.log).lines := by
  rw [close_run]
  split
  · show (hears (s.log ++ [.close s.sock.sockFd])).lines = _
    rw [hears_concat]
    rfl
  · rfl

omit [CDouble F] in
theorem close_script (s : Net F) : (final (close.run s)).script <:+ s.script := by
  rw [close_run]
  split
  · exact List.suffix_refl s.script
  · exact List.suffix_refl s.script

theorem Main.UpToDate.destroyed (upToDate : s.UpToDate config script) :
    s.destroyed.UpToDate config script :=
  upToDate.of_eq (close_lines s.net) rfl (close_script s.net)

theorem Main.Behind.destroyed (behind : s.Behind config script) : s.destroyed.Behind config script := by
  obtain ⟨taken, rest, split, short, accounts⟩ := behind
  exact ⟨taken, rest, (close_lines s.net).trans split, short,
    accounts.of_eq rfl (close_script s.net)⟩

/-- The packets of a connection are taken, and those of the earlier ones have been. -/
theorem useSock_ingests (upToDate : s.UpToDate config script) (configured : s.net.sock.Configured config)
    (fresh : s.net.sock.mGoodServer = false) :
    Ends (useSock config) s (fun _ t => t.UpToDate config script)
      (fun _ t => t.Behind config script) := by
  unfold useSock
  rw [ends_bind, onNet, ends_zoom]
  refine ((openConnection_heard s.net rfl fresh).and (openConnection_advances s.net)).mono ?_ ?_
  · rintro opened net ⟨⟨heard, listening⟩, advances⟩
    have same : Main.UpToDate config script (netLens.set net s) :=
      upToDate.of_eq heard rfl advances.script
    have received : Ends (receivePackets config opened) (netLens.set net s)
        (fun _ t => t.UpToDate config script) (fun _ t => t.Behind config script) := by
      unfold receivePackets
      split
      · next opened =>
        rw [ends_bind, ends_get]
        refine (packetLoop_ingests _ 0 _ ⟨same, listening opened, ?_⟩).mono
          (fun _ _ ingests => ingests.upToDate) fun _ _ behind => behind
        exact configured.of_eq advances.mQthPosition advances.mRadius
      · exact same
    refine received.bind fun returns t upToDate => ?_
    split
    · exact upToDate
    · rw [ends_bind, onNet, ends_zoom, ends_of_ok (close_run _)]
      have closed := close_lines t.net
      have left := close_script t.net
      rw [close_run] at closed left
      exact upToDate.of_eq closed rfl left
  · rintro e net ⟨heard, advances, -⟩
    exact (upToDate.of_eq (t := netLens.set net s) heard rfl advances.script).behind

theorem session_ingests (filter : List Char) (upToDate : s.UpToDate config script) :
    Ends (session config filter) s (fun _ t => t.UpToDate config script)
      (fun _ t => t.Behind config script) := by
  unfold session
  rw [ends_bind]
  refine ends_value (fun callsign _ => ?_) upToDate.behind
  rw [ends_bind]
  refine ends_value (fun passCode _ => ?_) upToDate.behind
  rw [ends_bind]
  refine ends_ask (fun e now more asked _ => ?_) upToDate.behind
  rw [ends_bind, onNet, ends_zoom, ends_modifySock, ends_andFinally]
  have fresh : ({ s with net := ⟨newSock config callsign passCode filter now, more, s.net.log⟩ } :
      Main F).UpToDate config script :=
    upToDate.of_eq rfl rfl (by rw [asked]; exact List.suffix_cons e more)
  refine (useSock_ingests fresh ⟨rfl, rfl, rfl⟩ rfl).mono ?_ ?_
  · intro _ t upToDate
    exact upToDate.destroyed
  · intro e t behind
    split
    · exact behind.destroyed
    · exact behind

theorem mainLoop_ingests (filter : List Char) (fuel : Nat) (upToDate : s.UpToDate config script) :
    Ends (mainLoop config filter fuel) s (fun _ t => t.Behind config script)
      (fun _ t => t.Behind config script) := by
  induction fuel generalizing s with
  | zero => exact upToDate.behind
  | succ fuel ih =>
    unfold mainLoop
    rw [ends_bind]
    refine ends_ask (fun e running more asked _ => ?_) upToDate.behind
    have same : ({ s with net := { s.net with script := more } } : Main F).UpToDate config script :=
      upToDate.of_eq rfl rfl (by rw [asked]; exact List.suffix_cons e more)
    split
    · refine (session_ingests filter same).bind fun returns t upToDate => ?_
      split
      · exact upToDate.behind
      · exact ih upToDate
    · exact same.behind

theorem mainTry_ingests (format : F → List Char) (config : Config F) (script : List Ext) :
    Ends (mainTry format config) (.start script) (fun _ t => t.Behind config script)
      (fun _ t => t.Behind config script) := by
  have start : (Main.start script : Main F).UpToDate config script := ⟨[], rfl, .nil, trivial⟩
  unfold mainTry
  split
  · exact start.behind
  · rw [ends_bind]
    refine ends_value (fun _ _ => ?_) start.behind
    rw [ends_bind]
    refine ends_value (fun _ _ => ?_) start.behind
    rw [ends_bind]
    refine ends_value (fun _ _ => ?_) start.behind
    rw [ends_bind]
    refine ends_value (fun _ _ => ?_) start.behind
    rw [ends_bind, ends_get]
    exact mainLoop_ingests _ _ start

theorem main_accounts (format : F → List Char) (config : Config F) (script : List Ext) :
    let s := Main.after format config script
    ∃ taken rest, (hears s.net.log).lines = taken ++ rest ∧ rest.length ≤ 1 ∧
      Reported config script taken (reportsOf s.history) := by
  obtain ⟨taken, rest, split, short, used, script_eq, reported⟩ :
      (Main.after format config script).Behind config script :=
    Main.after_of (mainTry_ingests format config script)
  refine ⟨taken, rest, split, short, ?_⟩
  have all := reported.append (Main.after format config script).net.script
  rwa [← script_eq] at all

/-- In every run of the daemon, over any number of connections, with any answers and wherever it
stops: the reports that were received are those of the weather packets among the lines that the
servers have sent after the logins, one for each, in the order of the lines, and the time of a report
is the reading of the clock that follows right after its packet. No line is lost with a connection,
and none is taken twice; only the last line may not have been taken yet. -/
theorem main_ingests (format : F → List Char) (config : Config F) (script : List Ext) :
    let s := Main.after format config script
    ∃ taken rest, (hears s.net.log).lines = taken ++ rest ∧ rest.length ≤ 1 ∧
      List.Forall₂ (IsReportOf config) (weatherLines taken) (reportsOf s.history) ∧
      Timed script (weatherLines taken) (timesOf (reportsOf s.history)) := by
  obtain ⟨taken, rest, split, short, reported⟩ := main_accounts format config script
  exact ⟨taken, rest, split, short, reported.decoded, reported.timed⟩

end Packets

end AprsWx
