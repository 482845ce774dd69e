import AprsWx.Daemon

/-!
# What the daemon hears

Where the reports of a history come from: each was decoded from a packet that was received, by
an object with the place and the radius of the configuration.

* `main_hears`: in every run, every report was heard.
* `Story.received_of_stored`: every stored report is in the history.
-/

namespace AprsWx

open Double Prog

variable {F : Type} [CDouble F]

/-! ## Reports -/

/-- The object has the place and the radius of the configuration. -/
structure AprsIs.Configured (config : Config F) (sock : AprsIs F) : Prop where
  mLat : sock.mQthPosition.mLat = config.qthLatitude
  mLon : sock.mQthPosition.mLon = config.qthLongitude
  mRadius : sock.mRadius = config.filterRadius.map fun filterRadius : Int => ofRat filterRadius

/-- A report that an object of the configuration decoded from a packet. -/
def IsHeard (config : Config F) (wx : AprsWxReport F) : Prop :=
  ∃ (now : Int) (sock : AprsIs F) (packet : StdString) (t : AprsIs F), sock.Configured config ∧
    (decode now).run (sock.received packet) = .ok (.report wx) t ∧ wx.mPacketStatus = .WxPacket

/-- Every report of the history was heard. -/
def Main.Hears (config : Config F) (s : Main F) : Prop :=
  ∀ wx, .received wx ∈ s.history → IsHeard config wx

/-- What holds while there is a connection. -/
structure Main.Attends (config : Config F) (s : Main F) : Prop where
  hears : s.Hears config
  configured : s.net.sock.Configured config

variable {config : Config F} {s t : Main F}

theorem Main.Hears.observe (hears : s.Hears config) {o : Obs F}
    (heard : ∀ wx, o.report = some wx → IsHeard config wx) :
    ({ s with history := s.history ++ [o] } : Main F).Hears config := by
  intro wx mem
  rcases List.mem_append.mp mem with before | last
  · exact hears wx before
  · refine heard wx ?_
    rw [← List.mem_singleton.mp last]
    rfl

theorem Main.Hears.quiet (hears : s.Hears config) (quiet : s.Quiet t) : t.Hears config := by
  unfold Main.Hears
  rw [quiet.history]
  exact hears

theorem AprsIs.Configured.of_eq {sock sock' : AprsIs F} (configured : sock.Configured config)
    (mQthPosition : sock'.mQthPosition = sock.mQthPosition) (mRadius : sock'.mRadius = sock.mRadius) :
    sock'.Configured config := by
  refine ⟨?_, ?_, ?_⟩
  · rw [mQthPosition]
    exact configured.mLat
  · rw [mQthPosition]
    exact configured.mLon
  · rw [mRadius]
    exact configured.mRadius

theorem Main.Attends.quiet (attends : s.Attends config) (quiet : s.Quiet t) :
    t.Attends config :=
  ⟨attends.hears.quiet quiet,
    attends.configured.of_eq quiet.net.mQthPosition quiet.net.mRadius⟩

/-! ## What is done with a packet -/

theorem onNet_attends {α : Type} {x : NetM F α} (moving : Moving Net.Advances x) :
    Keeps (Main.Attends config) (onNet x) :=
  (onNet_quiet moving).keeps fun _ _ quiet attends => attends.quiet quiet

theorem observe_attends {o : Obs F} (heard : ∀ wx, o.report = some wx → IsHeard config wx) :
    Keeps (Main.Attends config) (observe o) :=
  .modify fun _ attends => ⟨attends.hears.observe heard, attends.configured⟩

theorem observe_other_attends {o : Obs F} (other : o.report = none) :
    Keeps (Main.Attends config) (observe o) := by
  refine observe_attends fun wx equal => ?_
  rw [other] at equal
  cases equal

theorem onAggregator_attends {α : Type} (x : Aggregating F α) :
    Keeps (Main.Attends config) (onAggregator x) :=
  .zoom_frame (fun _ _ attends => ⟨attends.hears, attends.configured⟩) x

theorem pushIfConfigured_attends (cause : Cause) :
    Keeps (Main.Attends config) (pushIfConfigured config cause) := by
  unfold pushIfConfigured
  split
  · refine .bind (value_keeps _ _) fun tls => .bind ?_ fun _ => .pure
    refine .bind (onAggregator_attends _) fun body => .ite ?_ .pure
    refine .bind (onNet_attends (answer_advances _)) fun _ => ?_
    exact .bind (observe_other_attends rfl) fun _ => .pure
  · exact .pure

theorem handleWeather_attends {wx : AprsWxReport F} (heard : IsHeard config wx) :
    Keeps (Main.Attends config) (handleWeather config wx) := by
  have received : ∀ wx', (Obs.received wx).report = some wx' → IsHeard config wx' := by
    intro wx' equal
    obtain rfl := Option.some.inj equal
    exact heard
  refine .bind (observe_attends received) fun _ => ?_
  refine .bind (.modify fun _ attends => ⟨attends.hears, attends.configured⟩) fun _ => ?_
  refine .bind (onNet_attends (answer_advances _)) fun now => ?_
  refine .bind (onAggregator_attends _) fun _ => .bind .get fun _ => ?_
  exact .bind (observe_other_attends rfl) fun _ => pushIfConfigured_attends _

theorem handleDecoded_attends {d : Decoded F}
    (heard : ∀ wx, d = .report wx → wx.mPacketStatus = .WxPacket → IsHeard config wx) :
    Keeps (Main.Attends config) (handleDecoded config d) := by
  unfold handleDecoded
  split
  · next status =>
    cases d with
    | packet p => exact .throw
    | report wx => exact .bind (handleWeather_attends (heard wx rfl status)) fun _ => .pure
  · exact .pure
  · exact .pure

theorem handleServerLine_attends : Keeps (Main.Attends config) (handleServerLine config) := by
  refine .bind (value_keeps _ _) fun _ => .ite (.bind .get fun _ => ?_) .pure
  exact .ite (pushIfConfigured_attends _) .pure

/-- The cursors of the object move, and nothing else of it changes. -/
theorem Main.Attends.reads (attends : s.Attends config) {sock : AprsIs F}
    (reads : s.net.sock.Reads sock) : (sockLens.set sock s).Attends config :=
  attends.quiet (.of_reads reads)

/-- What an object of the configuration decodes is heard. -/
theorem decode_heard (now : Int) {sock u : AprsIs F} {packet : StdString}
    (received : sock = u.received packet) (configured : sock.Configured config) :
    Ends (decode now) sock
      (fun d t => sock.Reads t ∧
        ∀ wx, d = .report wx → wx.mPacketStatus = .WxPacket → IsHeard config wx)
      (fun _ t => sock.Reads t) := by
  have reads := decode_reads now sock
  unfold Ends at reads ⊢
  cases decoded : (decode now).run sock with
  | ok d t =>
    rw [decoded] at reads
    refine ⟨reads, ?_⟩
    rintro wx rfl status
    rw [received] at decoded configured
    have same : u.Configured config := configured.of_eq rfl rfl
    exact ⟨now, u, packet, t, same, decoded, status⟩
  | error e t =>
    rw [decoded] at reads
    exact reads.1

theorem handlePacket_attends {u : AprsIs F} {packet : StdString}
    (received : s.net.sock = u.received packet) (attends : s.Attends config) :
    Ends (handlePacket config) s (fun _ t => t.Attends config) (fun _ t => t.Attends config) := by
  unfold handlePacket
  rw [ends_bind, ends_get]
  dsimp only
  split
  · rw [ends_bind, onSock, ends_zoom]
    refine (charAtIndex_ends 0 _).mono ?_ ?_
    · rintro c sock rfl
      show Ends (if c ≠ '#' then _ else _) s _ _
      split
      · rw [ends_bind]
        refine ends_ask (fun e now script more _ => ?_) attends
        have asked : Main.Attends config { s with net := { s.net with script := script } } :=
          attends.quiet ⟨rfl, rfl, by rw [more]; exact List.suffix_cons e script, rfl, rfl⟩
        rw [ends_bind, onSock, ends_zoom]
        refine (decode_heard now received attends.configured).mono ?_ ?_
        · rintro d sock ⟨reads, heard⟩
          exact handleDecoded_attends heard _ (asked.reads reads)
        · intro e sock reads
          exact asked.reads reads
      · exact attends
    · rintro e sock ⟨rfl, -⟩
      exact attends
  · rw [ends_bind]
    exact (handleServerLine_attends s attends).mono (fun _ _ attends => attends)
      (fun _ _ attends => attends)

/-! ## The loops -/

theorem packetLoop_attends (fuel packetCount : Nat) :
    Keeps (Main.Attends config) (packetLoop config fuel packetCount) := by
  induction fuel generalizing packetCount with
  | zero => exact .throw
  | succ fuel ih =>
    unfold packetLoop
    refine .bind (value_keeps _ _) fun rate => .ite ?_ .pure
    intro s attends
    rw [ends_bind, onNet, ends_zoom]
    refine (getPacket_ends _).mono ?_ ?_
    · rintro mPacket net ⟨-, reads, script, -, packet⟩
      have attends' : (netLens.set net s).Attends config :=
        attends.quiet ⟨rfl, rfl, script, reads.mQthPosition, reads.mRadius⟩
      split
      · next some =>
        obtain ⟨u, received⟩ := packet.resolve_left some
        refine (handlePacket_attends received attends').bind fun returns t attends => ?_
        split
        · exact attends
        · exact ih _ t attends
      · exact ih _ _ attends'
    · rintro e net ⟨reads, -⟩
      exact attends.quiet (t := netLens.set net s)
        ⟨rfl, rfl, reads.script, reads.sock.mQthPosition, reads.sock.mRadius⟩

theorem useSock_attends : Keeps (Main.Attends config) (useSock config) := by
  refine .bind (onNet_attends openConnection_advances) fun opened => .bind ?_ fun returns => ?_
  · exact .ite (.bind .get fun _ => packetLoop_attends _ _) .pure
  · exact .ite .pure (.bind (onNet_attends close_advances) fun _ => .pure)

theorem onNet_hears {α : Type} {x : NetM F α} (moving : Moving Net.Advances x) :
    Keeps (Main.Hears config) (onNet x) :=
  (onNet_quiet moving).keeps fun _ _ quiet hears => hears.quiet quiet

/-- A new object has the place and the radius of the configuration. -/
theorem session_hears (filter : List Char) :
    Keeps (Main.Hears config) (session config filter) := by
  intro s hears
  unfold session
  rw [ends_bind]
  refine ends_value (fun callsign _ => ?_) hears
  rw [ends_bind]
  refine ends_value (fun passCode _ => ?_) hears
  rw [ends_bind]
  refine ends_ask (fun e now script _ _ => ?_) hears
  rw [ends_bind, onNet, ends_zoom, ends_modifySock, ends_andFinally]
  have fresh : ({ s with net := ⟨newSock config callsign passCode filter now, script, s.net.log⟩ } :
      Main F).Attends config := ⟨hears, rfl, rfl, rfl⟩
  refine (useSock_attends _ fresh).mono ?_ ?_
  · intro _ t attends
    exact attends.hears.quiet (destroyed_quiet t)
  · intro e t attends
    split
    · exact attends.hears.quiet (destroyed_quiet t)
    · exact attends.hears

theorem mainLoop_hears (filter : List Char) (fuel : Nat) :
    Keeps (Main.Hears config) (mainLoop config filter fuel) := by
  induction fuel with
  | zero => exact .throw
  | succ fuel ih =>
    unfold mainLoop
    refine .bind (onNet_hears (answer_advances _)) fun _ => .ite ?_ .pure
    exact .bind (session_hears _) fun _ => .ite .pure ih

theorem mainTry_hears (format : F → List Char) (config : Config F) :
    Keeps (Main.Hears config) (mainTry format config) := by
  have present : ∀ {α : Type} (o : Option α), Keeps (Main.Hears config) (value .main o) := by
    rintro α (_ | a)
    · exact .throw
    · exact .pure
  unfold mainTry
  refine .ite .throw (.bind (present _) fun _ => .bind (present _) fun _ => ?_)
  refine .bind (present _) fun _ => .bind (present _) fun _ => .bind .get fun _ => ?_
  exact mainLoop_hears _ _

/-- In every run, wherever it stops, every report of the history was heard. -/
theorem main_hears (format : F → List Char) (config : Config F) (script : List Ext) :
    (Main.after format config script).Hears config := by
  have start : (Main.start script : Main F).Hears config := by
    intro wx mem
    cases mem
  exact Main.after_of (mainTry_hears format config _ start)

/-! ## The store -/

/-- Every stored report is in the history. -/
theorem Story.received_of_stored {whole : Bool} {h : List (Obs F)} {s : WeatherAggregator F}
    (story : Story config whole h s) : ∀ wx ∈ stored s.reports, .received wx ∈ h := by
  induction story with
  | start =>
    intro wx mem
    obtain ⟨name, found⟩ := mem_stored.mp mem
    simp at found
  | @received h s wx _ _ ih =>
    intro wx' mem
    obtain ⟨name, found⟩ := mem_stored.mp mem
    rw [WeatherAggregator.store, Std.ExtTreeMap.getElem?_insert] at found
    split at found
    · obtain rfl := Option.some.inj (Option.some.inj found)
      exact List.mem_append_right _ List.mem_cons_self
    · exact List.mem_append_left _ (ih wx' (mem_stored.mpr ⟨name, found⟩))
  | @aggregated h s now _ ih =>
    intro wx mem
    obtain ⟨name, found⟩ := mem_stored.mp mem
    change (s.reports.filter fun _ entry => AprsWx.live now entry)[name]? = _ at found
    rw [Std.ExtTreeMap.getElem?_filter'] at found
    have before := (Option.filter_eq_some_iff.mp found).1
    exact List.mem_append_left _ (ih wx (mem_stored.mpr ⟨name, before⟩))
  | pushed _ _ _ ih => exact fun wx mem => List.mem_append_left _ (ih wx mem)

end AprsWx
