import AprsWx.FirstReport

/-!
# The configuration file

The first part of `main` of `aprs_wx.cpp`: what it makes of the lines of the configuration file, and
what the daemon then does.

* `process_config`: the last line with a key decides its value.
* `mainTry_unconnected`: without a value that `main` needs, the program ends before a connection.
* `main_addressed`: in every run every push goes to the database of the configuration.
* `aprsWx_heeds_iff`: when invalid values end the program, and the port is the one that is given.
-/

namespace AprsWx

open Double Prog

variable {F : Type}

/-! ## The lines of the file -/

inductive ConfigItem
  | Callsign
  | Passcode
  | Latitude
  | Longitude
  | Radius
  | InfluxTLS
  | InfluxHost
  | InfluxPort
  | InfluxDb
  | InfluxRepeats
  | ServerCycleRate
  deriving DecidableEq

/-- The keys of `ConfigSpec`. -/
def ConfigItem.mKey : ConfigItem → String
  | .Callsign => "callsign"
  | .Passcode => "passcode"
  | .Latitude => "latitude"
  | .Longitude => "longitude"
  | .Radius => "radius"
  | .InfluxTLS => "influxTLS"
  | .InfluxHost => "influxHost"
  | .InfluxPort => "influxPort"
  | .InfluxDb => "influxDb"
  | .InfluxRepeats => "influxRepeats"
  | .ServerCycleRate => "cycleRate"

/-- A line that `process` recognises: its key and its text. -/
abbrev ConfigLine : Type := ConfigItem × List Char

/-- What `main` uses of the class `ConfigFile`. A conversion of a number returns the number that
the text denotes, or nothing; `parseText` may be given a function for the characters. -/
structure ConfigFile (F : Type) where
  isalnum : Char → Bool
  isdigit : Char → Bool
  toupper : Char → Char
  parseText : List Char → (Char → Bool) → Option (Char → Char) → Option (List Char)
  parseBoolean : List Char → Option Bool
  safeConvertDouble : List Char → Option F
  safeConvertLong : List Char → Option Int
  safeConvertUnsignedLong : List Char → Option Nat

/-- `configFile.open()`, with the lines that `process` recognises. -/
inductive ConfigStatus
  | OK (lines : List ConfigLine)
  | NO_FILE
  | OPEN_FAIL

/-- The conversion of a `long` to `unsigned`. -/
def toUnsigned (n : Int) : Nat := (n % 2 ^ 32).toNat

/-- What the lines have set so far, with what was written to `cerr`. -/
structure Reading (F : Type) where
  config : Config F := {}
  validFile : Bool := true
  cerr : List String := []

/-- What the handler does after its switch, which has left `config` and `validValue`. -/
def Reading.check (s : Reading F) (item : ConfigItem) (config : Config F) (validValue : Bool) :
    Reading F where
  config := config
  validFile := s.validFile && validValue
  cerr := s.cerr ++ if validValue then [] else ["Invalid config value: " ++ item.mKey ++ "\n"]

namespace ConfigFile

variable (file : ConfigFile F)

/-! ### The conversions -/

def toCallsign (data : List Char) : Option (List Char) :=
  file.parseText data (fun c => file.isalnum c || c = '-') (some file.toupper)

def toPassCode (data : List Char) : Option (List Char) := file.parseText data file.isdigit none

def toInfluxHost (data : List Char) : Option (List Char) :=
  file.parseText data (fun c => file.isalnum c || c = '.') none

/-- The optional of type `unsigned` is assigned one of type `long`. -/
def toInfluxPort (data : List Char) : Option Nat := (file.safeConvertLong data).map toUnsigned

def toInfluxDb (data : List Char) : Option (List Char) :=
  file.parseText data (fun c => file.isalnum c || c = '_') none

/-! ### The handler -/

/-- The handler that `main` gives to `process`. -/
def handle (s : Reading F) (line : ConfigLine) : Reading F :=
  let data := line.2
  match line.1 with
  | .Callsign =>
    let callsign := file.toCallsign data
    s.check .Callsign { s.config with callsign := callsign } callsign.isSome
  | .Passcode =>
    let passCode := file.toPassCode data
    s.check .Passcode { s.config with passCode := passCode } passCode.isSome
  | .Latitude =>
    let qthLatitude := file.safeConvertDouble data
    s.check .Latitude { s.config with qthLatitude := qthLatitude } qthLatitude.isSome
  | .Longitude =>
    let qthLongitude := file.safeConvertDouble data
    s.check .Longitude { s.config with qthLongitude := qthLongitude } qthLongitude.isSome
  | .Radius =>
    let filterRadius := file.safeConvertLong data
    s.check .Radius { s.config with filterRadius := filterRadius } filterRadius.isSome
  | .InfluxTLS =>
    let influxTls := file.parseBoolean data
    s.check .InfluxTLS { s.config with influxTls := influxTls } influxTls.isSome
  | .InfluxHost =>
    let influxHost := file.toInfluxHost data
    s.check .InfluxHost { s.config with influxHost := influxHost } influxHost.isSome
  | .InfluxPort =>
    -- the number is tested after its conversion to `unsigned`
    let influxPort := file.toInfluxPort data
    s.check .InfluxPort { s.config with influxPort := influxPort } (influxPort.any (0 < ·))
  | .InfluxDb =>
    let influxDb := file.toInfluxDb data
    s.check .InfluxDb { s.config with influxDb := influxDb } influxDb.isSome
  | .InfluxRepeats =>
    let influxRepeats := file.parseBoolean data
    s.check .InfluxRepeats { s.config with influxRepeats := influxRepeats } influxRepeats.isSome
  | .ServerCycleRate =>
    let serverCycleRate := file.safeConvertUnsignedLong data
    s.check .ServerCycleRate { s.config with serverCycleRate := serverCycleRate }
      serverCycleRate.isSome

def process (lines : List ConfigLine) : Reading F := lines.foldl file.handle {}

/-- The lines are processed, and the messages about the whole file are written. `configFilePath` is
the path as a stream writes it, in quotes. -/
def read (configFilePath : String) (lines : List ConfigLine) : Reading F :=
  let s := file.process lines
  { s with
    cerr := s.cerr ++
      (if s.validFile then [] else ["Invalid configuration file " ++ configFilePath ++ " exiting.\n"]) ++
      if s.config.influxHost.isSome && s.config.influxPort.isSome && s.config.influxDb.isSome then []
      else ["Influx database not specified in " ++ configFilePath ++ ", data will not be stored.\n"] }

/-- `main`, with the file that was opened. An invalid value is reported and nothing else. -/
def aprsWx [CDouble F] (format : F → List Char) (configFilePath : String) :
    ConfigStatus → MainM F Nat
  | .OK lines => main format (file.read configFilePath lines).config
  | .NO_FILE => throw (.exited 1)
  | .OPEN_FAIL => throw (.exited 1)

end ConfigFile

/-! ## What a file gives -/

/-- The text of the last line with a key. -/
def given (lines : List ConfigLine) (item : ConfigItem) : Option (List Char) :=
  lines.reverse.findSome? fun line => if line.1 = item then some line.2 else none

theorem given_concat (lines : List ConfigLine) (line : ConfigLine) (item : ConfigItem) :
    given (lines ++ [line]) item = if line.1 = item then some line.2 else given lines item := by
  unfold given
  rw [List.reverse_concat, List.findSome?_cons]
  split_ifs <;> rfl

namespace ConfigFile

variable (file : ConfigFile F)

/-- The configuration of the last lines, with the initial values of `main`. -/
def configured (lines : List ConfigLine) : Config F where
  callsign := (given lines .Callsign).bind file.toCallsign
  passCode := (given lines .Passcode).bind file.toPassCode
  qthLatitude := (given lines .Latitude).bind file.safeConvertDouble
  qthLongitude := (given lines .Longitude).bind file.safeConvertDouble
  filterRadius := (given lines .Radius).bind file.safeConvertLong
  influxTls := (given lines .InfluxTLS).elim (some false) file.parseBoolean
  influxRepeats := (given lines .InfluxRepeats).elim (some false) file.parseBoolean
  serverCycleRate := (given lines .ServerCycleRate).elim (some 100) file.safeConvertUnsignedLong
  influxHost := (given lines .InfluxHost).bind file.toInfluxHost
  influxPort := (given lines .InfluxPort).bind file.toInfluxPort
  influxDb := (given lines .InfluxDb).bind file.toInfluxDb

theorem process_concat (lines : List ConfigLine) (line : ConfigLine) :
    file.process (lines ++ [line]) = file.handle (file.process lines) line := by
  unfold process
  rw [List.foldl_append]
  rfl

theorem process_config (lines : List ConfigLine) :
    (file.process lines).config = file.configured lines := by
  induction lines using List.reverseRecOn with
  | nil => rfl
  | append_singleton lines line ih =>
    obtain ⟨item, data⟩ := line
    rw [process_concat]
    unfold configured at ih ⊢
    cases item <;> simp [given_concat, handle, Reading.check, ih]

/-- The handler accepts the text of a line. -/
def accepts (line : ConfigLine) : Bool := (file.handle {} line).validFile

theorem handle_accepts (s : Reading F) (line : ConfigLine) :
    (file.handle s line).validFile = (s.validFile && file.accepts line) ∧
      (file.handle s line).cerr = s.cerr ++ if file.accepts line then [] else
        ["Invalid config value: " ++ line.1.mKey ++ "\n"] := by
  obtain ⟨item, data⟩ := line
  cases item <;> exact ⟨rfl, rfl⟩

/-- Every line that is not accepted is reported, in the order of the lines. -/
theorem process_reports (lines : List ConfigLine) :
    (file.process lines).validFile = lines.all file.accepts ∧
      (file.process lines).cerr = (lines.filter fun line => !file.accepts line).map fun line =>
        "Invalid config value: " ++ line.1.mKey ++ "\n" := by
  induction lines using List.reverseRecOn with
  | nil => exact ⟨rfl, rfl⟩
  | append_singleton lines line ih =>
    obtain ⟨valid, cerr⟩ := file.handle_accepts (file.process lines) line
    rw [process_concat, valid, cerr, ih.1, ih.2, List.all_append, List.filter_append, List.map_append]
    cases accepted : file.accepts line <;> simp [accepted]

end ConfigFile

/-! ## What the daemon does -/

section Runs

variable [CDouble F] {config : Config F}

omit [CDouble F] in
/-- An answer that `main` takes from the script, or that is not there. -/
theorem ends_ask_or {α : Type} {f : Ext → Option α} {s : Main F} {Q : α → Main F → Prop}
    {E : Stop → Main F → Prop}
    (next : ∀ e a script, s.net.script = e :: script → f e = some a →
      Q a { s with net := { s.net with script := script } })
    (pending : (∀ e script, s.net.script = e :: script → f e = none) → E .pending s) :
    Ends (onNet (answer f)) s Q E := by
  rw [onNet, ends_zoom]
  exact ends_answer_or next pending

/-- A run that has ended before it did anything: it waits for nothing but the value of `run`. -/
structure Unconnected (script : List Ext) (e : Option Stop) (s : Main F) : Prop where
  log : s.net.log = []
  history : s.history = []
  ended : ∀ running more, script = .running running :: more → e ≠ some .pending

/-- Without a value that `main` needs, nothing is done. -/
theorem mainTry_unconnected (format : F → List Char) (not : ¬ config.Connects) (script : List Ext) :
    Ends (mainTry format config) (.start script) (fun _ t => Unconnected script none t)
      (fun e t => Unconnected script (some e) t) := by
  have stopped : ∀ {e : Stop}, e ≠ .pending → Unconnected script (some e) (.start script : Main F) :=
    fun other => ⟨rfl, rfl, fun _ _ _ same => other (Option.some.inj same)⟩
  unfold mainTry
  split
  · exact stopped Stop.noConfusion
  · next free =>
    rw [ends_bind]
    refine ends_value (fun lat hlat => ?_) (stopped Stop.noConfusion)
    rw [ends_bind]
    refine ends_value (fun lon hlon => ?_) (stopped Stop.noConfusion)
    rw [ends_bind]
    refine ends_value (fun radius hradius => ?_) (stopped Stop.noConfusion)
    rw [ends_bind]
    refine ends_value (fun callsign hcallsign => ?_) (stopped Stop.noConfusion)
    rw [ends_bind, ends_get]
    have passCode : config.passCode = none := by
      rw [hcallsign, Option.any_some, decide_eq_true_eq] at free
      rw [← Option.not_isSome_iff_eq_none]
      exact fun passCode => not ⟨⟨callsign, hcallsign, free⟩, passCode, by rw [hlat]; rfl,
        by rw [hlon]; rfl, by rw [hradius]; rfl⟩
    unfold mainLoop
    rw [ends_bind]
    refine ends_ask_or (fun e running more answered _ => ?_) (fun none => ⟨rfl, rfl, ?_⟩)
    · split
      · unfold session
        rw [ends_bind, ends_bind, hcallsign, value_some, ends_pure, ends_bind, passCode]
        exact ⟨rfl, rfl, fun _ _ _ same => Stop.noConfusion (Option.some.inj same)⟩
      · exact ⟨rfl, rfl, fun _ _ _ same => Option.some_ne_none _ same.symm⟩
    · rintro running more rfl -
      cases none _ _ rfl

/-- Every push goes to the database of the configuration. -/
def Main.Addressed (config : Config F) (s : Main F) : Prop :=
  ∀ cause t url body, .pushed cause t url body ∈ s.history → ∃ host tls port dataBase,
    config.Pushes host tls port dataBase ∧ url = buildUrl host tls port dataBase

omit [CDouble F] in
theorem onNet_addressed {α : Type} (x : NetM F α) : Keeps (Main.Addressed config) (onNet x) :=
  .zoom_frame (fun _ _ addressed => addressed) x

omit [CDouble F] in
theorem observe_addressed {o : Obs F} (addressed : ∀ cause t url body,
      o = .pushed cause t url body → ∃ host tls port dataBase,
        config.Pushes host tls port dataBase ∧ url = buildUrl host tls port dataBase) :
    Keeps (Main.Addressed config) (observe o) := by
  refine .modify fun s before cause t url body mem => ?_
  rcases List.mem_append.mp mem with mem | last
  · exact before cause t url body mem
  · exact addressed cause t url body (List.mem_singleton.mp last).symm

theorem pushToInflux_addressed {host : List Char} {tls : Bool} {port : Nat} {dataBase : List Char}
    (pushes : config.Pushes host tls port dataBase) (cause : Cause) :
    Keeps (Main.Addressed config) (pushToInflux cause host tls port dataBase) := by
  refine .bind (.zoom_frame (fun _ _ addressed => addressed) _) fun body => .ite ?_ .pure
  refine .bind (onNet_addressed _) fun _ => .bind (observe_addressed ?_) fun _ => .pure
  rintro _ _ _ _ same
  cases same
  exact ⟨host, tls, port, dataBase, pushes, rfl⟩

/-- A push is made with the values of the configuration, in a connection that receives packets. -/
theorem pushIfConfigured_addressed (receives : ∃ rate, config.serverCycleRate = some rate ∧ 0 < rate)
    (cause : Cause) : Keeps (Main.Addressed config) (pushIfConfigured config cause) := by
  unfold pushIfConfigured
  split
  · next host port dataBase hhost hport hdataBase =>
    intro s addressed
    rw [ends_bind]
    refine ends_value (fun tls htls => ?_) addressed
    have pushes : config.Pushes host tls port dataBase := ⟨hhost, htls, hport, hdataBase, receives⟩
    exact (pushToInflux_addressed pushes cause).bind (fun _ => .pure) s addressed
  · exact .pure

theorem handleDecoded_addressed (receives : ∃ rate, config.serverCycleRate = some rate ∧ 0 < rate)
    (packet : Decoded F) : Keeps (Main.Addressed config) (handleDecoded config packet) := by
  have other : ∀ o : Obs F, (∀ cause t url body, o ≠ .pushed cause t url body) →
      Keeps (Main.Addressed config) (observe o) := fun o other =>
    observe_addressed fun cause t url body same => absurd same (other cause t url body)
  unfold handleDecoded
  split
  · split
    · next wx =>
      refine .bind (.bind (other _ (fun _ _ _ _ same => by cases same)) fun _ => ?_) fun _ => .pure
      refine .bind (.modify fun _ addressed => addressed) fun _ => .bind (onNet_addressed _) fun now => ?_
      refine .bind (.zoom_frame (fun _ _ addressed => addressed) _) fun _ => .bind .get fun _ => ?_
      exact .bind (other _ (fun _ _ _ _ same => by cases same)) fun _ =>
        pushIfConfigured_addressed receives _
    · exact .throw
  · exact .pure
  · exact .pure

theorem handlePacket_addressed (receives : ∃ rate, config.serverCycleRate = some rate ∧ 0 < rate) :
    Keeps (Main.Addressed config) (handlePacket config) := by
  refine .bind .get fun s => .ite (.bind (.zoom_frame (fun _ _ addressed => addressed) _) fun c => ?_) ?_
  · refine .ite (.bind (onNet_addressed _) fun now => ?_) .pure
    exact .bind (.zoom_frame (fun _ _ addressed => addressed) _) fun packet =>
      handleDecoded_addressed receives packet
  · refine .bind (.bind (value_keeps _ _) fun repeats => .ite ?_ .pure) fun _ => .pure
    exact .bind .get fun _ => .ite (pushIfConfigured_addressed receives _) .pure

theorem packetLoop_addressed (fuel packetCount : Nat) :
    Keeps (Main.Addressed config) (packetLoop config fuel packetCount) := by
  induction fuel generalizing packetCount with
  | zero => exact .throw
  | succ fuel ih =>
    unfold packetLoop
    intro s addressed
    rw [ends_bind]
    refine ends_value (fun rate hrate => ?_) addressed
    split
    · next more =>
      have receives : ∃ rate, config.serverCycleRate = some rate ∧ 0 < rate :=
        ⟨rate, hrate, Nat.zero_lt_of_lt more⟩
      refine Keeps.bind (onNet_addressed _) (fun mPacket => ?_) s addressed
      refine .ite (.bind (handlePacket_addressed receives) fun returns => ?_) (ih _)
      exact .ite .pure (ih _)
    · exact addressed

theorem session_addressed (filter : List Char) :
    Keeps (Main.Addressed config) (session config filter) := by
  refine .bind (value_keeps _ _) fun callsign => .bind (value_keeps _ _) fun passCode => ?_
  refine .bind (onNet_addressed _) fun now => .bind (onNet_addressed _) fun _ => ?_
  refine .andFinally (.bind (onNet_addressed _) fun opened => .bind ?_ fun returns => ?_) ?_
  · exact .ite (.bind .get fun _ => packetLoop_addressed _ _) .pure
  · exact .ite .pure (.bind (onNet_addressed _) fun _ => .pure)
  · exact fun _ addressed => addressed

theorem mainLoop_addressed (filter : List Char) (fuel : Nat) :
    Keeps (Main.Addressed config) (mainLoop config filter fuel) := by
  induction fuel with
  | zero => exact .throw
  | succ fuel ih =>
    unfold mainLoop
    refine .bind (onNet_addressed _) fun running => .ite ?_ .pure
    exact .bind (session_addressed filter) fun returns => .ite .pure ih

theorem main_addressed (format : F → List Char) (config : Config F) (script : List Ext) :
    (Main.after format config script).Addressed config := by
  have start : (Main.start script : Main F).Addressed config := by
    intro cause t url body mem
    cases mem
  refine Main.after_of (Keeps.ite .throw ?_ _ start)
  refine .bind (value_keeps _ _) fun lat => .bind (value_keeps _ _) fun lon => ?_
  refine .bind (value_keeps _ _) fun radius => .bind (value_keeps _ _) fun callsign => ?_
  exact .bind .get fun s => mainLoop_addressed _ _

/-- `main` catches what `mainTry` throws. -/
theorem main_unconnected (format : F → List Char) (not : ¬ config.Connects) (script : List Ext) :
    Ends (main format config) (.start script) (fun _ t => Unconnected script none t)
      (fun e t => Unconnected script (some e) t) := by
  unfold main
  rw [ends_catching]
  refine (mainTry_unconnected format not script).mono (fun _ _ quiet => quiet) ?_
  intro e t quiet
  cases e with
  | thrown => exact ⟨quiet.log, quiet.history, fun _ _ _ same => Option.some_ne_none _ same.symm⟩
  | pending => exact quiet
  | undefined => exact quiet
  | exited => exact quiet

end Runs

/-! ## The claim of the messages -/

/-- No connection was opened, and nothing was pushed. -/
structure Main.Idle (s : Main F) : Prop where
  unconnected : ∀ fd, .connection fd ∈ s.net.log → fd < 0
  unpushed : ∀ cause t url body, .pushed cause t url body ∉ s.history

theorem Unconnected.idle {script : List Ext} {e : Option Stop} {s : Main F}
    (quiet : Unconnected script e s) : s.Idle := by
  constructor
  · rw [quiet.log]
    exact fun _ mem => absurd mem List.not_mem_nil
  · rw [quiet.history]
    exact fun _ _ _ _ => List.not_mem_nil

namespace ConfigFile

variable (file : ConfigFile F)

/-- The conversion of the text fails, or it is a port that is not positive. -/
def Invalid (line : ConfigLine) : Prop :=
  match line.1 with
  | .Callsign => file.toCallsign line.2 = none
  | .Passcode => file.toPassCode line.2 = none
  | .Latitude => file.safeConvertDouble line.2 = none
  | .Longitude => file.safeConvertDouble line.2 = none
  | .Radius => file.safeConvertLong line.2 = none
  | .InfluxTLS => file.parseBoolean line.2 = none
  | .InfluxHost => file.toInfluxHost line.2 = none
  | .InfluxPort => ∀ number, file.safeConvertLong line.2 = some number → number ≤ 0
  | .InfluxDb => file.toInfluxDb line.2 = none
  | .InfluxRepeats => file.parseBoolean line.2 = none
  | .ServerCycleRate => file.safeConvertUnsignedLong line.2 = none

/-- The number that is given for the port. -/
def portNumber (lines : List ConfigLine) : Option Int :=
  (given lines .InfluxPort).bind file.safeConvertLong

/-- A file with an invalid value ends the program before a connection or a push: it waits for nothing
but the value of `run`. And the port of every push is the number that is given. -/
structure Heeds [CDouble F] (format : F → List Char) (configFilePath : String)
    (lines : List ConfigLine) : Prop where
  exits : (∃ line ∈ lines, file.Invalid line) → ∀ script,
    Ends (file.aprsWx format configFilePath (.OK lines)) (.start script) (fun _ t => t.Idle)
      (fun e t => t.Idle ∧ ∀ running more, script = .running running :: more → e ≠ .pending)
  port : ∀ script cause t url body, .pushed cause t url body ∈
      (final ((file.aprsWx format configFilePath (.OK lines)).run (.start script))).history →
    ∃ (host : List Char) (tls : Bool) (port : Nat) (dataBase : List Char),
      (file.configured lines).influxHost = some host ∧
      (file.configured lines).influxTls = some tls ∧
      (file.configured lines).influxDb = some dataBase ∧
      file.portNumber lines = some (port : Int) ∧ url = buildUrl host tls port dataBase

theorem aprsWx_configured [CDouble F] (format : F → List Char) (configFilePath : String)
    (lines : List ConfigLine) :
    file.aprsWx format configFilePath (.OK lines) = main format (file.configured lines) := by
  show main format (file.process lines).config = _
  rw [process_config]

end ConfigFile

theorem given_mem {lines : List ConfigLine} {item : ConfigItem} {data : List Char}
    (last : given lines item = some data) : (item, data) ∈ lines := by
  obtain ⟨line, mem, found⟩ := List.exists_of_findSome?_eq_some last
  rw [List.mem_reverse] at mem
  obtain ⟨rfl, rfl⟩ : line.1 = item ∧ line.2 = data := by simpa using found
  exact mem

theorem buildUrl_inj {host : List Char} {tls : Bool} {port port' : Nat} {dataBase : List Char}
    (same : buildUrl host tls port dataBase = buildUrl host tls port' dataBase) : port = port' := by
  unfold buildUrl at same
  have digits : (toString port).toList = (toString port').toList := by simpa using same
  have digits : Nat.toDigits 10 port = Nat.toDigits 10 port' := by simpa using digits
  rw [← Nat.ofDigitChars_ten_toDigits (n := port), digits, Nat.ofDigitChars_ten_toDigits]

theorem toUnsigned_lt (n : Int) : toUnsigned n < 2 ^ 32 := by
  unfold toUnsigned
  omega

theorem toUnsigned_eq {n : Int} (nonneg : 0 ≤ n) (fits : n < 2 ^ 32) : (toUnsigned n : Int) = n := by
  unfold toUnsigned
  omega

section Claim

variable {file : ConfigFile ExReal} {format : ExReal → List Char} {configFilePath : String}
  {lines : List ConfigLine}

/-- A file with an invalid value that does not keep the daemon from connecting. -/
theorem ConfigFile.Heeds.valid (heeds : file.Heeds format configFilePath lines) :
    (∀ line ∈ lines, ¬ file.Invalid line) ∨ ¬ (file.configured lines).Connects := by
  by_contra fails
  rw [not_or, not_not] at fails
  obtain ⟨some, connects⟩ := fails
  have invalid : ∃ line ∈ lines, file.Invalid line := by
    by_contra none
    exact some fun line mem invalid => none ⟨line, mem, invalid⟩
  have ended := heeds.exits invalid connectScript
  rw [file.aprsWx_configured] at ended
  have idle := Ends.final (ended.mono (fun _ _ idle => idle) (fun _ _ both => both.1))
  exact absurd (idle.unconnected 5 (main_connected format connects)) (by decide)

/-- A port that is given but too large for its type is not the one of a push. -/
theorem ConfigFile.Heeds.fits (heeds : file.Heeds format configFilePath lines) {number : Int}
    (portNumber : file.portNumber lines = some number) : number < 2 ^ 32 ∨
      ¬ ((file.configured lines).Connects ∧ ∃ host tls port dataBase,
        (file.configured lines).Pushes host tls port dataBase) := by
  by_contra fails
  rw [not_or, not_not] at fails
  obtain ⟨large, connects, host, tls, port, dataBase, pushes⟩ := fails
  obtain ⟨u, v, packet, wx, body, -, -, -, -, history⟩ := main_damp format connects pushes
  have pushed : .pushed .weatherPacket 0 (buildUrl host tls port dataBase) body ∈
      (Main.after format (file.configured lines) dampScript).history := by
    rw [history]
    exact List.mem_cons_of_mem _ (List.mem_cons_of_mem _ List.mem_cons_self)
  have told := heeds.port dampScript
  rw [file.aprsWx_configured] at told
  obtain ⟨host', tls', port', dataBase', hhost, htls, hdataBase, hport, url⟩ := told _ _ _ _ pushed
  obtain rfl := Option.some.inj (pushes.influxHost.symm.trans hhost)
  obtain rfl := Option.some.inj (pushes.influxTls.symm.trans htls)
  obtain rfl := Option.some.inj (pushes.influxDb.symm.trans hdataBase)
  obtain rfl := buildUrl_inj url
  obtain rfl := Option.some.inj (portNumber.symm.trans hport)
  -- the port of the configuration is a number of type `unsigned`
  obtain ⟨data, -, converted⟩ := Option.bind_eq_some_iff.mp pushes.influxPort
  obtain ⟨number, -, unsigned⟩ := Option.map_eq_some_iff.mp converted
  have small := toUnsigned_lt number
  omega

/-- The program does what its messages say exactly if no value is invalid or a value is missing
without which it never connects, and if the given port is of type `unsigned` or nothing can be
pushed. -/
theorem aprsWx_heeds_iff (file : ConfigFile ExReal) (format : ExReal → List Char)
    (configFilePath : String) (lines : List ConfigLine) :
    file.Heeds format configFilePath lines ↔
      ((∀ line ∈ lines, ¬ file.Invalid line) ∨ ¬ (file.configured lines).Connects) ∧
      ∀ number, file.portNumber lines = some number → number < 2 ^ 32 ∨
        ¬ ((file.configured lines).Connects ∧ ∃ host tls port dataBase,
          (file.configured lines).Pushes host tls port dataBase) := by
  refine ⟨fun heeds => ⟨heeds.valid, fun _ => heeds.fits⟩, fun ⟨valid, fits⟩ => ⟨?_, ?_⟩⟩
  · intro invalid script
    have not : ¬ (file.configured lines).Connects := by
      refine valid.resolve_left fun valid => ?_
      obtain ⟨line, mem, invalid⟩ := invalid
      exact valid line mem invalid
    rw [file.aprsWx_configured]
    exact (main_unconnected format not script).mono (fun _ _ quiet => quiet.idle)
      (fun _ _ quiet => ⟨quiet.idle, fun running more same pending =>
        quiet.ended running more same (congrArg some pending)⟩)
  · intro script cause t url body pushed
    rw [file.aprsWx_configured] at pushed
    obtain ⟨host, tls, port, dataBase, pushes, rfl⟩ :=
      main_addressed format (file.configured lines) script cause t url body pushed
    have connects : (file.configured lines).Connects := by
      by_contra not
      have silent := Ends.final (I := fun s : Main ExReal => s.history = [])
        ((main_unconnected format not script).mono (fun _ _ quiet => quiet.history)
          (fun _ _ quiet => quiet.history))
      rw [silent] at pushed
      cases pushed
    obtain ⟨data, last, converted⟩ := Option.bind_eq_some_iff.mp pushes.influxPort
    obtain ⟨number, parsed, rfl⟩ := Option.map_eq_some_iff.mp converted
    have portNumber : file.portNumber lines = some number :=
      Option.bind_eq_some_iff.mpr ⟨data, last, parsed⟩
    have positive : 0 < number := by
      by_contra nonpos
      refine valid.resolve_right (not_not.mpr connects) _ (given_mem last) fun number' parsed' => ?_
      obtain rfl := Option.some.inj (parsed.symm.trans parsed')
      exact Int.not_lt.mp nonpos
    have small := (fits number portNumber).resolve_right
      (not_not.mpr ⟨connects, host, tls, _, dataBase, pushes⟩)
    refine ⟨host, tls, _, dataBase, pushes.influxHost, pushes.influxTls, pushes.influxDb, ?_, rfl⟩
    rw [portNumber, toUnsigned_eq positive.le small]

end Claim

section Sample

noncomputable def sampleFile : ConfigFile ExReal where
  isalnum := Char.isAlphanum
  isdigit := Char.isDigit
  toupper := Char.toUpper
  parseText data accepted transform :=
    if data.all accepted then some (data.map (transform.getD id)) else none
  parseBoolean data :=
    if data = "true".toList then some true else if data = "false".toList then some false else none
  safeConvertDouble data :=
    if data.all Char.isDigit then some (ofRat (Numeral.decimalValue data)) else none
  safeConvertLong data :=
    let r := Numeral.fromChars (-2 ^ 63) (2 ^ 63 - 1) data
    if r.ec = .ok ∧ r.ptr = data.length then some r.value else none
  safeConvertUnsignedLong data :=
    if data.all Char.isDigit then some (Numeral.decimalValue data) else none

/-- A complete file with this port. -/
def portLines (port : String) : List ConfigLine :=
  [(.Callsign, "CALL".toList), (.Passcode, "12345".toList), (.Latitude, "45".toList),
    (.Longitude, "75".toList), (.Radius, "100".toList), (.InfluxHost, "host".toList),
    (.InfluxDb, "wx".toList), (.InfluxPort, port.toList)]

theorem portLines_connects (port : String) :
    (sampleFile.configured (portLines port)).Connects :=
  ⟨⟨"CALL".toList, rfl, by decide⟩, rfl, rfl, rfl, rfl⟩

/-- With the port -1 the program connects. With the port 4294967376, which is valid, it pushes to
the port 80. -/
theorem sampleFile_fails :
    ¬ sampleFile.Heeds (fun _ => []) "\"config.txt\"" (portLines "-1") ∧
      ¬ sampleFile.Heeds (fun _ => []) "\"config.txt\"" (portLines "4294967376") := by
  constructor
  · intro heeds
    refine heeds.valid.elim (fun valid => ?_) fun not => not (portLines_connects "-1")
    refine valid (.InfluxPort, "-1".toList) (by decide) fun number parsed => ?_
    have negative : sampleFile.safeConvertLong "-1".toList = some (-1) := rfl
    obtain rfl := Option.some.inj (negative.symm.trans parsed)
    decide
  · intro heeds
    have given : sampleFile.portNumber (portLines "4294967376") = some 4294967376 := rfl
    have pushes : (sampleFile.configured (portLines "4294967376")).Pushes "host".toList false 80
        "wx".toList := ⟨rfl, rfl, rfl, rfl, 100, rfl, by decide⟩
    exact (heeds.fits given).elim (by decide) fun not =>
      not ⟨portLines_connects _, "host".toList, false, 80, "wx".toList, pushes⟩

end Sample

end AprsWx
