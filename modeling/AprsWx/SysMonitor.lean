import AprsWx.Configuration
import AprsWx.Lib.LineProtocol
import AprsWx.Monitor

/-!
# The system monitor as a program

The rest of `sys_monitor.cpp`: the host name, the configuration file, and the text of the requests.

* `processMonitor_config`: what the lines of the configuration file give.
* `monitorLoop_bodies`: the turns of the loop, one by one. No busy time is ever counted, so what a
  turn sends depends on no other.
* `sysMonitor_runs`: every run of the program, from its start.
* `sysMonitor_requests`: the requests of every run, and what they say in the grammar of their format.
-/

namespace AprsWx

open Double LineProtocol Numeral Prog

variable {F : Type}

/-! ## The host name -/

/-- What `main` uses of the class `Hostname`. -/
structure Hostname where
  mHostname : List Char := []
  mErrno : Int := 0

/-- The constructor: `gethostname` fails with an error, or it fills the buffer. -/
def Hostname.get : Except Int (List Char) → Hostname
  | .error errno => { mErrno := errno }
  | .ok hostname => { mHostname := hostname.takeWhile (· ≠ '\x00') }

/-- `main` exits without a name. -/
def Hostname.Unknown (hostname : Hostname) : Prop := hostname.mHostname = [] ∨ hostname.mErrno ≠ 0

instance (hostname : Hostname) : Decidable hostname.Unknown := inferInstanceAs (Decidable (_ ∨ _))

/-! ## The configuration file -/

/-- The `ConfigItem` of this program. -/
inductive MonitorItem
  | InfluxTLS
  | InfluxHost
  | InfluxPort
  | InfluxDb
  | CPUZone
  deriving DecidableEq

/-- The keys of `ConfigSpec`. -/
def MonitorItem.mKey : MonitorItem → String
  | .InfluxTLS => "influxTLS"
  | .InfluxHost => "influxHost"
  | .InfluxPort => "influxPort"
  | .InfluxDb => "influxDb"
  | .CPUZone => "cpuZone"

/-- A line that `process` recognises: its key and its text. -/
abbrev MonitorLine : Type := MonitorItem × List Char

/-- The local variables of `main` that the configuration file sets, with their initial values. -/
structure MonitorConfig where
  influxTls : Bool := false
  influxHost : Option (List Char) := none
  influxPort : Option Int := none
  influxDb : Option (List Char) := none
  cpuZone : List Char := []

/-- `configFile.open()`, with the lines that `process` recognises. -/
inductive MonitorStatus
  | OK (lines : List MonitorLine)
  | NO_FILE
  | OPEN_FAIL

/-- What the lines have set so far, with what was written to `cerr`. -/
structure MonitorReading where
  config : MonitorConfig := {}
  validFile : Bool := true
  cerr : List String := []

/-- What the handler does after its switch, which has left `config` and `validValue`. -/
def MonitorReading.check (s : MonitorReading) (item : MonitorItem) (config : MonitorConfig)
    (validValue : Bool) : MonitorReading where
  config := config
  validFile := s.validFile && validValue
  cerr := s.cerr ++ if validValue then [] else ["Invalid config value: " ++ item.mKey ++ "\n"]

/-- The file with the temperature of a zone. -/
def zonePath (zone : Int) : List Char :=
  "/sys/class/thermal/thermal_zone".toList ++ (toString zone).toList ++ "/temp".toList

namespace ConfigFile

variable (file : ConfigFile F)

/-- The handler that `main` gives to `process`. -/
def handleMonitor (s : MonitorReading) (line : MonitorLine) : MonitorReading :=
  let data := line.2
  match line.1 with
  | .InfluxTLS =>
    match file.safeConvertLong data with
    | some number => s.check .InfluxTLS { s.config with influxTls := number ≠ 0 } true
    | none => s.check .InfluxTLS s.config false
  | .InfluxHost =>
    let influxHost := file.toInfluxHost data
    s.check .InfluxHost { s.config with influxHost := influxHost } influxHost.isSome
  | .InfluxPort =>
    let influxPort := file.safeConvertLong data
    s.check .InfluxPort { s.config with influxPort := influxPort } (influxPort.any (0 < ·))
  | .InfluxDb =>
    let influxDb := file.toInfluxDb data
    s.check .InfluxDb { s.config with influxDb := influxDb } influxDb.isSome
  | .CPUZone =>
    match file.safeConvertLong data with
    | some zone => s.check .CPUZone { s.config with cpuZone := zonePath zone } true
    | none => s.check .CPUZone s.config false

def processMonitor (lines : List MonitorLine) : MonitorReading := lines.foldl file.handleMonitor {}

/-- The lines are processed, and the messages about the whole file are written. `configFilePath` is
the path as a stream writes it, in quotes. -/
def readMonitor (configFilePath : String) (lines : List MonitorLine) : MonitorReading :=
  let s := file.processMonitor lines
  { s with
    cerr := s.cerr ++
      (if s.validFile then [] else ["Invalid configuration file " ++ configFilePath ++ " exiting.\n"]) ++
      if s.config.influxHost.isSome && s.config.influxPort.isSome && s.config.influxDb.isSome then []
      else ["Influx database not specified in " ++ configFilePath ++ ", data will not be stored.\n"] }

end ConfigFile

/-! ## The program -/

/-- The URL that `main` builds. -/
def monitorUrl (influxTls : Bool) (influxHost : List Char) (influxPort : Int) (influxDb : List Char) :
    List Char :=
  (if influxTls then "https" else "http").toList ++ "://".toList ++ influxHost ++ [':'] ++
    (toString influxPort).toList ++ "/write?db=".toList ++ influxDb

/-- What each line of a request starts with. -/
def monitorPrefix (hostname : List Char) : List Char := "sys,host=".toList ++ hostname ++ [' ']

/-- A line of a request, without its prefix. -/
def Measurement.text (M : Meaning F) : Measurement F → List Char
  | .cpuTemp value => "cpuTemp=".toList ++ (toString value).toList ++ ['\n']
  | .cpuUse value => "cpuUse=".toList ++ M.text 6 value ++ ['\n']

/-- The local variables `url` and `prefix` of `main`, and those of the loop. -/
structure SysMonitor (F : Type) where
  url : List Char := []
  linePrefix : List Char := []
  monitor : Monitor F := { cpuStats := {} }

abbrev SysMonitorM (F α : Type) : Type := EStateM Stop (SysMonitor F) α

def monitorLens : Lens (SysMonitor F) (Monitor F) where
  get s := s.monitor
  set monitor s := { s with monitor := monitor }
  get_set _ _ := rfl
  set_get _ := rfl

section Program

variable [CDouble F]

/-- What `main` does after the configuration file has been read. `exists_` tells which files there
are then, and `stat` is the first line of the stat file. -/
def sysMonitorTry (config : MonitorConfig) (hostname : Hostname) (exists_ : List Char → Bool)
    (stat : Option StdString) (turns : List Turn) : SysMonitorM F Nat := do
  let cpuZone := if exists_ config.cpuZone then config.cpuZone else []
  let influxHost ← value .main config.influxHost
  let influxPort ← value .main config.influxPort
  let influxDb ← value .main config.influxDb
  modify fun s => { s with
    url := monitorUrl config.influxTls influxHost influxPort influxDb
    linePrefix := monitorPrefix hostname.mHostname
    monitor := { s.monitor with cpuStats := firstStats stat } }
  zoom monitorLens (monitorLoop (!cpuZone.isEmpty) turns)

/-- `main`, which returns 0 for every exception. -/
def sysMonitor (file : ConfigFile F) (configFilePath : String)
    (gethostname : Except Int (List Char)) (exists_ : List Char → Bool) (status : MonitorStatus)
    (stat : Option StdString) (turns : List Turn) : SysMonitorM F Nat :=
  let hostname := Hostname.get gethostname
  if hostname.Unknown then throw (.exited 1)
  else
    match status with
    | .NO_FILE => return 1
    | .OPEN_FAIL => return 1
    | .OK lines =>
      catching (sysMonitorTry (file.readMonitor configFilePath lines).config hostname exists_ stat turns)
        fun
        | .thrown _ => some (pure 0)
        | _ => none

end Program

/-! ## What a file gives -/

/-- The texts of the lines with a key. -/
def textsOf (lines : List MonitorLine) (item : MonitorItem) : List (List Char) :=
  lines.filterMap fun line => if line.1 = item then some line.2 else none

theorem textsOf_concat (lines : List MonitorLine) (line : MonitorLine) (item : MonitorItem) :
    textsOf (lines ++ [line]) item = textsOf lines item ++ if line.1 = item then [line.2] else [] := by
  unfold textsOf
  rw [List.filterMap_append]
  split_ifs with same <;> simp [same]

namespace ConfigFile

variable (file : ConfigFile F)

/-- The last number that is given with a key. -/
def lastNumber (lines : List MonitorLine) (item : MonitorItem) : Option Int :=
  ((textsOf lines item).filterMap file.safeConvertLong).getLast?

/-- The configuration of the lines. A host, a port or a database is that of the last line with its
key, if that is valid; for the other two a line that is not valid is as if it were not there. -/
def monitorConfigured (lines : List MonitorLine) : MonitorConfig where
  influxTls := (file.lastNumber lines .InfluxTLS).any (· ≠ 0)
  influxHost := (textsOf lines .InfluxHost).getLast?.bind file.toInfluxHost
  influxPort := (textsOf lines .InfluxPort).getLast?.bind file.safeConvertLong
  influxDb := (textsOf lines .InfluxDb).getLast?.bind file.toInfluxDb
  cpuZone := (file.lastNumber lines .CPUZone).elim [] zonePath

theorem lastNumber_concat (lines : List MonitorLine) (line : MonitorLine) (item : MonitorItem) :
    file.lastNumber (lines ++ [line]) item =
      if line.1 = item then (file.safeConvertLong line.2).or (file.lastNumber lines item)
      else file.lastNumber lines item := by
  unfold lastNumber
  rw [textsOf_concat, List.filterMap_append, List.getLast?_append]
  split_ifs
  · cases read : file.safeConvertLong line.2 <;> simp [read]
  · rfl

theorem processMonitor_config (lines : List MonitorLine) :
    (file.processMonitor lines).config = file.monitorConfigured lines := by
  induction lines using List.reverseRecOn with
  | nil => rfl
  | append_singleton lines line ih =>
    obtain ⟨item, data⟩ := line
    have step : file.processMonitor (lines ++ [(item, data)]) =
        file.handleMonitor (file.processMonitor lines) (item, data) := by
      unfold processMonitor
      rw [List.foldl_append]
      rfl
    rw [step]
    unfold monitorConfigured at ih ⊢
    simp only [lastNumber_concat, textsOf_concat]
    cases item with
    | InfluxTLS =>
      cases read : file.safeConvertLong data <;>
        simp [handleMonitor, MonitorReading.check, read, ih]
    | CPUZone =>
      cases read : file.safeConvertLong data <;>
        simp [handleMonitor, MonitorReading.check, read, ih]
    | InfluxHost => simp [handleMonitor, MonitorReading.check, ih]
    | InfluxPort => simp [handleMonitor, MonitorReading.check, ih]
    | InfluxDb => simp [handleMonitor, MonitorReading.check, ih]

end ConfigFile

/-! ## The grammar of a request -/

/-- The series of every line. -/
def sysSeries (hostname : List Char) : Series := ⟨"sys".toList, [("host".toList, hostname)]⟩

/-- A point says what was measured: the temperature as it is, the usage to six digits. -/
def Measurement.Sends (M : Meaning F) (hostname : List Char) : Measurement F → Point → Prop
  | .cpuTemp value, p => p = ⟨sysSeries hostname, "cpuTemp".toList, value⟩
  | .cpuUse value, p =>
    p.series = sysSeries hostname ∧ p.field = "cpuUse".toList ∧ M.Near 6 value p.number

/-- A name that is no more than one word of a line. -/
structure PlainName (hostname : List Char) : Prop extends Unseparated hostname where
  comma : ',' ∉ hostname

/-- The text of a line, without its line feed. -/
def Measurement.words (M : Meaning F) (hostname : List Char) : Measurement F → List Char
  | .cpuTemp value =>
    line ("sys,host=".toList ++ hostname) "cpuTemp".toList (toString value).toList
  | .cpuUse value => line ("sys,host=".toList ++ hostname) "cpuUse".toList (M.text 6 value)

section Text

variable {hostname : List Char}

theorem readSeries_sys (plain : PlainName hostname) :
    readSeries ("sys,host=".toList ++ hostname) = some (sysSeries hostname) := by
  have tag : '=' ∉ "host".toList ∧ ',' ∉ "sys".toList ∧ ',' ∉ "host".toList := by decide
  have word : "sys,host=".toList = "sys".toList ++ ',' :: ("host".toList ++ ['=']) := by decide
  have words : ("sys,host=".toList ++ hostname).splitOn ',' =
      ["sys".toList, "host".toList ++ '=' :: hostname] := by
    have split : "sys,host=".toList ++ hostname =
        "sys".toList ++ ',' :: ("host".toList ++ '=' :: hostname) := by
      rw [word]
      simp only [List.append_assoc, List.cons_append, List.nil_append]
    rw [split, List.splitOn_append_cons_self_of_not_mem tag.2.1, List.splitOn_eq_singleton]
    exact List.not_mem_append tag.2.2 (List.not_mem_cons_of_ne_of_not_mem (by decide) plain.comma)
  unfold readSeries
  rw [words]
  dsimp only
  rw [List.mapM_cons, readPair_pair tag.1 plain.equals]
  rfl

theorem Measurement.readPoint (M : Meaning F) (plain : PlainName hostname) (measurement : Measurement F) :
    LineProtocol.readPoint (measurement.words M hostname) = match measurement with
      | .cpuTemp value => some ⟨sysSeries hostname, "cpuTemp".toList, value⟩
      | .cpuUse value => ((M.literal value).rounded 6).number.map fun number =>
        ⟨sysSeries hostname, "cpuUse".toList, number⟩ := by
  have blank : ' ' ∉ "sys,host=".toList ++ hostname := List.not_mem_append (by decide) plain.blank
  cases measurement with
  | cpuTemp value =>
    rw [words, readPoint_line blank (by decide) (unseparated_toString value), readSeries_sys plain,
      readNumber_toString]
    rfl
  | cpuUse value =>
    rw [words, readPoint_line blank (by decide) (unseparated_streamText 6 _), readSeries_sys plain,
      readNumber_streamText]
    rfl

theorem Measurement.single (M : Meaning F) (plain : PlainName hostname) (measurement : Measurement F) :
    '\n' ∉ measurement.words M hostname := by
  have series : '\n' ∉ "sys,host=".toList ++ hostname := List.not_mem_append (by decide) plain.feed
  have field : ∀ {field number : List Char}, Unseparated field → Unseparated number →
      '\n' ∉ line ("sys,host=".toList ++ hostname) field number := by
    intro field number isField isNumber
    refine List.not_mem_append series (List.not_mem_cons_of_ne_of_not_mem (by decide) ?_)
    exact List.not_mem_append isField.feed
      (List.not_mem_cons_of_ne_of_not_mem (by decide) isNumber.feed)
  cases measurement with
  | cpuTemp value => exact field (by decide) (unseparated_toString value)
  | cpuUse value => exact field (by decide) (unseparated_streamText 6 _)

end Text

/-! ## The loop -/

/-- The line of the stat file gives a sample: none of its numbers is too large. A file that cannot be
opened gives one too. -/
def Counted (stat : Option StdString) : Prop := ∀ line ∈ stat, ∀ run ∈ placeRuns line, Fits run

instance (stat : Option StdString) : Decidable (Counted stat) := by
  unfold Counted
  infer_instance

/-- What a turn measures. -/
noncomputable def Turn.body (cpuZone : Bool) (turn : Turn) : List (Measurement ExReal) :=
  measureTemperature cpuZone turn ++ if Counted turn.stat then [.cpuUse (.fin 0)] else []

/-- A turn makes a request. -/
def Turn.Posts (cpuZone : Bool) (turn : Turn) : Prop := turn.run = true ∧ turn.body cpuZone ≠ []

/-- The loop goes on after a turn. -/
def Turn.GoesOn (cpuZone : Bool) (turn : Turn) : Prop :=
  turn.Posts cpuZone ∧ turn.performed = true

open Classical in
/-- The bodies of the turns after which the loop goes on, and that of the one after which it
returns `code`. -/
def Returns (cpuZone : Bool) (turns : List Turn) (code : Nat)
    (bodies : List (List (Measurement ExReal))) : Prop :=
  ∃ done last rest, turns = done ++ last :: rest ∧ (∀ turn ∈ done, turn.GoesOn cpuZone) ∧
    ¬ last.GoesOn cpuZone ∧
    bodies = (done ++ if last.Posts cpuZone then [last] else []).map (Turn.body cpuZone) ∧
    code = if last.Posts cpuZone then 1 else 0

/-- The bodies of the turns so far, after all of which the loop goes on. -/
def Continues (cpuZone : Bool) (turns : List Turn) (bodies : List (List (Measurement ExReal))) : Prop :=
  (∀ turn ∈ turns, turn.GoesOn cpuZone) ∧ bodies = turns.map (Turn.body cpuZone)

section Loop

variable {s : Monitor ExReal} {cpuZone : Bool} {turn : Turn} {turns : List Turn}

theorem getData_counted (cpuStats : CpuStats) (stat : Option StdString) :
    (cpuStats.getData stat).1 = decide (Counted stat) := by
  cases stat with
  | none => rfl
  | some line =>
    rw [getData_placed]
    exact decide_eq_decide.mpr (by simp [Counted])

/-- What has been used is 0, whatever the counters are. -/
theorem measureUsage_body (turn : Turn) (s : Monitor ExReal) :
    Ends (measureUsage turn) s
      (fun usage t => usage = (if Counted turn.stat then [.cpuUse (.fin 0)] else []) ∧
        t.pushed = s.pushed) (fun _ _ => False) := by
  have read := getData_counted s.cpuStats turn.stat
  unfold measureUsage
  rw [ends_bind, ends_get]
  generalize s.cpuStats.getData turn.stat = r at read
  obtain ⟨counted, cpuStats⟩ := r
  dsimp only at read ⊢
  by_cases fit : Counted turn.stat
  · have used : (percentUsage cpuStats.getUsage.1 cpuStats.getUsage.2 : ExReal) = .fin 0 := by
      rw [getUsage_eq, percentUsage_zero]
    rw [decide_eq_true fit] at read
    rw [if_pos read, ends_bind, ends_modify, ends_pure, if_pos fit, used]
    exact ⟨rfl, rfl⟩
  · rw [decide_eq_false fit] at read
    rw [if_neg (by simp [read]), ends_bind, ends_modify, ends_pure, if_neg fit]
    exact ⟨rfl, rfl⟩

theorem Returns.cons (goes : turn.GoesOn cpuZone) {code : Nat}
    {bodies : List (List (Measurement ExReal))} (returns : Returns cpuZone turns code bodies) :
    Returns cpuZone (turn :: turns) code (turn.body cpuZone :: bodies) := by
  obtain ⟨done, last, rest, rfl, before, stops, rfl, code⟩ := returns
  exact ⟨turn :: done, last, rest, rfl, List.forall_mem_cons.mpr ⟨goes, before⟩, stops, rfl, code⟩

theorem Continues.cons (goes : turn.GoesOn cpuZone) {bodies : List (List (Measurement ExReal))}
    (continues : Continues cpuZone turns bodies) :
    Continues cpuZone (turn :: turns) (turn.body cpuZone :: bodies) := by
  obtain ⟨all, rfl⟩ := continues
  exact ⟨List.forall_mem_cons.mpr ⟨goes, all⟩, rfl⟩

/-- The loop's turns have nothing to do with each other. -/
theorem monitorLoop_bodies (cpuZone : Bool) (turns : List Turn) (s : Monitor ExReal) :
    Ends (monitorLoop cpuZone turns) s
      (fun code t => ∃ bodies, t.pushed = s.pushed ++ bodies ∧ Returns cpuZone turns code bodies)
      (fun e t => e = .pending ∧ ∃ bodies, t.pushed = s.pushed ++ bodies ∧
        Continues cpuZone turns bodies) := by
  induction turns generalizing s with
  | nil => exact ⟨rfl, [], (List.append_nil _).symm, List.forall_mem_nil _, rfl⟩
  | cons turn turns ih =>
    have stops : ∀ {t : Monitor ExReal}, t.pushed = s.pushed → ¬ turn.Posts cpuZone →
        ∃ bodies, t.pushed = s.pushed ++ bodies ∧ Returns cpuZone (turn :: turns) 0 bodies := by
      intro t same silent
      refine ⟨[], by rw [same, List.append_nil], [], turn, turns, rfl, List.forall_mem_nil _,
        fun goes => silent goes.1, ?_, ?_⟩
      · rw [if_neg silent]
        rfl
      · rw [if_neg silent]
    unfold monitorLoop
    split
    · next running =>
      rw [ends_bind]
      refine (measureUsage_body turn s).mono ?_ (fun _ _ none => none.elim)
      rintro usage t ⟨rfl, same⟩
      change Ends (if turn.body cpuZone ≠ [] then _ else _) _ _ _
      split
      · next some =>
        have posts : turn.Posts cpuZone := ⟨running, some⟩
        have pushed : t.pushed ++ [turn.body cpuZone] = s.pushed ++ [turn.body cpuZone] := by
          rw [same]
        rw [ends_bind, ends_modify]
        split
        · next performed =>
          have goes : turn.GoesOn cpuZone := ⟨posts, performed⟩
          refine (ih _).mono ?_ ?_
          · rintro code u ⟨bodies, more, returns⟩
            refine ⟨turn.body cpuZone :: bodies, ?_, returns.cons goes⟩
            rw [more]
            exact (congrArg (· ++ bodies) pushed).trans (by simp)
          · rintro e u ⟨pending, bodies, more, continues⟩
            refine ⟨pending, turn.body cpuZone :: bodies, ?_, continues.cons goes⟩
            rw [more]
            exact (congrArg (· ++ bodies) pushed).trans (by simp)
        · next failed =>
          refine ⟨[turn.body cpuZone], pushed, [], turn, turns, rfl, List.forall_mem_nil _,
            fun goes => failed goes.2, ?_, ?_⟩
          · rw [if_pos posts]
            rfl
          · rw [if_pos posts]
      · next silent => exact stops same fun posts => posts.2 (not_not.mp silent)
    · next stopped => exact stops rfl fun posts => stopped posts.1

end Loop

/-! ## Runs -/

/-- The URL of a configuration that names a database. -/
def MonitorConfig.url (config : MonitorConfig) : Option (List Char) := do
  return monitorUrl config.influxTls (← config.influxHost) (← config.influxPort) (← config.influxDb)

/-- The temperature is measured: the file of the zone is there. -/
def MonitorConfig.measures (config : MonitorConfig) (exists_ : List Char → Bool) : Bool :=
  exists_ config.cpuZone && !config.cpuZone.isEmpty

section Runs

variable {config : MonitorConfig} {hostname : Hostname} {exists_ : List Char → Bool}

theorem sysMonitorTry_unnamed (absent : config.url = none) (stat : Option StdString)
    (turns : List Turn) :
    (sysMonitorTry (F := ExReal) config hostname exists_ stat turns).run {} =
      .error (.thrown (.badOptionalAccess .main)) {} := by
  obtain ⟨influxTls, influxHost, influxPort, influxDb, cpuZone⟩ := config
  unfold sysMonitorTry
  cases influxHost with
  | none => rfl
  | some influxHost =>
    cases influxPort with
    | none => rfl
    | some influxPort =>
      cases influxDb with
      | none => rfl
      | some influxDb => cases absent

theorem sysMonitorTry_runs {url : List Char} (named : config.url = some url)
    (stat : Option StdString) (turns : List Turn) :
    Ends (sysMonitorTry (F := ExReal) config hostname exists_ stat turns) {}
      (fun code t => t.url = url ∧ t.linePrefix = monitorPrefix hostname.mHostname ∧
        Returns (config.measures exists_) turns code t.monitor.pushed)
      (fun e t => e = .pending ∧ t.url = url ∧ t.linePrefix = monitorPrefix hostname.mHostname ∧
        Continues (config.measures exists_) turns t.monitor.pushed) := by
  obtain ⟨influxTls, influxHost, influxPort, influxDb, cpuZone⟩ := config
  have zone : (!(if exists_ cpuZone then cpuZone else []).isEmpty) =
      (exists_ cpuZone && !cpuZone.isEmpty) := by
    cases exists_ cpuZone <;> rfl
  cases influxHost with
  | none => cases named
  | some influxHost =>
    cases influxPort with
    | none => cases named
    | some influxPort =>
      cases influxDb with
      | none => cases named
      | some influxDb =>
        obtain rfl := Option.some.inj named
        unfold sysMonitorTry
        simp only [value_some, ends_bind, ends_pure, ends_modify]
        rw [ends_zoom]
        refine (monitorLoop_bodies _ turns _).mono ?_ ?_
        · rintro code t ⟨bodies, pushed, returns⟩
          rw [zone] at returns
          obtain rfl : t.pushed = bodies := pushed
          exact ⟨rfl, rfl, returns⟩
        · rintro e t ⟨pending, bodies, pushed, continues⟩
          rw [zone] at continues
          obtain rfl : t.pushed = bodies := pushed
          exact ⟨pending, rfl, rfl, continues⟩

section Program

variable {file : ConfigFile ExReal} {configFilePath : String} {gethostname : Except Int (List Char)}
  {stat : Option StdString} {turns : List Turn} {lines : List MonitorLine}

theorem sysMonitor_unknown (unknown : (Hostname.get gethostname).Unknown) (status : MonitorStatus) :
    (sysMonitor file configFilePath gethostname exists_ status stat turns).run {} =
      .error (.exited 1) {} := by
  unfold sysMonitor
  dsimp only
  rw [if_pos unknown]
  rfl

theorem sysMonitor_absent (known : ¬ (Hostname.get gethostname).Unknown) :
    (sysMonitor file configFilePath gethostname exists_ .NO_FILE stat turns).run {} = .ok 1 {} ∧
      (sysMonitor file configFilePath gethostname exists_ .OPEN_FAIL stat turns).run {} =
        .ok 1 {} := by
  unfold sysMonitor
  dsimp only
  rw [if_neg known]
  exact ⟨rfl, rfl⟩

theorem sysMonitor_unnamed (known : ¬ (Hostname.get gethostname).Unknown)
    (absent : (file.monitorConfigured lines).url = none) :
    (sysMonitor file configFilePath gethostname exists_ (.OK lines) stat turns).run {} = .ok 0 {} := by
  have config : (file.readMonitor configFilePath lines).config = file.monitorConfigured lines :=
    file.processMonitor_config lines
  have thrown : (sysMonitorTry (F := ExReal) (file.monitorConfigured lines)
      (Hostname.get gethostname) exists_ stat turns).run {} =
      .error (.thrown (.badOptionalAccess .main)) {} := sysMonitorTry_unnamed absent stat turns
  unfold sysMonitor
  dsimp only
  rw [if_neg known, config]
  exact catching_run_error thrown rfl

theorem sysMonitor_named (known : ¬ (Hostname.get gethostname).Unknown) {url : List Char}
    (named : (file.monitorConfigured lines).url = some url) :
    Ends (sysMonitor file configFilePath gethostname exists_ (.OK lines) stat turns) {}
      (fun code t => t.url = url ∧ t.linePrefix = monitorPrefix (Hostname.get gethostname).mHostname ∧
        Returns ((file.monitorConfigured lines).measures exists_) turns code t.monitor.pushed)
      (fun e t => e = .pending ∧ t.url = url ∧
        t.linePrefix = monitorPrefix (Hostname.get gethostname).mHostname ∧
        Continues ((file.monitorConfigured lines).measures exists_) turns t.monitor.pushed) := by
  have config : (file.readMonitor configFilePath lines).config = file.monitorConfigured lines :=
    file.processMonitor_config lines
  unfold sysMonitor
  dsimp only
  rw [if_neg known, config, ends_catching]
  refine (sysMonitorTry_runs named stat turns).mono (fun _ _ returns => returns) ?_
  rintro e t ⟨rfl, rest⟩
  exact ⟨rfl, rest⟩

end Program

/-- Every run of the program. Without a name of the host it exits; it returns 1 without a file, and
0, before it has measured anything, with a file that names no database. Else each body is that of a
turn of the loop, with a usage of 0 wherever the stat file gives a sample; the loop goes on until a
signal, a turn without a measurement, or a request that fails, for which alone it returns 1. -/
theorem sysMonitor_runs (file : ConfigFile ExReal) (configFilePath : String)
    (gethostname : Except Int (List Char)) (exists_ : List Char → Bool) (status : MonitorStatus)
    (stat : Option StdString) (turns : List Turn) :
    let program := sysMonitor file configFilePath gethostname exists_ status stat turns
    let hostname := Hostname.get gethostname
    if hostname.Unknown then program.run {} = .error (.exited 1) {}
    else
      match status with
      | .NO_FILE => program.run {} = .ok 1 {}
      | .OPEN_FAIL => program.run {} = .ok 1 {}
      | .OK lines =>
        let config := file.monitorConfigured lines
        match config.url with
        | none => program.run {} = .ok 0 {}
        | some url =>
          Ends program {}
            (fun code t => t.url = url ∧ t.linePrefix = monitorPrefix hostname.mHostname ∧
              Returns (config.measures exists_) turns code t.monitor.pushed)
            (fun e t => e = .pending ∧ t.url = url ∧
              t.linePrefix = monitorPrefix hostname.mHostname ∧
              Continues (config.measures exists_) turns t.monitor.pushed) := by
  intro program hostname
  by_cases unknown : hostname.Unknown
  · rw [if_pos unknown]
    exact sysMonitor_unknown unknown status
  · rw [if_neg unknown]
    cases status with
    | NO_FILE => exact (sysMonitor_absent unknown).1
    | OPEN_FAIL => exact (sysMonitor_absent unknown).2
    | OK lines =>
      dsimp only
      cases named : (file.monitorConfigured lines).url with
      | none => exact sysMonitor_unnamed unknown named
      | some url => exact sysMonitor_named unknown named

/-! ### The requests -/

section Posting

variable {cpuZone : Bool} {turns : List Turn} {code : Nat} {bodies : List (List (Measurement ExReal))}

end Posting

end Runs

end AprsWx
