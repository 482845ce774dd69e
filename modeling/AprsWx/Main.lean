import AprsWx.Aggregator
import AprsWx.Net

/-!
# The daemon

`main` of `aprs_wx.cpp` from the point on where the configuration has been read: the loop over
the connections, the loop over the packets of a connection, and what is done with a packet.

The state has a history, which no function reads: what was received, aggregated and pushed.
-/

namespace AprsWx

open Double Prog

variable {F : Type}

/-! ## The state -/

/-- The local variables of `main` that the configuration file sets, with their initial values. -/
structure Config (F : Type) where
  callsign : Option (List Char) := none
  passCode : Option (List Char) := none
  qthLatitude : Option F := none
  qthLongitude : Option F := none
  filterRadius : Option Int := none
  influxTls : Option Bool := some false
  influxRepeats : Option Bool := some false
  serverCycleRate : Option Nat := some 100
  influxHost : Option (List Char) := none
  influxPort : Option Nat := none
  influxDb : Option (List Char) := none

/-- The two calls of `pushToInflux`: for a weather packet and for a line of the server. -/
inductive Cause
  | weatherPacket
  | serverLine
  deriving DecidableEq

/-- What the history records: a report that was received, the aggregator that `aggregateData`
left at `now`, and a body that was sent at `t`. -/
inductive Obs (F : Type)
  | received (wx : AprsWxReport F)
  | aggregated (now : Int) (weatherAggregator : WeatherAggregator F)
  | pushed (cause : Cause) (t : Int) (url : List Char) (body : List (InfluxLine F))

structure Main (F : Type) where
  net : Net F
  weatherAggregator : WeatherAggregator F := {}
  history : List (Obs F) := []

abbrev MainM (F α : Type) : Type := EStateM Stop (Main F) α

/-- The state before the first turn of the loop, without an `APRS_IS` object: the one in the
state is replaced before it is used. -/
def Main.start (script : List Ext) : Main F where
  net :=
    { sock := { mCallSign := [], mPassCode := [], mFilter := [], mQthPosition := { mTimePoint := 0 } }
      script := script
      log := [] }

section Parts

variable {α : Type}

def netLens : Lens (Main F) (Net F) where
  get s := s.net
  set net s := { s with net := net }
  get_set _ _ := rfl
  set_get _ := rfl

def sockLens : Lens (Main F) (AprsIs F) where
  get s := s.net.sock
  set sock s := { s with net := { s.net with sock := sock } }
  get_set _ _ := rfl
  set_get _ := rfl

def aggregatorLens : Lens (Main F) (WeatherAggregator F) where
  get s := s.weatherAggregator
  set weatherAggregator s := { s with weatherAggregator := weatherAggregator }
  get_set _ _ := rfl
  set_get _ := rfl

def onNet (x : NetM F α) : MainM F α := zoom netLens x

def onSock (x : Decoder F α) : MainM F α := zoom sockLens x

def onAggregator (x : Aggregating F α) : MainM F α := zoom aggregatorLens x

end Parts

def observe (o : Obs F) : MainM F PUnit := modify fun s => { s with history := s.history ++ [o] }

/-! ## A packet -/

section Daemon

variable [CDouble F]

/-- The URL that `pushToInflux` builds. -/
def buildUrl (host : List Char) (tls : Bool) (port : Nat) (dataBase : List Char) : List Char :=
  (if tls then "https" else "http").toList ++ "://".toList ++ host ++ [':'] ++
    (toString port).toList ++ "/write?db=".toList ++ dataBase

/-- What each line of a body starts with. -/
def influxSeries : String := "aggregate,call=VE3YSH "

/-- `pushToInflux`; `cause` is for the history. -/
def pushToInflux (cause : Cause) (host : List Char) (tls : Bool) (port : Nat)
    (dataBase : List Char) : MainM F Bool := do
  let body ← onAggregator (printInfluxFormat influxSeries)
  if body ≠ [] then
    let (t, success) ← onNet (answer Ext.asPerform)
    observe (.pushed cause t (buildUrl host tls port dataBase) body)
    return success
  else
    return true

/-- A push, if the database is configured. -/
def pushIfConfigured (config : Config F) (cause : Cause) : MainM F PUnit :=
  match config.influxHost, config.influxPort, config.influxDb with
  | some host, some port, some dataBase => do
    let _ ← pushToInflux cause host (← value .main config.influxTls) port dataBase
  | _, _, _ => pure ()

/-- The case of a weather packet. -/
def handleWeather (config : Config F) (wx : AprsWxReport F) : MainM F PUnit := do
  observe (.received wx)
  modify fun s => { s with weatherAggregator := s.weatherAggregator.store wx }
  let now ← onNet (answer Ext.asNow)
  onAggregator (aggregateData now)
  observe (.aggregated now (← get).weatherAggregator)
  pushIfConfigured config .weatherPacket

/-- What is done with a decoded packet: whether `main` returns 1. A weather packet that is no
`APRS_WX_Report` would be a null pointer after the `dynamic_cast`. -/
def handleDecoded (config : Config F) (packet : Decoded F) : MainM F Bool :=
  match packet.status with
  | .WxPacket =>
    match packet with
    | .report wx => do
      handleWeather config wx
      return false
    | .packet _ => throw .undefined
  | .DecodingError => return true
  | _ => return false

/-- What is done with a line `# aprsc` of the server. -/
def handleServerLine (config : Config F) : MainM F PUnit := do
  if ← value .main config.influxRepeats then
    if !(← get).weatherAggregator.reports.isEmpty then
      -- without `aggregateData`: the arrays are those of the last weather packet
      pushIfConfigured config .serverLine

/-- What is done with the packet that was received: whether `main` returns 1. -/
def handlePacket (config : Config F) : MainM F Bool := do
  let sock := (← get).net.sock
  if !sock.hasPrefix "# aprsc" then
    if (← onSock (charAtIndex 0)) ≠ '#' then
      let now ← onNet (answer Ext.asNow)
      handleDecoded config (← onSock (decode now))
    else
      return false
  else
    handleServerLine config
    return false

/-! ## The loops -/

/-- The loop over the packets of a connection: whether `main` returns 1. The counter is below
the rate when it is incremented, so it does not overflow. -/
def packetLoop (config : Config F) : Nat → Nat → MainM F Bool
  | 0, _ => throw .pending
  | fuel + 1, packetCount => do
    let serverCycleRate ← value .main config.serverCycleRate
    if packetCount < serverCycleRate then
      let mPacket ← onNet getPacket
      if mPacket ≠ StdString.empty then
        if ← handlePacket config then
          return true
        else
          packetLoop config fuel (packetCount + 1)
      else
        -- an empty packet ends the connection, as if it were the last one
        packetLoop config fuel serverCycleRate
    else
      return false

/-- The object `sock` of a turn of the outer loop, where `now` is the clock's reading in the
constructor of `mQthPosition`. -/
def newSock (config : Config F) (callsign passCode filter : List Char) (now : Int) : AprsIs F where
  mCallSign := callsign
  mPassCode := passCode
  mFilter := filter
  mQthPosition := { mTimePoint := now, mLat := config.qthLatitude, mLon := config.qthLongitude }
  mRadius := config.filterRadius.map fun filterRadius : Int => ofRat filterRadius

/-- The state after the destructor of `sock`, which calls `close`. -/
def Main.destroyed (s : Main F) : Main F := { s with net := final (close.run s.net) }

/-- The packets of a connection, if there is one: whether `main` returns 1. -/
def receivePackets (config : Config F) (opened : Bool) : MainM F Bool := do
  if opened then
    packetLoop config ((← get).net.script.length + 1) 0
  else
    return false

/-- The use of `sock` in a turn of the outer loop: whether `main` returns 1. -/
def useSock (config : Config F) : MainM F Bool := do
  if ← receivePackets config (← onNet openConnection) then
    return true
  else
    onNet close
    return false

/-- A turn of the outer loop: whether `main` returns 1. -/
def session (config : Config F) (filter : List Char) : MainM F Bool := do
  let callsign ← value .main config.callsign
  let passCode ← value .main config.passCode
  let now ← onNet (answer Ext.asNow)
  onNet (modifySock fun _ => newSock config callsign passCode filter now)
  andFinally Stop.unwinds (useSock config) Main.destroyed

/-- The outer loop: what `main` returns. -/
def mainLoop (config : Config F) (filter : List Char) : Nat → MainM F Nat
  | 0 => throw .pending
  | fuel + 1 => do
    if ← onNet (answer Ext.asRunning) then
      if ← session config filter then
        return 1
      else
        mainLoop config filter fuel
    else
      return 0

/-- `text.rfind(pat)`: where `pat` occurs last. -/
def rfind (text pat : List Char) : Option Nat :=
  (List.range (text.length + 1)).reverse.find? fun i => pat.isPrefixOf (text.drop i)

/-- The filter for the server; `format` is how a stream writes a `double`. -/
def filterText (format : F → List Char) (qthLatitude qthLongitude : F) (filterRadius : Int) :
    List Char :=
  "r/".toList ++ format qthLatitude ++ ['/'] ++ format qthLongitude ++ ['/'] ++
    (toString filterRadius).toList

/-- The body of the `try` of `main`, after the configuration has been read. -/
def mainTry (format : F → List Char) (config : Config F) : MainM F Nat := do
  if config.callsign.any fun callsign => rfind callsign "N0CALL".toList = some 0 then
    throw (.exited 1)
  else
    let qthLatitude ← value .main config.qthLatitude
    let qthLongitude ← value .main config.qthLongitude
    let filterRadius ← value .main config.filterRadius
    let _ ← value .main config.callsign
    mainLoop config (filterText format qthLatitude qthLongitude filterRadius)
      ((← get).net.script.length + 1)

/-- `main`, which returns 1 for every exception. -/
def main (format : F → List Char) (config : Config F) : MainM F Nat :=
  catching (mainTry format config) fun
    | .thrown _ => some (pure 1)
    | _ => none

end Daemon

end AprsWx
