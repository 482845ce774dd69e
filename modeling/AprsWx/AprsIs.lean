import AprsWx.Packet

/-!
# The packet decoder

The class `APRS_IS` with its cursors `p0` and `p1` into the packet text, and `decode`
with the functions it calls. A decoder is a program over the object: it moves the
cursors, and it stops with an exception where a `substr` starts past the end of the
packet and with undefined behaviour where an index lies past the terminator.
-/

namespace AprsWx

open Double Prog

/-! ## The object -/

inductive SocketType
  | SockUnknown
  | SockListen
  | SockConnect
  | SockAccept
  deriving DecidableEq

/-- `AF_UNSPEC`, `AF_INET` and `AF_INET6`. -/
def afUnspec : Nat := 0
def afInet : Nat := 2
def afInet6 : Nat := 10

/-- `local_socket` and its base class. A socket address is the bytes of its
`sockaddr_storage`. -/
structure LocalSocket where
  afType : Nat := afUnspec
  socketType : SocketType := .SockUnknown
  sockFd : Int := -1
  peerAddr : List UInt8 := List.replicate 128 0
  peerLen : Nat := 128
  mWaitTime : Nat := 0
  deriving DecidableEq

/-- `APRS_IS`. -/
structure AprsIs (F : Type) extends LocalSocket where
  mPacket : StdString := StdString.empty
  mCallSign : List Char
  mPassCode : List Char
  mFilter : List Char
  p0 : Nat := 0
  p1 : Nat := npos
  mRadius : Option F := none
  mQthPosition : AprsPosition F
  mGoodServer : Bool := false

/-- The object after `getPacket` has received a packet. -/
def AprsIs.received {F : Type} (s : AprsIs F) (packet : StdString) : AprsIs F :=
  { s with mPacket := packet, p0 := 0, p1 := npos }

/-- The object with its cursor `p0` at `n`. -/
def AprsIs.moved {F : Type} (s : AprsIs F) (n : Nat) : AprsIs F := { s with p0 := n }

abbrev Decoder (F α : Type) : Type := EStateM Stop (AprsIs F) α

variable {F : Type} [CDouble F]

/-! ## Cursors -/

/-- `mPacket[p0++]`. -/
def decodeCharAtIndex : Decoder F Char := do
  let s ← get
  set (s.moved (addSize s.p0 1))
  s.mPacket.at_ s.p0

/-- `charAtIndex(offset)`. -/
def charAtIndex (offset : Nat) : Decoder F Char := do
  let s ← get
  s.mPacket.at_ (addSize s.p0 offset)

def positionAt (c : Char) : Decoder F Nat := do
  let s ← get
  let p0 := s.mPacket.find c s.p0
  set (s.moved p0)
  return p0

def positionAfter (c : Char) : Decoder F Nat := do
  let p0 := addSize (← positionAt c) 1
  modify fun s => s.moved p0
  return p0

def stringTerminateBy (c : Char) : Decoder F (List Char) := do
  let s ← get
  let p1 := s.mPacket.find c s.p0
  set { s with p1 := p1 }
  s.mPacket.substr s.p0 (subSize p1 s.p0)

def decodeString (length : Nat) : Decoder F (List Char) := do
  let s ← get
  let str ← s.mPacket.substr s.p0 length
  set (s.moved (addSize s.p0 length))
  return str

/-- `prefix(pre)`. -/
def AprsIs.hasPrefix (s : AprsIs F) (pre : String) : Bool := s.mPacket.startsWith pre.toList

/-! ## Values -/

/-- `decodeValue<double>`. -/
def decodeValueDouble (len : Nat) (factor : F := ofRat 1) : Decoder F (Option F) := do
  let s ← get
  let number ← safeConvertDouble (← s.mPacket.substr s.p0 len)
  modify fun s => s.moved (addSize s.p0 len)
  return number.map (· / factor)

/-- `decodeValue<long>` with its default factor 1. -/
def decodeValueLong (len : Nat) : Decoder F (Option Int) := do
  let s ← get
  let number := safeConvertLong (← s.mPacket.substr s.p0 len)
  modify fun s => s.moved (addSize s.p0 len)
  return number.map (Int.tdiv · 1)

inductive CoordinateType
  | LatitudeDDMMsss
  | LongitudeDDMMsss

def CoordinateType.positiveChar : CoordinateType → Char
  | .LatitudeDDMMsss => 'N'
  | .LongitudeDDMMsss => 'E'

def CoordinateType.negativeChar : CoordinateType → Char
  | .LatitudeDDMMsss => 'S'
  | .LongitudeDDMMsss => 'W'

def CoordinateType.degreeLength : CoordinateType → Nat
  | .LatitudeDDMMsss => 2
  | .LongitudeDDMMsss => 3

def CoordinateType.minuteLength : CoordinateType → Nat
  | .LatitudeDDMMsss => 5
  | .LongitudeDDMMsss => 5

/-- The value of a coordinate from its degrees, its minutes and its hemisphere letter. -/
def coordinateValue (coordinateType : CoordinateType) (degrees : Option Int)
    (minutes : Option F) (c : Char) : Option F :=
  match degrees, minutes with
  | some degrees, some minutes =>
    let minutes := minutes / ofRat 60 + ofRat degrees
    if c = coordinateType.positiveChar then some minutes
    else if c = coordinateType.negativeChar then some (minutes * ofRat (-1))
    else none
  | _, _ => none

def decodeCoordinate (coordinateType : CoordinateType) : Decoder F (Option F) := do
  let degrees ← decodeValueLong coordinateType.degreeLength
  let minutes ← decodeValueDouble coordinateType.minuteLength
  let c := (← decodeCharAtIndex).toUpper
  return coordinateValue coordinateType degrees minutes c

/-! ## Weather values -/

/-- `mWeatherValue[idx] = value`, where there is a value, with the high luminosity range
of the flag `'l'`. -/
def storeWeatherValue (wxReport : AprsWxReport F) (wxSym : WxSym) (valueFlag : Char)
    (number : Option F) : AprsWxReport F :=
  match number with
  | some number =>
    let number := if valueFlag = 'l' then number + ofRat 1000 else number
    { wxReport with
      mWeatherValue := Function.update wxReport.mWeatherValue wxSym.idx (some number) }
  | none => wxReport

/-- `decodeWeatherValue`: the width is that of the row at the place of the symbol, the
factor is the caller's. -/
def decodeWeatherValue (wxReport : AprsWxReport F) (wxSym : WxSym) (valueFlag : Char := '\x00')
    (factor : F := ofRat 1) : Decoder F (AprsWxReport F) := do
  let number ← decodeValueDouble (weatherItemAt wxSym.idx).digits factor
  return storeWeatherValue wxReport wxSym valueFlag number

/-- What the weather loop does with a flag: decode a value of the flag's item, or leave
the loop where no item has the flag. -/
def decodeFlag (wxReport : AprsWxReport F) (flag : Char) : Decoder F (Bool × AprsWxReport F) :=
  match findItem flag with
  | some found => do
    return (true, ← decodeWeatherValue wxReport found.wxSym flag (ofRat found.factor))
  | none => pure (false, wxReport)

/-- The loop over the weather fields. One turn is left for each character and one for the
test that ends the loop. -/
def weatherLoop : Nat → AprsWxReport F → Decoder F (AprsWxReport F)
  | 0, _ => throw .pending
  | fuel + 1, wxReport => do
    let s ← get
    if s.p0 < s.mPacket.size then
      let flag ← decodeCharAtIndex
      -- the handler is never entered: no function throws a `WeatherValueError`
      let (inWx, wxReport) ← catching (decodeFlag wxReport flag) fun e =>
        if e = .thrown .weatherValueError then some (pure (false, wxReport)) else none
      if inWx then weatherLoop fuel wxReport else return wxReport
    else
      return wxReport

/-! ## Packets -/

/-- A packet behind a `unique_ptr<APRS_Packet>`, with its dynamic type. -/
inductive Decoded (F : Type)
  | packet (p : AprsPacket)
  | report (r : AprsWxReport F)

def Decoded.status : Decoded F → PacketStatus
  | .packet p => p.mPacketStatus
  | .report r => r.mPacketStatus

/-- `mHannValue` of a report at distance `mDistance`, where that and `mRadius` are known. -/
def hannValue (mRadius mDistance mHannValue : Option F) : Option F :=
  match mRadius, mDistance with
  | some mRadius, some mDistance =>
    let hann := CDouble.sin ((CDouble.pi * (mRadius - mDistance)) / (mRadius * ofRat 2))
    some (hann * hann)
  | _, _ => mHannValue

/-- The wind direction and speed, with one character between them. -/
def decodeWind (wxReport : AprsWxReport F) : Decoder F (AprsWxReport F) := do
  let wxReport ← decodeWeatherValue wxReport .WindDirection
  modify fun s => s.moved (addSize s.p0 1)
  decodeWeatherValue wxReport .WindSpeed

/-- The fields after the coordinates: wind and weather values, then distance and weight. -/
def decodeWeather (wxReport : AprsWxReport F) : Decoder F (AprsWxReport F) := do
  let wxReport ← decodeWind wxReport
  let s ← get
  let wxReport ← weatherLoop (s.mPacket.size + 1) wxReport
  modify fun s => s.moved (subSize s.p0 1)
  let s ← get
  let (position, _) ← wxReport.toAprsPosition.setBearingDistance s.mQthPosition
  let wxReport := { wxReport with toAprsPosition := position }
  return { wxReport with
    mHannValue := hannValue s.mRadius wxReport.mDistance wxReport.mHannValue
    mPacketStatus := .WxPacket }

/-- The fields after the time stamp: the coordinates with their symbol characters, and the
weather. -/
def decodePosition (wxReport : AprsWxReport F) : Decoder F (Decoded F) := do
  match ← decodeCoordinate .LatitudeDDMMsss with
  | none => return .report { wxReport with mPacketStatus := .ErrorLatitude }
  | some mLat =>
    let mSymTableId ← decodeCharAtIndex
    let wxReport := { wxReport with mLat := some mLat, mSymTableId := mSymTableId }
    match ← decodeCoordinate .LongitudeDDMMsss with
    | none => return .report { wxReport with mPacketStatus := .ErrorLongitude }
    | some mLon =>
      let mSymCode ← decodeCharAtIndex
      return .report (← decodeWeather { wxReport with mLon := some mLon, mSymCode := mSymCode })

/-- The case of `decode` for the four discriminators of a position or weather report. -/
def decodeReport (now : Int) (name : List Char) (descriminator : Char) :
    Decoder F (Decoded F) := do
  let wxReport : AprsWxReport F := { mName := name, mTimePoint := now }
  if descriminator = '@' ∨ descriminator = '/' then
    let mDateTime ← decodeString 7
    decodePosition { wxReport with mDateTime := mDateTime }
  else
    decodePosition wxReport

/-- The discriminators of the case that decodes a report. -/
def IsReport (descriminator : Char) : Prop :=
  descriminator = '!' ∨ descriminator = '=' ∨ descriminator = '@' ∨ descriminator = '/'

instance (c : Char) : Decidable (IsReport c) := inferInstanceAs (Decidable (_ ∨ _ ∨ _ ∨ _))

/-- The `while` of `decode`, at the first character of the payload. It is a test: every case
of its body returns. -/
def decodePayload (now : Int) (name : List Char) : Decoder F (Decoded F) := do
  let s ← get
  if s.p0 < s.mPacket.size ∧ s.p0 ≠ npos then
    let descriminator ← decodeCharAtIndex
    if IsReport descriminator then
      decodeReport now name descriminator
    else
      -- also for '\n', which has a case of its own with the same packet
      return .packet { mPacketStatus := .DecodingError, mTimePoint := now }
  else
    return .packet { mTimePoint := now }

/-- `decode` of the object's packet, where `now` is the clock's reading when the packet
object is made. -/
def decode (now : Int) : Decoder F (Decoded F) := do
  let name ← stringTerminateBy '>'
  let _ ← positionAfter ':'
  decodePayload now name

end AprsWx
