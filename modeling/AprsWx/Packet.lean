import AprsWx.Lib.Double
import AprsWx.Runtime

/-!
# Packets and the weather items

The data of `APRS_Packet.h`: the packet classes, the table of weather items and the two
conversions of text to numbers, with the distance and bearing of a position.

Times are readings of the steady clock in nanoseconds. `double` is any type `F` with
the operations of `CDouble`.
-/

namespace AprsWx

open Double Numeral

variable {F : Type} [CDouble F]

/-! ## Conversions -/

/-- The C string in a buffer that `str` was copied to: it ends at the first `'\0'`. -/
def cString (str : List Char) : List Char := str.takeWhile (· ≠ '\x00')

/-- The number `strtod` reads in `str`, if it reads all of `str`. -/
def strtodAll (str : List Char) : Option F :=
  let (l, n) := strtod (cString str)
  if n < str.length then none else some (ofLiteral l)

/-- `safeConvert<double>`, with its buffer of 64 characters. -/
def safeConvertDouble {σ : Type} (str : List Char) : EStateM Stop σ (Option F) :=
  if str = [] then pure none
  else if str.length > 64 - 1 then throw (.thrown .rangeError)
  else pure (strtodAll str)

/-- `safeConvert<long>`. -/
def safeConvertLong (str : List Char) : Option Int :=
  if str = [] then none
  else
    let r := fromChars (-2 ^ 63) (2 ^ 63 - 1) str
    if r.ec = .ok ∧ r.ptr = str.length then some r.value else none

/-- A string that fits the buffer makes `safeConvert<double>` a function. -/
theorem safeConvertDouble_of_length {σ : Type} {str : List Char} (h : str.length ≤ 63) :
    (safeConvertDouble str : EStateM Stop σ (Option F)) =
      pure (if str = [] then none else strtodAll str) := by
  unfold safeConvertDouble
  split
  · rfl
  · rw [if_neg (by omega)]

def rad2deg (r : F) : F := ofRat 180 * (r / CDouble.pi)

def deg2rad (d : F) : F := CDouble.pi * (d / ofRat 180)

/-! ## The packet classes -/

inductive PacketStatus
  | None
  | AprsPacket
  | PositionPacket
  | WxPacket
  | DecodingError
  | ErrorLatitude
  | ErrorLongitude
  deriving DecidableEq

/-- `APRS_Packet`; its constructor sets `mTimePoint` to the clock's reading. -/
structure AprsPacket where
  mPacketStatus : PacketStatus := .None
  mName : List Char := []
  mSymTableId : Char := '\x00'
  mSymCode : Char := '\x00'
  mTimePoint : Int

/-- `APRS_Position`. -/
structure AprsPosition (F : Type) extends AprsPacket where
  mLat : Option F := none
  mLon : Option F := none
  mDistance : Option F := none
  mBearing : Option F := none
  mHannValue : Option F := none

/-- Distance in km and bearing in degrees of the position `mLat2`, `mLon2` as seen from
`mLat1`, `mLon1`, all in degrees. -/
def distanceBearing (mLat1 mLon1 mLat2 mLon2 : F) : F × F :=
  let lat2 := deg2rad mLat2
  let lon2 := deg2rad mLon2
  let lat1 := deg2rad mLat1
  let lon1 := deg2rad mLon1
  let sinLat := CDouble.sin ((lat1 - lat2) / ofRat 2)
  let sinLatSq := sinLat * sinLat
  let sinLon := CDouble.sin ((lon1 - lon2) / ofRat 2)
  let sinLonSq := sinLon * sinLon
  let d1 := ofRat 2 *
    CDouble.asin (CDouble.sqrt (sinLatSq + CDouble.cos lat1 * CDouble.cos lat2 * sinLonSq))
  let dlon := lon2 - lon1
  let tc := CDouble.atan2 (CDouble.sin dlon * CDouble.cos lat2)
    (CDouble.cos lat1 * CDouble.sin lat2 - CDouble.sin lat1 * CDouble.cos lat2 * CDouble.cos dlon)
  let tc := if CDouble.lt tc (ofRat 0) then ofRat 2 * CDouble.pi + tc else tc
  (d1 * ofRat 6371, rad2deg tc)

/-- `setBearingDistance` of the position `this`: it tests `mLon` twice and `mLat` not at
all. -/
def AprsPosition.setBearingDistance {σ : Type} (this other : AprsPosition F) :
    EStateM Stop σ (AprsPosition F × Bool) := do
  if this.mLon.isSome && this.mLon.isSome && other.mLat.isSome && other.mLon.isSome then
    let mLat2 ← value .setBearingDistance this.mLat
    let mLon2 ← value .setBearingDistance this.mLon
    let mLat1 ← value .setBearingDistance other.mLat
    let mLon1 ← value .setBearingDistance other.mLon
    let (mDistance, mBearing) := distanceBearing mLat1 mLon1 mLat2 mLon2
    return ({ this with mDistance := some mDistance, mBearing := some mBearing }, true)
  else
    return (this, false)

/-- The position after `setBearingDistance`, where it has a latitude and a longitude. -/
def AprsPosition.located (this other : AprsPosition F) : AprsPosition F :=
  match this.mLat, this.mLon, other.mLat, other.mLon with
  | some mLat2, some mLon2, some mLat1, some mLon1 =>
    { this with
      mDistance := some (distanceBearing mLat1 mLon1 mLat2 mLon2).1
      mBearing := some (distanceBearing mLat1 mLon1 mLat2 mLon2).2 }
  | _, _, _, _ => this

theorem AprsPosition.setBearingDistance_eq {σ : Type} (this other : AprsPosition F)
    (hlat : this.mLat.isSome) :
    ∃ b, (this.setBearingDistance other : EStateM Stop σ (AprsPosition F × Bool)) =
      pure (this.located other, b) := by
  obtain ⟨lat2, hlat2⟩ := Option.isSome_iff_exists.mp hlat
  unfold setBearingDistance located
  rcases this.mLon with _ | lon2
  · exact ⟨false, by simp [hlat2]⟩
  rcases other.mLat with _ | lat1
  · exact ⟨false, by simp [hlat2]⟩
  rcases other.mLon with _ | lon1
  · exact ⟨false, by simp [hlat2]⟩
  · exact ⟨true, by simp [hlat2]⟩

/-- Locating a position leaves its packet data and its coordinates alone. -/
theorem AprsPosition.located_frame (this other : AprsPosition F) :
    (this.located other).toAprsPacket = this.toAprsPacket ∧
      (this.located other).mLat = this.mLat ∧ (this.located other).mLon = this.mLon := by
  unfold located
  split <;> exact ⟨rfl, rfl, rfl⟩

/-! ## Weather items -/

inductive WxSym
  | WindDirection
  | WindSpeed
  | WindGust
  | Temperature
  | Humidity
  | RainHour
  | RainDay
  | RainMidnight
  | Pressure
  | Luminosity
  | DewPoint
  | Humidex
  deriving DecidableEq

inductive Units
  | Degrees
  | MPH
  | Fahrenheit
  | Celsius
  | inch_100
  | Percent
  | hPa
  | wPSqm
  deriving DecidableEq

/-- A row of the table, without the texts and the precision that only `printOn` uses. -/
structure WeatherItem where
  wxSym : WxSym
  wxFlag : Char
  digits : Nat
  dbName : String
  units : Units
  factor : ℚ
  deriving DecidableEq

def weatherItemList : List WeatherItem :=
  [ ⟨.WindDirection, 'c', 3, "WDir", .Degrees, 1⟩,
    ⟨.WindSpeed, 's', 3, "WSpeed", .MPH, 1⟩,
    ⟨.WindGust, 'g', 3, "WGust", .MPH, 1⟩,
    ⟨.Temperature, 't', 3, "Temp", .Fahrenheit, 1⟩,
    ⟨.Humidity, 'h', 2, "RelHum", .Percent, 1⟩,
    ⟨.RainHour, 'r', 3, "RHour", .inch_100, 100⟩,
    ⟨.RainDay, 'p', 3, "RDay", .inch_100, 100⟩,
    ⟨.RainMidnight, 'P', 3, "RainMid", .inch_100, 100⟩,
    ⟨.Pressure, 'b', 5, "BarroP", .hPa, 10⟩,
    ⟨.Luminosity, 'L', 3, "Lumin", .wPSqm, 1⟩,
    ⟨.DewPoint, '\n', 0, "DewPt", .Celsius, 1⟩,
    ⟨.Humidex, '\n', 0, "Humidex", .Celsius, 1⟩,
    ⟨.Luminosity, 'l', 3, "Lumin", .wPSqm, 1⟩ ]

/-- `WeatherItemCount`, the size of the table and of the arrays of weather values. -/
abbrev weatherItemCount : Nat := 13

/-- `static_cast<std::size_t>(wxSym)`: the position in the enumeration, and in the arrays. -/
def WxSym.idx : WxSym → Fin weatherItemCount
  | .WindDirection => 0
  | .WindSpeed => 1
  | .WindGust => 2
  | .Temperature => 3
  | .Humidity => 4
  | .RainHour => 5
  | .RainDay => 6
  | .RainMidnight => 7
  | .Pressure => 8
  | .Luminosity => 9
  | .DewPoint => 10
  | .Humidex => 11

/-- `WeatherItemList[idx]`. -/
def weatherItemAt (idx : Fin weatherItemCount) : WeatherItem := weatherItemList.get idx

/-- The row at the place of a symbol is a row of that symbol: width and symbol may be
looked up by place. -/
theorem weatherItemAt_wxSym (w : WxSym) : (weatherItemAt w.idx).wxSym = w := by
  cases w <;> rfl

/-- The row of a flag has the width that is found at the place of its symbol. -/
theorem weatherItem_digits {item : WeatherItem} (h : item ∈ weatherItemList) :
    (weatherItemAt item.wxSym.idx).digits = item.digits := by
  revert item
  decide

theorem weatherItemAt_digits_le (w : WxSym) : (weatherItemAt w.idx).digits ≤ 5 := by
  cases w <;> decide

/-- The table's row that `find_if` gives for a flag: the first of that flag. -/
def findItem (flag : Char) : Option WeatherItem :=
  weatherItemList.find? fun item => item.wxFlag = flag

/-- An array of optional weather values. -/
abbrev Slots (F : Type) := Fin weatherItemCount → Option F

/-- `APRS_WX_Report`. -/
structure AprsWxReport (F : Type) extends AprsPosition F where
  mDateTime : List Char := []
  mWeatherValue : Slots F := fun _ => none

end AprsWx
