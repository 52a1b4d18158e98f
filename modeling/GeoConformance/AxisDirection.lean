import GeoConformance.Vocabulary
import GeoConformance.WhiteSpace

/-! Directions of coordinate system axes. Each is written as an upper-case symbol, and read from
that symbol in either case of its ASCII letters, between any white space. -/
namespace GeoConformance

inductive AxisDirection
  | other
  | north | northNorthEast | northEast | eastNorthEast
  | east | eastSouthEast | southEast | southSouthEast
  | south | southSouthWest | southWest | westSouthWest
  | west | westNorthWest | northWest | northNorthWest
  | up | down
  | geocentricX | geocentricY | geocentricZ
  | future | past
  | columnPositive | columnNegative | rowPositive | rowNegative
  | displayRight | displayLeft | displayUp | displayDown
  | forward | aft | port | starboard
  | clockwise | counterClockwise
  | towards | awayFrom
  | unspecified
  deriving DecidableEq, Ord, Repr

namespace AxisDirection

def all : List AxisDirection :=
  [other,
    north, northNorthEast, northEast, eastNorthEast,
    east, eastSouthEast, southEast, southSouthEast,
    south, southSouthWest, southWest, westSouthWest,
    west, westNorthWest, northWest, northNorthWest,
    up, down,
    geocentricX, geocentricY, geocentricZ,
    future, past,
    columnPositive, columnNegative, rowPositive, rowNegative,
    displayRight, displayLeft, displayUp, displayDown,
    forward, aft, port, starboard,
    clockwise, counterClockwise,
    towards, awayFrom,
    unspecified]

def symbol : AxisDirection → String
  | other => "OTHER"
  | north => "NORTH"
  | northNorthEast => "NORTH_NORTH_EAST"
  | northEast => "NORTH_EAST"
  | eastNorthEast => "EAST_NORTH_EAST"
  | east => "EAST"
  | eastSouthEast => "EAST_SOUTH_EAST"
  | southEast => "SOUTH_EAST"
  | southSouthEast => "SOUTH_SOUTH_EAST"
  | south => "SOUTH"
  | southSouthWest => "SOUTH_SOUTH_WEST"
  | southWest => "SOUTH_WEST"
  | westSouthWest => "WEST_SOUTH_WEST"
  | west => "WEST"
  | westNorthWest => "WEST_NORTH_WEST"
  | northWest => "NORTH_WEST"
  | northNorthWest => "NORTH_NORTH_WEST"
  | up => "UP"
  | down => "DOWN"
  | geocentricX => "GEOCENTRIC_X"
  | geocentricY => "GEOCENTRIC_Y"
  | geocentricZ => "GEOCENTRIC_Z"
  | future => "FUTURE"
  | past => "PAST"
  | columnPositive => "COLUMN_POSITIVE"
  | columnNegative => "COLUMN_NEGATIVE"
  | rowPositive => "ROW_POSITIVE"
  | rowNegative => "ROW_NEGATIVE"
  | displayRight => "DISPLAY_RIGHT"
  | displayLeft => "DISPLAY_LEFT"
  | displayUp => "DISPLAY_UP"
  | displayDown => "DISPLAY_DOWN"
  | forward => "FORWARD"
  | aft => "AFT"
  | port => "PORT"
  | starboard => "STARBOARD"
  | clockwise => "CLOCKWISE"
  | counterClockwise => "COUNTER_CLOCKWISE"
  | towards => "TOWARDS"
  | awayFrom => "AWAY_FROM"
  | unspecified => "UNSPECIFIED"

instance : Vocabulary AxisDirection where
  all := all
  name := symbol
  mem_all a := by cases a <;> decide
  name_injOn := by decide +kernel

/-- The refusal of a text that names no direction, with the text as it was given. -/
structure Unknown where
  given : String
  deriving DecidableEq, Repr

def Unknown.message (e : Unknown) : String :=
  "unknown axis direction: " ++ e.given

/-- Reads a symbol in any ASCII case, trimmed of white space. -/
def parse (text : String) : Except Unknown AxisDirection :=
  match Vocabulary.named? ((trim text).map Char.toUpper) with
  | some direction => .ok direction
  | none => .error ⟨text⟩

end AxisDirection
end GeoConformance
