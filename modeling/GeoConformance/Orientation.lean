import GeoConformance.AxisDirection

/-! Orientations of axis directions. A category gathers the directions that can be compared with
each other; its members split the full turn in equal steps, clockwise from position zero.
The catalog places every direction in exactly one category. -/
namespace GeoConformance

def fullTurn : UInt8 := 16

def rightAngle : UInt8 := fullTurn / 4

def degreesPerStep : Float := 360 / fullTurn.toFloat

inductive Category
  | geographic | grid | display | ship
  | vertical | temporal | rotation | radial
  | geocentricX | geocentricY | geocentricZ
  | unspecified | other
  deriving DecidableEq, Repr

namespace Category

def all : List Category :=
  [geographic, grid, display, ship,
    vertical, temporal, rotation, radial,
    geocentricX, geocentricY, geocentricZ,
    unspecified, other]

def name : Category → String
  | geographic => "Geographic"
  | grid => "Grid"
  | display => "Display"
  | ship => "Ship"
  | vertical => "Vertical"
  | temporal => "Temporal"
  | rotation => "Rotation"
  | radial => "Radial"
  | geocentricX => "GeocentricX"
  | geocentricY => "GeocentricY"
  | geocentricZ => "GeocentricZ"
  | unspecified => "Unspecified"
  | other => "Other"

instance : Vocabulary Category where
  all := all
  name := name
  mem_all c := by cases c <;> decide
  name_injOn := by decide +kernel

/-- The directions of a category, clockwise from position zero. -/
def members : Category → List AxisDirection
  | geographic =>
    [.north, .northNorthEast, .northEast, .eastNorthEast,
      .east, .eastSouthEast, .southEast, .southSouthEast,
      .south, .southSouthWest, .southWest, .westSouthWest,
      .west, .westNorthWest, .northWest, .northNorthWest]
  | grid => [.rowNegative, .columnPositive, .rowPositive, .columnNegative]
  | display => [.displayUp, .displayRight, .displayDown, .displayLeft]
  | ship => [.forward, .starboard, .aft, .port]
  | vertical => [.up, .down]
  | temporal => [.future, .past]
  | rotation => [.clockwise, .counterClockwise]
  | radial => [.awayFrom, .towards]
  | geocentricX => [.geocentricX]
  | geocentricY => [.geocentricY]
  | geocentricZ => [.geocentricZ]
  | unspecified => [.unspecified]
  | other => [.other]

/-- The distance between consecutive members. -/
def step (c : Category) : UInt8 :=
  fullTurn / c.members.length.toUInt8

theorem step_mul_length (c : Category) : c.step.toNat * c.members.length = fullTurn.toNat := by
  cases c <;> decide

end Category

/-- A position within a category. Positions of the catalog stay below the full turn; any other
one stands for its remainder. -/
structure Orientation where
  category : Category
  position : UInt8
  deriving DecidableEq, Repr

namespace Orientation

def degrees (x : Orientation) : Float :=
  x.position.toFloat * degreesPerStep

/-- The steps between two orientations the short way round, when their categories agree. -/
def separation (x y : Orientation) : Option UInt8 :=
  if x.category = y.category then
    let difference := (max x.position y.position - min x.position y.position) % fullTurn
    some (min difference (fullTurn - difference))
  else none

theorem separation_isSome {x y : Orientation} :
    (x.separation y).isSome = true ↔ x.category = y.category := by
  simp only [separation]
  split <;> simp_all

end Orientation

/-- The catalog entry of a direction. -/
def AxisDirection.orientation? (direction : AxisDirection) : Option Orientation :=
  Category.all.findSome? fun category =>
    (category.members.idxOf? direction).map fun index =>
      ⟨category, index.toUInt8 * category.step⟩

theorem AxisDirection.orientation?_isSome (direction : AxisDirection) :
    direction.orientation?.isSome = true := by
  cases direction <;> decide

end GeoConformance
