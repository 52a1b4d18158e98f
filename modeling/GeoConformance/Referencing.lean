import GeoConformance.AxisDirection
import GeoConformance.Kinds
import GeoConformance.Metadata

/-! Referencing objects: reference systems, coordinate systems and their axes, datums, operations
and their parameters. Any attribute can be absent, and a field left out has the value that an
object without it answers with. -/
namespace GeoConformance

/-- The attributes that every referencing object has. -/
structure Identity where
  name : Option Identifier := none
  identifiers : List Identifier := []
  aliases : List String := []
  domains : List ObjectDomain := []
  remarks : Option String := none
  deriving DecidableEq, Repr

namespace Identity

def code (x : Identity) : Option String :=
  x.name.bind (·.code)

def displayName (x : Identity) : String :=
  x.code.getD "<unnamed>"

end Identity

structure Axis where
  identity : Identity
  abbreviation : Option String := none
  direction : Option AxisDirection := none
  unit : Option String := none
  minimum : Float := -1 / 0
  maximum : Float := 1 / 0
  rangeMeaning : Option RangeMeaning := none
  deriving DecidableEq, Repr

structure CoordinateSystem where
  identity : Identity
  kind : CoordinateSystemKind
  listed : List (Option Axis) := []
  dimension : Nat := listed.length
  deriving DecidableEq, Repr

namespace CoordinateSystem

def axis? (x : CoordinateSystem) (index : Nat) : Option Axis :=
  (x.listed[index]?).join

/-- The axes below the dimension, an unlisted one being missing. -/
def axes (x : CoordinateSystem) : List (Option Axis) :=
  (List.range x.dimension).map x.axis?

@[simp] theorem length_axes (x : CoordinateSystem) : x.axes.length = x.dimension := by
  simp [axes]

theorem zipIdx_axes (x : CoordinateSystem) :
    x.axes.zipIdx = (List.range x.dimension).map fun index => (x.axis? index, index) := by
  apply List.ext_getElem
  · simp
  · simp [axes]

theorem mem_listed_of_mem_axes {x : CoordinateSystem} {a : Axis} (h : some a ∈ x.axes) :
    some a ∈ x.listed := by
  obtain ⟨i, _, hi⟩ := List.mem_map.mp h
  simp only [axis?, Option.join_eq_some_iff] at hi
  exact List.mem_of_getElem? hi

end CoordinateSystem

/-- An ellipsoid of revolution. It may call itself a sphere whatever its semi-axes are. -/
structure Ellipsoid where
  identity : Identity
  semiMajor : Float
  semiMinor : Float
  inverseFlattening : Float
  flatteningDefinitive : Bool := false
  unit : Option String := none
  isSphere : Bool := semiMajor == semiMinor
  deriving DecidableEq, Repr

structure PrimeMeridian where
  identity : Identity
  longitude : Float := 0
  unit : Option String := none
  deriving DecidableEq, Repr

structure Datum where
  identity : Identity
  kind : DatumKind
  anchor : Option String := none
  ellipsoid : Option Ellipsoid := none
  primeMeridian : Option PrimeMeridian := none
  deriving DecidableEq, Repr

/-- A coordinate reference system. Only compound ones have components. -/
structure Crs where
  identity : Identity
  kind : CrsKind
  coordinateSystem : Option CoordinateSystem := none
  datum : Option Datum := none
  components : List Crs := []

/-- A parameter, or a group of them when it has a list of descriptors. -/
structure Parameter where
  identity : Identity
  minimumOccurs : Nat := 1
  maximumOccurs : Nat := 1
  descriptors : Option (List Parameter) := none

structure OperationMethod where
  identity : Identity
  formula : Option String := none
  parameters : Option Parameter := none

/-- A coordinate operation. Concatenated and pass-through ones wrap others as steps. -/
structure Operation where
  identity : Identity
  kind : OperationKind
  source : Option Crs := none
  target : Option Crs := none
  version : Option String := none
  method : Option OperationMethod := none
  steps : List Operation := []

end GeoConformance
