import GeoConformance.Vocabulary

/-! Kinds of referencing objects and the roles that an object can play, with what a kind demands of
the objects attached to it. -/
namespace GeoConformance

/-- The roles, in the order in which an object is checked against them. -/
inductive Role
  | coordinateReferenceSystem | coordinateSystem | coordinateSystemAxis
  | datum | ellipsoid | primeMeridian
  | parameterDescriptor | coordinateOperation | operationMethod
  deriving DecidableEq, Repr

namespace Role

def all : List Role :=
  [coordinateReferenceSystem, coordinateSystem, coordinateSystemAxis,
    datum, ellipsoid, primeMeridian,
    parameterDescriptor, coordinateOperation, operationMethod]

def name : Role → String
  | coordinateReferenceSystem => "CoordinateReferenceSystem"
  | coordinateSystem => "CoordinateSystem"
  | coordinateSystemAxis => "CoordinateSystemAxis"
  | datum => "Datum"
  | ellipsoid => "Ellipsoid"
  | primeMeridian => "PrimeMeridian"
  | parameterDescriptor => "ParameterDescriptor"
  | coordinateOperation => "CoordinateOperation"
  | operationMethod => "OperationMethod"

instance : Vocabulary Role where
  all := all
  name := name
  mem_all r := by cases r <;> decide
  name_injOn := by decide +kernel

end Role

/-- The number of axes that a kind of coordinate system admits, bounded above or not. -/
structure DimensionRange where
  first : Nat
  last : Option Nat
  deriving DecidableEq, Repr

namespace DimensionRange

def contains (range : DimensionRange) (dimension : Nat) : Bool :=
  range.first ≤ dimension && range.last.all (dimension ≤ ·)

def text (range : DimensionRange) : String :=
  let counted (n : Nat) := s!"{n} dimension" ++ if n = 1 then "" else "s"
  match range.last with
  | none => "at least " ++ counted range.first
  | some last =>
    if range.first = last then counted last else s!"{range.first} to " ++ counted last

end DimensionRange

inductive CoordinateSystemKind
  | affine | cartesian | cylindrical | ellipsoidal | linear | parametric
  | polar | spherical | temporal | vertical | other
  deriving DecidableEq, Repr

namespace CoordinateSystemKind

def all : List CoordinateSystemKind :=
  [affine, cartesian, cylindrical, ellipsoidal, linear, parametric,
    polar, spherical, temporal, vertical, other]

def name : CoordinateSystemKind → String
  | affine => "Affine"
  | cartesian => "Cartesian"
  | cylindrical => "Cylindrical"
  | ellipsoidal => "Ellipsoidal"
  | linear => "Linear"
  | parametric => "Parametric"
  | polar => "Polar"
  | spherical => "Spherical"
  | temporal => "Temporal"
  | vertical => "Vertical"
  | other => "Other"

instance : Vocabulary CoordinateSystemKind where
  all := all
  name := name
  mem_all k := by cases k <;> decide
  name_injOn := by decide +kernel

def dimensions : CoordinateSystemKind → DimensionRange
  | affine | cartesian | ellipsoidal | spherical => ⟨2, some 3⟩
  | polar => ⟨2, some 2⟩
  | cylindrical => ⟨3, some 3⟩
  | linear | parametric | temporal | vertical => ⟨1, some 1⟩
  | other => ⟨1, none⟩

/-- The kinds whose axes have to be perpendicular. -/
def perpendicularAxes : CoordinateSystemKind → Bool
  | cartesian | ellipsoidal => true
  | _ => false

end CoordinateSystemKind

inductive RangeMeaning
  | exact | wraparound
  deriving DecidableEq, Repr

namespace RangeMeaning

def name : RangeMeaning → String
  | exact => "Exact"
  | wraparound => "Wraparound"

instance : Vocabulary RangeMeaning where
  all := [exact, wraparound]
  name := name
  mem_all m := by cases m <;> decide
  name_injOn := by decide +kernel

end RangeMeaning

inductive DatumKind
  | geodetic | vertical | temporal | engineering | image | parametric
  deriving DecidableEq, Repr

namespace DatumKind

def all : List DatumKind :=
  [geodetic, vertical, temporal, engineering, image, parametric]

def name : DatumKind → String
  | geodetic => "Geodetic"
  | vertical => "Vertical"
  | temporal => "Temporal"
  | engineering => "Engineering"
  | image => "Image"
  | parametric => "Parametric"

instance : Vocabulary DatumKind where
  all := all
  name := name
  mem_all k := by cases k <;> decide
  name_injOn := by decide +kernel

end DatumKind

inductive CrsKind
  | geographic | geocentric | projected | vertical | temporal
  | engineering | image | parametric | derived | compound
  deriving DecidableEq, Repr

namespace CrsKind

def all : List CrsKind :=
  [geographic, geocentric, projected, vertical, temporal,
    engineering, image, parametric, derived, compound]

def name : CrsKind → String
  | geographic => "Geographic"
  | geocentric => "Geocentric"
  | projected => "Projected"
  | vertical => "Vertical"
  | temporal => "Temporal"
  | engineering => "Engineering"
  | image => "Image"
  | parametric => "Parametric"
  | derived => "Derived"
  | compound => "Compound"

instance : Vocabulary CrsKind where
  all := all
  name := name
  mem_all k := by cases k <;> decide
  name_injOn := by decide +kernel

/-- The kinds of coordinate system that a kind of reference system is limited to, if it is. -/
def expectedSystems : CrsKind → Option (List CoordinateSystemKind)
  | geographic => some [.ellipsoidal]
  | geocentric => some [.cartesian, .spherical]
  | projected => some [.cartesian]
  | vertical => some [.vertical]
  | temporal => some [.temporal]
  | image => some [.cartesian, .affine]
  | parametric => some [.parametric]
  | engineering | derived | compound => none

/-- The kind of datum that a kind of reference system is limited to, if it is. -/
def expectedDatum : CrsKind → Option DatumKind
  | geographic | geocentric | projected => some .geodetic
  | vertical => some .vertical
  | temporal => some .temporal
  | parametric => some .parametric
  | engineering | image | derived | compound => none

/-- The kinds whose well-known axis names bind the direction of the axis. -/
def namesAxes : CrsKind → Bool
  | geographic | geocentric => true
  | _ => false

end CrsKind

inductive OperationKind
  | conversion | transformation | concatenated | passThrough
  deriving DecidableEq, Repr

namespace OperationKind

def all : List OperationKind :=
  [conversion, transformation, concatenated, passThrough]

def name : OperationKind → String
  | conversion => "Conversion"
  | transformation => "Transformation"
  | concatenated => "Concatenated"
  | passThrough => "PassThrough"

instance : Vocabulary OperationKind where
  all := all
  name := name
  mem_all k := by cases k <;> decide
  name_injOn := by decide +kernel

end OperationKind

end GeoConformance
