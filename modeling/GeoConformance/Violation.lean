import GeoConformance.Decimal
import GeoConformance.Referencing

/-! The ways in which an object can fall short of the object model, each with the values that show
it and with its wording. A rejected object is reported by a `ValidationError`, whose constructor
says what sort of rule was broken. -/
namespace GeoConformance

inductive Violation
  /-- Put in the caller's own words. -/
  | stated (text : String)
  | blankText (property : String)
  | emptyCollection (property : String)
  | unnamedObject
  | identifierWithoutCode
  | domainWithoutScope
  | domainWithoutValidity
  | emptyExtent
  | longitudeBound (bound : String) (value : Float)
  | latitudeBound (bound : String) (value : Float)
  | southAboveNorth (south north : Float)
  | axisWithoutAbbreviation
  | axisWithoutDirection
  | axisWithoutUnit
  | axisRangeEmpty (minimum maximum : Float)
  | axisRangeUnexplained
  | dimensionUnfit (kind : CoordinateSystemKind) (dimension : Nat)
  | axisMissing (index : Nat)
  | ellipsoidWithoutUnit
  | semiMajorNotPositive (value : Float)
  | semiMinorNotPositive (value : Float)
  | semiMinorExceedsMajor (semiMinor semiMajor : Float)
  | sphereFlattened (inverseFlattening : Float)
  | inverseFlatteningUnfit (inverseFlattening : Float)
  | semiMinorInconsistent (semiMinor inverseFlattening expected : Float)
  | inverseFlatteningInconsistent (inverseFlattening semiMinor expected : Float)
  | meridianWithoutUnit
  | meridianOutOfRange (longitude : Float)
  | ellipsoidNotGeodetic
  | meridianNotGeodetic
  | geodeticWithoutEllipsoid
  | geodeticWithoutMeridian
  | crsWithoutCoordinateSystem
  | crsWithoutDatum
  | systemKindUnfit (crs : CrsKind) (expected : List CoordinateSystemKind)
      (found : CoordinateSystemKind)
  | datumKindUnfit (crs : CrsKind) (expected found : DatumKind)
  | axisMisdirected (crs : CrsKind) (name : String) (direction : AxisDirection)
  | tooFewComponents (count : Nat)
  | occurrencesCrossed (minimum maximum : Nat)
  | parameterRepeated (code : String)
  | conversionWithVersion
  | conversionWithoutMethod
  | transformationWithoutSource
  | transformationWithoutTarget
  | transformationWithoutVersion
  | transformationWithoutMethod
  | tooFewSteps (count : Nat)
  | stepsNotOne (count : Nat)
  | methodWithoutFormula
  deriving DecidableEq, Repr

def Violation.text : Violation → String
  | stated text => text
  | blankText property => property ++ " shall not be blank."
  | emptyCollection property => "Collection of " ++ property ++ "s shall not be empty."
  | unnamedObject => "IdentifiedObject: shall have a name."
  | identifierWithoutCode => "Identifier: shall have a code."
  | domainWithoutScope => "ObjectDomain: shall have a scope."
  | domainWithoutValidity => "ObjectDomain: shall have a domain of validity."
  | emptyExtent => "Extent: shall have a description or a geographic element."
  | longitudeBound bound value =>
    "GeographicBoundingBox: " ++ bound ++ " bound " ++ floatText value ++
      " is out of the [-180 … 180]° range."
  | latitudeBound bound value =>
    "GeographicBoundingBox: " ++ bound ++ " bound " ++ floatText value ++
      " is out of the [-90 … 90]° range."
  | southAboveNorth south north =>
    "GeographicBoundingBox: south bound " ++ floatText south ++
      " is greater than north bound " ++ floatText north ++ "."
  | axisWithoutAbbreviation => "CoordinateSystemAxis: shall have an abbreviation."
  | axisWithoutDirection => "CoordinateSystemAxis: shall have a direction."
  | axisWithoutUnit => "CoordinateSystemAxis: shall have a unit."
  | axisRangeEmpty minimum maximum =>
    "CoordinateSystemAxis: minimum value " ++ floatText minimum ++
      " shall be less than maximum value " ++ floatText maximum ++ "."
  | axisRangeUnexplained =>
    "CoordinateSystemAxis: shall have a range meaning when the range is bounded."
  | dimensionUnfit kind dimension =>
    "CoordinateSystem: " ++ kind.name ++ " coordinate system shall have " ++
      kind.dimensions.text ++ ", found " ++ Nat.repr dimension ++ "."
  | axisMissing index => "CoordinateSystem: axis " ++ Nat.repr index ++ " shall not be missing."
  | ellipsoidWithoutUnit => "Ellipsoid: shall have an axis unit."
  | semiMajorNotPositive value =>
    "Ellipsoid: semi-major axis shall be a positive number, found " ++ floatText value ++ "."
  | semiMinorNotPositive value =>
    "Ellipsoid: semi-minor axis shall be a positive number, found " ++ floatText value ++ "."
  | semiMinorExceedsMajor semiMinor semiMajor =>
    "Ellipsoid: semi-minor axis " ++ floatText semiMinor ++
      " shall not be greater than semi-major axis " ++ floatText semiMajor ++ "."
  | sphereFlattened inverseFlattening =>
    "Ellipsoid: inverse flattening of a sphere shall be infinite, found " ++
      floatText inverseFlattening ++ "."
  | inverseFlatteningUnfit inverseFlattening =>
    "Ellipsoid: inverse flattening shall be a finite number greater than 1, found " ++
      floatText inverseFlattening ++ "."
  | semiMinorInconsistent semiMinor inverseFlattening expected =>
    "Ellipsoid: semi-minor axis " ++ floatText semiMinor ++
      " is inconsistent with inverse flattening " ++ floatText inverseFlattening ++
      ", expected " ++ floatText expected ++ "."
  | inverseFlatteningInconsistent inverseFlattening semiMinor expected =>
    "Ellipsoid: inverse flattening " ++ floatText inverseFlattening ++
      " is inconsistent with semi-minor axis " ++ floatText semiMinor ++
      ", expected " ++ floatText expected ++ "."
  | meridianWithoutUnit => "PrimeMeridian: shall have an angular unit."
  | meridianOutOfRange longitude =>
    "PrimeMeridian: Greenwich longitude " ++ floatText longitude ++
      " is out of the [-180 … 180]° range."
  | ellipsoidNotGeodetic => "Datum: only geodetic datums shall have an ellipsoid."
  | meridianNotGeodetic => "Datum: only geodetic datums shall have a prime meridian."
  | geodeticWithoutEllipsoid => "GeodeticDatum: shall have an ellipsoid."
  | geodeticWithoutMeridian => "GeodeticDatum: shall have a prime meridian."
  | crsWithoutCoordinateSystem => "CoordinateReferenceSystem: shall have a coordinate system."
  | crsWithoutDatum => "CoordinateReferenceSystem: shall have a datum."
  | systemKindUnfit crs expected found =>
    crs.name ++ "CRS: coordinate system shall be one of [" ++
      ", ".intercalate (expected.map (·.name)) ++ "], found " ++ found.name ++ "."
  | datumKindUnfit crs expected found =>
    crs.name ++ "CRS: datum shall be " ++ expected.name ++ ", found " ++ found.name ++ "."
  | axisMisdirected crs name direction =>
    crs.name ++ "CRS: axis named \"" ++ name ++ "\" shall not have direction " ++
      direction.symbol ++ "."
  | tooFewComponents count =>
    "CompoundCRS: shall have at least two components, found " ++ Nat.repr count ++ "."
  | occurrencesCrossed minimum maximum =>
    "ParameterDescriptor: minimum occurrences " ++ Nat.repr minimum ++
      " shall not exceed maximum occurrences " ++ Nat.repr maximum ++ "."
  | parameterRepeated code =>
    "ParameterDescriptorGroup: parameter name \"" ++ code ++ "\" is used more than once."
  | conversionWithVersion => "Conversion: shall not have an operation version."
  | conversionWithoutMethod => "Conversion: shall have a method."
  | transformationWithoutSource => "Transformation: shall have a source CRS."
  | transformationWithoutTarget => "Transformation: shall have a target CRS."
  | transformationWithoutVersion => "Transformation: shall have an operation version."
  | transformationWithoutMethod => "Transformation: shall have a method."
  | tooFewSteps count =>
    "ConcatenatedOperation: shall have at least two steps, found " ++ Nat.repr count ++ "."
  | stepsNotOne count =>
    "PassThroughOperation: shall wrap exactly one operation, found " ++ Nat.repr count ++ "."
  | methodWithoutFormula => "OperationMethod: shall have a formula."

/-- Why an object is rejected: the first rule that it breaks. -/
inductive ValidationError
  | missingRequiredField (violation : Violation)
  | unexpectedField (violation : Violation)
  | invalidValue (violation : Violation)
  | inconsistentGeometry (first second : AxisDirection) (angle : Float)
  /-- The orientation catalog lacks a direction: the fault of the catalog, not of the object. -/
  | internalCatalogFault (direction : AxisDirection)
  deriving DecidableEq, Repr

namespace ValidationError

def message : ValidationError → String
  | missingRequiredField violation | unexpectedField violation | invalidValue violation =>
    violation.text
  | inconsistentGeometry first second angle =>
    "Found an angle of " ++ tenthsText angle ++ "° between axis directions " ++ first.symbol ++
      " and " ++ second.symbol ++ "."
  | internalCatalogFault direction =>
    "axis direction " ++ direction.symbol ++ " is missing from the orientation catalog"

def isInternal : ValidationError → Bool
  | internalCatalogFault _ => true
  | _ => false

end ValidationError
end GeoConformance
