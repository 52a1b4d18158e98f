/-! Metadata values of referencing objects: identifiers, extents and domains of validity. -/
namespace GeoConformance

/-- A code, with the namespace it belongs to. -/
structure Identifier where
  code : Option String := none
  codeSpace : Option String := none
  version : Option String := none
  description : Option String := none
  deriving DecidableEq, Repr

namespace Identifier

def ofCode (code : String) : Identifier :=
  { code := some code }

def withCodeSpace (x : Identifier) (codeSpace : String) : Identifier :=
  { x with codeSpace := some codeSpace }

def withVersion (x : Identifier) (version : String) : Identifier :=
  { x with version := some version }

end Identifier

/-- Bounding longitudes and latitudes, in degrees. The west bound is above the east bound for a box
across the antimeridian. -/
structure GeographicBoundingBox where
  west : Float := 0
  east : Float := 0
  south : Float := 0
  north : Float := 0
  deriving DecidableEq, Repr

def GeographicBoundingBox.world : GeographicBoundingBox :=
  ⟨-180, 180, -90, 90⟩

structure Extent where
  description : Option String := none
  boundingBox : Option GeographicBoundingBox := none
  deriving DecidableEq, Repr

namespace Extent

def described (description : String) : Extent :=
  { description := some description }

def bounded (box : GeographicBoundingBox) : Extent :=
  { boundingBox := some box }

end Extent

/-- What an object is meant for, and where. -/
structure ObjectDomain where
  scope : Option String := none
  validity : Option Extent := none
  deriving DecidableEq, Repr

def ObjectDomain.of (scope : String) (validity : Extent) : ObjectDomain :=
  ⟨some scope, some validity⟩

end GeoConformance
