import GeoConformance.Config
import GeoConformance.Metadata
import GeoConformance.Orientation
import GeoConformance.Value

/-! Records of metadata, orientations and configurations as structured values. -/
namespace GeoConformance

namespace Orientation

def fieldNames : List String := ["category", "position"]

instance : Codec Orientation where
  encode x := .record (fieldNames.zip [encode x.category, encode x.position])
  decode? v := do
    let [category, position] ← v.fields? fieldNames | none
    return ⟨← Value.field? category, ← Value.field? position⟩

end Orientation

namespace Identifier

def fieldNames : List String := ["code", "code_space", "version", "description"]

instance : Codec Identifier where
  encode x := .record
    (fieldNames.zip [encode x.code, encode x.codeSpace, encode x.version, encode x.description])
  decode? v := do
    let [code, codeSpace, version, description] ← v.fields? fieldNames | none
    return ⟨← Value.field? code, ← Value.field? codeSpace, ← Value.field? version,
      ← Value.field? description⟩

end Identifier

namespace GeographicBoundingBox

def fieldNames : List String := ["west", "east", "south", "north"]

instance : Codec GeographicBoundingBox where
  encode x := .record
    (fieldNames.zip [encode x.west, encode x.east, encode x.south, encode x.north])
  decode? v := do
    let [west, east, south, north] ← v.fields? fieldNames | none
    return ⟨← Value.field? west, ← Value.field? east, ← Value.field? south,
      ← Value.field? north⟩

end GeographicBoundingBox

namespace Extent

def fieldNames : List String := ["description", "geographic_bounding_box"]

instance : Codec Extent where
  encode x := .record (fieldNames.zip [encode x.description, encode x.boundingBox])
  decode? v := do
    let [description, boundingBox] ← v.fields? fieldNames | none
    return ⟨← Value.field? description, ← Value.field? boundingBox⟩

end Extent

namespace ObjectDomain

def fieldNames : List String := ["scope", "domain_of_validity"]

instance : Codec ObjectDomain where
  encode x := .record (fieldNames.zip [encode x.scope, encode x.validity])
  decode? v := do
    let [scope, validity] ← v.fields? fieldNames | none
    return ⟨← Value.field? scope, ← Value.field? validity⟩

end ObjectDomain

namespace Config

def fieldNames : List String :=
  ["require_mandatory_attributes", "enforce_forbidden_attributes", "ellipsoid_tolerance"]

/-- Whatever is left out is as in the default configuration. -/
instance : Codec Config where
  encode x := .record (fieldNames.zip
    [encode x.requireMandatory, encode x.enforceForbidden, encode x.ellipsoidTolerance])
  decode? v := do
    let [mandatory, forbidden, tolerance] ← v.leadingFields? fieldNames | none
    let usual : Config := {}
    return ⟨← Value.fieldOr? usual.requireMandatory mandatory,
      ← Value.fieldOr? usual.enforceForbidden forbidden,
      ← Value.fieldOr? usual.ellipsoidTolerance tolerance⟩

end Config
end GeoConformance
