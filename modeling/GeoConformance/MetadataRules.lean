import GeoConformance.Check

/-! The checks of metadata, and the checks of what every referencing object has. -/
namespace GeoConformance

def Identifier.checks (x : Identifier) : List Check :=
  .require x.code .identifierWithoutCode ::
    (x.code.toList.map (.notBlank "Identifier: code") ++
      x.codeSpace.toList.map (.notBlank "Identifier: code space"))

namespace GeographicBoundingBox

def isLongitude (x : Float) : Bool :=
  -180 ≤ x && x ≤ 180

def isLatitude (x : Float) : Bool :=
  -90 ≤ x && x ≤ 90

def checks (x : GeographicBoundingBox) : List Check :=
  [.ensure (isLongitude x.west) (.longitudeBound "west" x.west),
    .ensure (isLongitude x.east) (.longitudeBound "east" x.east),
    .ensure (isLatitude x.south) (.latitudeBound "south" x.south),
    .ensure (isLatitude x.north) (.latitudeBound "north" x.north),
    .ensure (x.south ≤ x.north) (.southAboveNorth x.south x.north)]

end GeographicBoundingBox

/-- An extent has a description, a box or both. -/
def Extent.checks (x : Extent) : List Check :=
  .mandatory (x.description.isNone && x.boundingBox.isNone) .emptyExtent ::
    (x.description.toList.map (.notBlank "Extent: description") ++
      x.boundingBox.toList.flatMap (·.checks))

def ObjectDomain.checks (x : ObjectDomain) : List Check :=
  [.require x.scope .domainWithoutScope, .require x.validity .domainWithoutValidity] ++
    x.scope.toList.map (.notBlank "ObjectDomain: scope") ++
    x.validity.toList.flatMap (·.checks)

/-- The checks of any object: a name is mandatory, the other attributes hold when present. -/
def Identity.checks (x : Identity) : List Check :=
  .require x.name .unnamedObject ::
    (x.name.toList.flatMap (·.checks) ++
      Check.forEvery "identifier" x.identifiers false (·.checks) ++
      Check.forEvery "alias" x.aliases false
        (fun text => [.notBlank "IdentifiedObject: alias" text]) ++
      Check.forEvery "domain" x.domains false (·.checks) ++
      x.remarks.toList.map (.notBlank "IdentifiedObject: remarks"))

end GeoConformance
