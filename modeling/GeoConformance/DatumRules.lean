import GeoConformance.Obligation

/-! Obligations of datums, ellipsoids and prime meridians. A geodetic datum has an ellipsoid and a
prime meridian; no other datum has either. -/
namespace GeoConformance

namespace Ellipsoid

def isPositive (x : Float) : Bool :=
  x.isFinite && 0 < x

/-- The semi-minor axis that the semi-major axis and the inverse flattening give. -/
def expectedSemiMinor (x : Ellipsoid) : Float :=
  x.semiMajor * (1 - 1 / x.inverseFlattening)

/-- The inverse flattening that the semi-axes give. -/
def expectedInverseFlattening (x : Ellipsoid) : Float :=
  x.semiMajor / (x.semiMajor - x.semiMinor)

def axisChecks (x : Ellipsoid) : List Check :=
  [.ensure (isPositive x.semiMajor) (.semiMajorNotPositive x.semiMajor),
    .ensure (isPositive x.semiMinor) (.semiMinorNotPositive x.semiMinor),
    .ensure (x.semiMinor ≤ x.semiMajor) (.semiMinorExceedsMajor x.semiMinor x.semiMajor)]

/-- A sphere has an infinite inverse flattening. Otherwise the one of semi-minor axis and inverse
flattening that defines the shape is taken as given and the other has to agree with it. -/
def flatteningChecks (x : Ellipsoid) : List Check :=
  let flattening := x.inverseFlattening
  if x.isSphere then
    [.ensure (flattening.isInf && 0 < flattening) (.sphereFlattened flattening)]
  else
    .ensure (flattening.isFinite && 1 < flattening) (.inverseFlatteningUnfit flattening) ::
      if x.flatteningDefinitive then
        [.agree x.semiMinor x.expectedSemiMinor
          (.semiMinorInconsistent x.semiMinor flattening x.expectedSemiMinor)]
      else
        [.agree flattening x.expectedInverseFlattening
          (.inverseFlatteningInconsistent flattening x.semiMinor x.expectedInverseFlattening)]

def obligations (x : Ellipsoid) : List Obligation :=
  x.identity.obligations ++
    (.require x.unit .ellipsoidWithoutUnit :: (x.axisChecks ++ x.flatteningChecks)).map .own

@[simp] theorem visit_notMem_obligations {x : Ellipsoid} {n : Node} :
    .visit n ∉ x.obligations := by
  simp [obligations]

end Ellipsoid

def PrimeMeridian.obligations (x : PrimeMeridian) : List Obligation :=
  x.identity.obligations ++
    [.own (.require x.unit .meridianWithoutUnit),
      .own (.ensure (GeographicBoundingBox.isLongitude x.longitude)
        (.meridianOutOfRange x.longitude))]

@[simp] theorem PrimeMeridian.visit_notMem_obligations {x : PrimeMeridian} {n : Node} :
    .visit n ∉ x.obligations := by
  simp [obligations]

def Datum.obligations (x : Datum) : List Obligation :=
  x.identity.obligations ++
    x.anchor.toList.map (fun text => .delegated (.notBlank "Datum: anchor definition" text)) ++
    if x.kind = .geodetic then
      [.own (.require x.ellipsoid .geodeticWithoutEllipsoid),
        .own (.require x.primeMeridian .geodeticWithoutMeridian)] ++
        Obligation.ofOption x.ellipsoid .ellipsoid ++
        Obligation.ofOption x.primeMeridian .primeMeridian
    else
      [.own (.forbid x.ellipsoid .ellipsoidNotGeodetic),
        .own (.forbid x.primeMeridian .meridianNotGeodetic)]

theorem Datum.visit_mem_obligations {x : Datum} {n : Node} :
    .visit n ∈ x.obligations ↔ x.kind = .geodetic ∧
      ((∃ e, x.ellipsoid = some e ∧ n = .ellipsoid e) ∨
        ∃ m, x.primeMeridian = some m ∧ n = .primeMeridian m) := by
  by_cases h : x.kind = .geodetic <;> simp [obligations, h]

end GeoConformance
