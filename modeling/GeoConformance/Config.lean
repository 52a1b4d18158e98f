/-! How strictly objects are checked. -/
namespace GeoConformance

structure Config where
  /-- Whether the absence of a mandatory attribute fails the validation or is only warned of. -/
  requireMandatory : Bool := true
  /-- Whether the presence of a forbidden attribute fails the validation or is only warned of. -/
  enforceForbidden : Bool := true
  /-- The relative tolerance between the semi-axes and the inverse flattening. -/
  ellipsoidTolerance : Float := 1e-10
  deriving DecidableEq, Repr

namespace Config

def lenient : Config :=
  { requireMandatory := false, enforceForbidden := false }

/-- Both rules of presence enforced, at the same tolerance. -/
def strict (c : Config) : Config :=
  { c with requireMandatory := true, enforceForbidden := true }

end Config
end GeoConformance
