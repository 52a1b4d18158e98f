import GeoConformance.Casing
import GeoConformance.Obligation

/-! Obligations of coordinate reference systems. A compound one is made of its components; any
other has a coordinate system and a datum of kinds that fit its own. -/
namespace GeoConformance

/-- The well-known names of axes, and the directions that each admits. -/
def knownAxisNames : List (String × List AxisDirection) :=
  [("geodetic latitude", [.north, .south]),
    ("geodetic longitude", [.east, .west]),
    ("ellipsoidal height", [.up, .down]),
    ("geocentric X", [.geocentricX]),
    ("geocentric Y", [.geocentricY]),
    ("geocentric Z", [.geocentricZ])]

namespace Crs

/-- An axis with a well-known name, up to the case of initials, has a direction of that name. -/
def axisNameCheck? (kind : CrsKind) (axis : Axis) : Option Check := do
  let code ← axis.identity.code
  let direction ← axis.direction
  let name := uncapitalizeWords code
  let admitted ← knownAxisNames.lookup name
  return .ensure (admitted.contains direction) (.axisMisdirected kind name direction)

def axisNameChecks (kind : CrsKind) (system : CoordinateSystem) : List Check :=
  system.axes.filterMap fun axis => axis.bind (axisNameCheck? kind)

def systemChecks (kind : CrsKind) (system : CoordinateSystem) : List Check :=
  kind.expectedSystems.toList.map (fun expected =>
    .ensure (expected.contains system.kind) (.systemKindUnfit kind expected system.kind)) ++
    if kind.namesAxes then axisNameChecks kind system else []

def datumChecks (kind : CrsKind) (datum : Datum) : List Check :=
  kind.expectedDatum.toList.map fun expected =>
    .ensure (datum.kind = expected) (.datumKindUnfit kind expected datum.kind)

/-- What ties a system to its parts is a matter of values, not of presence. -/
theorem exists_ensure_of_mem_systemChecks {kind : CrsKind} {system : CoordinateSystem} {k : Check}
    (h : k ∈ systemChecks kind system) : ∃ holds violation, k = .ensure holds violation := by
  obtain h | h := List.mem_append.mp h
  · obtain ⟨expected, -, rfl⟩ := List.mem_map.mp h
    exact ⟨_, _, rfl⟩
  · split at h
    · obtain ⟨a, -, ha⟩ := List.mem_filterMap.mp h
      obtain ⟨axis, -, hk⟩ := Option.bind_eq_some_iff.mp ha
      simp only [axisNameCheck?, bind, pure, Option.bind_eq_some_iff, Option.some.injEq] at hk
      obtain ⟨code, -, direction, -, admitted, -, rfl⟩ := hk
      exact ⟨_, _, rfl⟩
    · cases h

theorem exists_ensure_of_mem_datumChecks {kind : CrsKind} {datum : Datum} {k : Check}
    (h : k ∈ datumChecks kind datum) : ∃ holds violation, k = .ensure holds violation := by
  obtain ⟨expected, -, rfl⟩ := List.mem_map.mp h
  exact ⟨_, _, rfl⟩

def systemObligations (kind : CrsKind) (system : CoordinateSystem) : List Obligation :=
  .visit (.coordinateSystem system) :: (systemChecks kind system).map .own

def datumObligations (kind : CrsKind) (datum : Datum) : List Obligation :=
  .visit (.datum datum) :: (datumChecks kind datum).map .own

def singleObligations (x : Crs) : List Obligation :=
  [.own (.require x.coordinateSystem .crsWithoutCoordinateSystem),
    .own (.require x.datum .crsWithoutDatum)] ++
    x.coordinateSystem.toList.flatMap (systemObligations x.kind) ++
    x.datum.toList.flatMap (datumObligations x.kind)

def compoundObligations (x : Crs) : List Obligation :=
  .own (.ensure (2 ≤ x.components.length) (.tooFewComponents x.components.length)) ::
    (x.components.map (fun component => .visit (.crs component)) ++
      Obligation.ofOption x.coordinateSystem .coordinateSystem)

def obligations (x : Crs) : List Obligation :=
  x.identity.obligations ++
    if x.kind = .compound then x.compoundObligations else x.singleObligations

theorem visit_mem_obligations {x : Crs} {n : Node} :
    .visit n ∈ x.obligations ↔
      (x.kind = .compound ∧ ∃ y ∈ x.components, n = .crs y) ∨
        (∃ s, x.coordinateSystem = some s ∧ n = .coordinateSystem s) ∨
        (x.kind ≠ .compound ∧ ∃ d, x.datum = some d ∧ n = .datum d) := by
  by_cases h : x.kind = .compound <;>
    simp [obligations, compoundObligations, singleObligations, systemObligations,
      datumObligations, h, eq_comm]

end Crs
end GeoConformance
