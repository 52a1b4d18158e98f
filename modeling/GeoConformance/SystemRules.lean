import GeoConformance.Obligation

/-! Obligations of coordinate systems and of their axes. -/
namespace GeoConformance

namespace Axis

/-- Whether either end of the range of values is finite. -/
def isBounded (x : Axis) : Bool :=
  x.minimum.isFinite || x.maximum.isFinite

def ownChecks (x : Axis) : List Check :=
  [.require x.abbreviation .axisWithoutAbbreviation,
    .require x.direction .axisWithoutDirection,
    .require x.unit .axisWithoutUnit,
    .ensure (x.minimum < x.maximum) (.axisRangeEmpty x.minimum x.maximum)] ++
    if x.isBounded then [.require x.rangeMeaning .axisRangeUnexplained] else []

def obligations (x : Axis) : List Obligation :=
  x.identity.obligations ++ x.ownChecks.map .own

@[simp] theorem visit_notMem_obligations {x : Axis} {n : Node} : .visit n ∉ x.obligations := by
  simp [obligations]

end Axis

namespace CoordinateSystem

/-- The directions of the axes that are present and have one. -/
def directions (x : CoordinateSystem) : List AxisDirection :=
  x.axes.filterMap fun axis => axis.bind (·.direction)

def axisObligations (axis : Option Axis) (index : Nat) : List Obligation :=
  .own (.require axis (.axisMissing index)) :: Obligation.ofOption axis .axis

def obligations (x : CoordinateSystem) : List Obligation :=
  x.identity.obligations ++
    [.own (.ensure (x.kind.dimensions.contains x.dimension)
      (.dimensionUnfit x.kind x.dimension))] ++
    x.axes.zipIdx.flatMap (fun (axis, index) => axisObligations axis index) ++
    if x.kind.perpendicularAxes then [.own (.perpendicular x.directions)] else []

theorem visit_mem_obligations {x : CoordinateSystem} {n : Node} :
    .visit n ∈ x.obligations ↔ ∃ a, some a ∈ x.axes ∧ n = .axis a := by
  have last (b : Bool) (k : Check) : .visit n ∉ if b then [Obligation.own k] else [] := by
    cases b <;> simp
  simp only [obligations, List.mem_append, last, or_false, Identity.visit_notMem_obligations,
    false_or, reduceCtorEq, List.mem_flatMap, axisObligations, List.mem_cons, List.not_mem_nil,
    Obligation.visit_mem_ofOption]
  constructor
  · rintro ⟨p, hp, a, ha, rfl⟩
    exact ⟨a, ha ▸ List.fst_mem_of_mem_zipIdx hp, rfl⟩
  · rintro ⟨a, ha, rfl⟩
    obtain ⟨i, hi⟩ := List.mem_iff_getElem?.mp ha
    exact ⟨(some a, i), List.mem_zipIdx_iff_getElem?.mpr hi, a, rfl, rfl⟩

end CoordinateSystem
end GeoConformance
