import GeoConformance.Obligation

/-! Obligations of operations and of their methods. The kind of an operation decides which of its
attributes are mandatory or forbidden, and how many steps it wraps. -/
namespace GeoConformance

def OperationMethod.obligations (x : OperationMethod) : List Obligation :=
  x.identity.obligations ++
    .own (.require x.formula .methodWithoutFormula) ::
      (x.formula.toList.map (fun text => .delegated (.notBlank "OperationMethod: formula" text)) ++
        Obligation.ofOption x.parameters .parameter)

theorem OperationMethod.visit_mem_obligations {x : OperationMethod} {n : Node} :
    .visit n ∈ x.obligations ↔ ∃ p, x.parameters = some p ∧ n = .parameter p := by
  simp [obligations]

namespace Operation

def stepObligations (x : Operation) : List Obligation :=
  x.steps.map (fun step => .visit (.operation step)) ++
    [.own (.require x.steps (.emptyCollection "step"))]

def kindObligations (x : Operation) : List Obligation :=
  match x.kind with
  | .conversion =>
    [.own (.forbid x.version .conversionWithVersion),
      .own (.require x.method .conversionWithoutMethod)]
  | .transformation =>
    [.own (.require x.source .transformationWithoutSource),
      .own (.require x.target .transformationWithoutTarget),
      .own (.require x.version .transformationWithoutVersion),
      .own (.require x.method .transformationWithoutMethod)]
  | .concatenated =>
    .own (.ensure (2 ≤ x.steps.length) (.tooFewSteps x.steps.length)) :: x.stepObligations
  | .passThrough =>
    .own (.ensure (x.steps.length = 1) (.stepsNotOne x.steps.length)) :: x.stepObligations

def obligations (x : Operation) : List Obligation :=
  x.identity.obligations ++ x.kindObligations ++
    x.version.toList.map
      (fun text => .delegated (.notBlank "CoordinateOperation: operation version" text)) ++
    Obligation.ofOption x.method .method ++ Obligation.ofOption x.source .crs ++
    Obligation.ofOption x.target .crs

/-- Whether an operation of this kind consists of the steps that it wraps. -/
def wrapsSteps (kind : OperationKind) : Prop :=
  kind = .concatenated ∨ kind = .passThrough

theorem visit_mem_obligations {x : Operation} {n : Node} :
    .visit n ∈ x.obligations ↔
      (wrapsSteps x.kind ∧ ∃ y ∈ x.steps, n = .operation y) ∨
        (∃ m, x.method = some m ∧ n = .method m) ∨
        (∃ c, x.source = some c ∧ n = .crs c) ∨ ∃ c, x.target = some c ∧ n = .crs c := by
  cases h : x.kind <;>
    simp [obligations, kindObligations, stepObligations, wrapsSteps, h, eq_comm]

end Operation
end GeoConformance
