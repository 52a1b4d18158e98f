import GeoConformance.MetadataRules

/-! Obligations: what validating an object consists of, in order. Its own checks are judged by the
configuration of the validator in charge of it. The checks of any object and of texts are
delegated, and the objects that it refers to are visited, under the shared configuration. -/
namespace GeoConformance

/-- A referencing object in one of its roles. -/
inductive Node
  | crs (x : Crs)
  | coordinateSystem (x : CoordinateSystem)
  | axis (x : Axis)
  | datum (x : Datum)
  | ellipsoid (x : Ellipsoid)
  | primeMeridian (x : PrimeMeridian)
  | parameter (x : Parameter)
  | operation (x : Operation)
  | method (x : OperationMethod)

namespace Node

def role : Node → Role
  | crs _ => .coordinateReferenceSystem
  | coordinateSystem _ => .coordinateSystem
  | axis _ => .coordinateSystemAxis
  | datum _ => .datum
  | ellipsoid _ => .ellipsoid
  | primeMeridian _ => .primeMeridian
  | parameter _ => .parameterDescriptor
  | operation _ => .coordinateOperation
  | method _ => .operationMethod

def identity : Node → Identity
  | crs x => x.identity
  | coordinateSystem x => x.identity
  | axis x => x.identity
  | datum x => x.identity
  | ellipsoid x => x.identity
  | primeMeridian x => x.identity
  | parameter x => x.identity
  | operation x => x.identity
  | method x => x.identity

end Node

inductive Obligation
  | own (check : Check)
  | delegated (check : Check)
  | visit (node : Node)

def Identity.obligations (x : Identity) : List Obligation :=
  x.checks.map .delegated

@[simp] theorem Identity.visit_notMem_obligations {x : Identity} {n : Node} :
    .visit n ∉ x.obligations := by
  simp [obligations]

namespace Obligation

/-- The obligation, if there is one, of a value that may be absent. -/
def ofOption {α : Type} (x : Option α) (node : α → Node) : List Obligation :=
  x.toList.map fun a => visit (node a)

@[simp] theorem visit_mem_ofOption {α : Type} {x : Option α} {f : α → Node} {n : Node} :
    visit n ∈ ofOption x f ↔ ∃ a, x = some a ∧ n = f a := by
  simp [ofOption, eq_comm]

end Obligation
end GeoConformance
