import GeoConformance.CrsRules
import GeoConformance.DatumRules
import GeoConformance.OperationRules
import GeoConformance.ParameterRules
import GeoConformance.SystemRules

/-! Validation of an object together with everything that it refers to. Its checks are those of
its obligations in order, a visited object standing for its own checks in turn; they are run up to
the first failure. -/
namespace GeoConformance
namespace Node

def obligations : Node → List Obligation
  | crs x => x.obligations
  | coordinateSystem x => x.obligations
  | axis x => x.obligations
  | datum x => x.obligations
  | ellipsoid x => x.obligations
  | primeMeridian x => x.obligations
  | parameter x => x.obligations
  | operation x => x.obligations
  | method x => x.obligations

/-- A visited object is a proper part of the one that refers to it. -/
theorem sizeOf_lt_of_visit {m n : Node} (h : .visit m ∈ n.obligations) : sizeOf m < sizeOf n := by
  cases n with
  | crs x =>
    obtain ⟨_, y, hy, rfl⟩ | ⟨s, hs, rfl⟩ | ⟨_, d, hd, rfl⟩ := Crs.visit_mem_obligations.mp h
    all_goals cases x
    · have := List.sizeOf_lt_of_mem hy
      simp_all; omega
    · simp_all; omega
    · simp_all; omega
  | coordinateSystem x =>
    obtain ⟨a, ha, rfl⟩ := CoordinateSystem.visit_mem_obligations.mp h
    have := List.sizeOf_lt_of_mem (CoordinateSystem.mem_listed_of_mem_axes ha)
    cases x
    simp_all; omega
  | axis x => exact absurd h Axis.visit_notMem_obligations
  | datum x =>
    obtain ⟨_, ⟨e, he, rfl⟩ | ⟨p, hp, rfl⟩⟩ := Datum.visit_mem_obligations.mp h
    all_goals cases x; simp_all; omega
  | ellipsoid x => exact absurd h Ellipsoid.visit_notMem_obligations
  | primeMeridian x => exact absurd h PrimeMeridian.visit_notMem_obligations
  | parameter x =>
    obtain ⟨ys, hys, y, hy, rfl⟩ := Parameter.visit_mem_obligations.mp h
    have := List.sizeOf_lt_of_mem hy
    cases x
    simp_all; omega
  | operation x =>
    obtain ⟨_, y, hy, rfl⟩ | ⟨y, hy, rfl⟩ | ⟨y, hy, rfl⟩ | ⟨y, hy, rfl⟩ :=
      Operation.visit_mem_obligations.mp h
    all_goals cases x
    · have := List.sizeOf_lt_of_mem hy
      simp_all; omega
    all_goals simp_all; omega
  | method x =>
    obtain ⟨p, hp, rfl⟩ := OperationMethod.visit_mem_obligations.mp h
    cases x
    simp_all; omega

/-- The checks of an object and of everything that it refers to, in visiting order. -/
def checks (n : Node) : List Check :=
  n.obligations.attach.flatMap fun ⟨obligation, h⟩ =>
    match obligation with
    | .own check | .delegated check => [check]
    | .visit m =>
      have := sizeOf_lt_of_visit h
      m.checks
termination_by sizeOf n

end Node

def Obligation.checks : Obligation → List Check
  | own check | delegated check => [check]
  | visit n => n.checks

theorem Node.checks_eq (n : Node) : n.checks = n.obligations.flatMap (·.checks) := by
  have hm : n.obligations.flatMap (·.checks) =
      (n.obligations.attach.map (·.val)).flatMap (·.checks) := by
    rw [List.attach_map_subtype_val]
  rw [hm, List.flatMap_map, Node.checks]
  congr 1
  funext ⟨o, h⟩
  cases o <;> rfl

namespace Node

/-- Validates an object and everything that it refers to. -/
def validate (c : Config) (n : Node) : Run Unit :=
  Check.runAll c n.checks

end Node

/-- What the validators accept: an object in one of its roles, the attributes that every object
has, or a metadata value. -/
inductive Target
  | node (n : Node)
  | identity (x : Identity)
  | domain (x : ObjectDomain)
  | identifier (x : Identifier)
  | extent (x : Extent)

namespace Target

def checks : Target → List Check
  | node n => n.checks
  | identity x => x.checks
  | domain x => x.checks
  | identifier x => x.checks
  | extent x => x.checks

def validate (c : Config) (t : Target) : Run Unit :=
  Check.runAll c t.checks

end Target

/-- Meets an obligation of the object that a validator with a configuration of its own is in
charge of. -/
def Obligation.run (own shared : Config) : Obligation → Run Unit
  | .own check => check.run own
  | .delegated check => check.run shared
  | .visit n => n.validate shared

namespace Node

/-- Validates an object by a validator with a configuration of its own, which governs the object's
own checks and nothing else. -/
def validateWith (own shared : Config) (n : Node) : Run Unit :=
  forM n.obligations (·.run own shared)

theorem validateWith_self (c : Config) (n : Node) : n.validateWith c c = n.validate c := by
  rw [validateWith, validate, checks_eq]
  induction n.obligations with
  | nil => rfl
  | cons o os ih =>
    have ho : o.run c c = Check.runAll c o.checks := by
      cases o <;> simp [Obligation.run, Obligation.checks, validate]
    simp only [List.forM_cons, List.flatMap_cons, Check.runAll_append, ho, ih]

end Node
end GeoConformance
