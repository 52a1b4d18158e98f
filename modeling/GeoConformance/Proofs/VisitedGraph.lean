import Mathlib.Logic.Relation
import GeoConformance.Proofs.ObjectConformity
import GeoConformance.Proofs.RunLaws

/-! The graph that a validation visits. An object is accepted exactly when it conforms on its own
and the objects that it refers to are accepted, and so exactly when every object reached from it
conforms on its own. -/
namespace GeoConformance

theorem CoordinateSystem.mem_axes_iff {x : CoordinateSystem} {a : Axis} :
    some a ∈ x.axes ↔ ∃ i, i < x.dimension ∧ x.axis? i = some a := by
  simp [axes]

theorem Obligation.run_succeeds_iff {c : Config} {o : Obligation} : (o.run c c).succeeds = true ↔
    o.MetAlone c ∧ ∀ n, o = .visit n → (n.validate c).succeeds = true := by
  cases o with
  | own k => simp [run, Check.passes]
  | delegated k => simp [run, Check.passes]
  | visit n => simp [run]

namespace Node

/-- The references that a validation follows, one step at a time. -/
inductive Refers : Node → Node → Prop
  | component {x y : Crs} : x.kind = .compound → y ∈ x.components → Refers (.crs x) (.crs y)
  | system {x : Crs} {s : CoordinateSystem} :
      x.coordinateSystem = some s → Refers (.crs x) (.coordinateSystem s)
  | datum {x : Crs} {d : Datum} :
      x.kind ≠ .compound → x.datum = some d → Refers (.crs x) (.datum d)
  | axis {x : CoordinateSystem} {i : Nat} {a : Axis} :
      i < x.dimension → x.axis? i = some a → Refers (.coordinateSystem x) (.axis a)
  | ellipsoid {x : Datum} {e : Ellipsoid} :
      x.kind = .geodetic → x.ellipsoid = some e → Refers (.datum x) (.ellipsoid e)
  | primeMeridian {x : Datum} {m : PrimeMeridian} :
      x.kind = .geodetic → x.primeMeridian = some m → Refers (.datum x) (.primeMeridian m)
  | step {x y : Operation} :
      x.kind = .concatenated ∨ x.kind = .passThrough → y ∈ x.steps →
      Refers (.operation x) (.operation y)
  | method {x : Operation} {m : OperationMethod} :
      x.method = some m → Refers (.operation x) (.method m)
  | source {x : Operation} {y : Crs} : x.source = some y → Refers (.operation x) (.crs y)
  | target {x : Operation} {y : Crs} : x.target = some y → Refers (.operation x) (.crs y)
  | parameters {x : OperationMethod} {p : Parameter} :
      x.parameters = some p → Refers (.method x) (.parameter p)
  | member {x y : Parameter} {ys : List Parameter} :
      x.descriptors = some ys → y ∈ ys → Refers (.parameter x) (.parameter y)

/-- The objects that a validation comes to, the one that it starts with included. -/
def Reaches : Node → Node → Prop :=
  Relation.ReflTransGen Refers

/-- The visits among the obligations of an object are its references. -/
theorem visit_mem_obligations_iff {n m : Node} : .visit m ∈ n.obligations ↔ n.Refers m := by
  constructor
  · intro h
    cases n with
    | crs x =>
      rcases Crs.visit_mem_obligations.mp h with
        ⟨hk, y, hy, rfl⟩ | ⟨s, hs, rfl⟩ | ⟨hk, d, hd, rfl⟩
      · exact .component hk hy
      · exact .system hs
      · exact .datum hk hd
    | coordinateSystem x =>
      rcases CoordinateSystem.visit_mem_obligations.mp h with ⟨a, ha, rfl⟩
      obtain ⟨i, hi, hx⟩ := CoordinateSystem.mem_axes_iff.mp ha
      exact .axis hi hx
    | axis x => exact absurd h Axis.visit_notMem_obligations
    | datum x =>
      rcases Datum.visit_mem_obligations.mp h with ⟨hk, ⟨e, he, rfl⟩ | ⟨p, hp, rfl⟩⟩
      · exact .ellipsoid hk he
      · exact .primeMeridian hk hp
    | ellipsoid x => exact absurd h Ellipsoid.visit_notMem_obligations
    | primeMeridian x => exact absurd h PrimeMeridian.visit_notMem_obligations
    | parameter x =>
      rcases Parameter.visit_mem_obligations.mp h with ⟨ys, hys, y, hy, rfl⟩
      exact .member hys hy
    | operation x =>
      rcases Operation.visit_mem_obligations.mp h with
        ⟨hk, y, hy, rfl⟩ | ⟨y, hy, rfl⟩ | ⟨y, hy, rfl⟩ | ⟨y, hy, rfl⟩
      · exact .step hk hy
      · exact .method hy
      · exact .source hy
      · exact .target hy
    | method x =>
      rcases OperationMethod.visit_mem_obligations.mp h with ⟨p, hp, rfl⟩
      exact .parameters hp
  · intro h
    cases h with
    | component hk hy => exact Crs.visit_mem_obligations.mpr (.inl ⟨hk, _, hy, rfl⟩)
    | system hs => exact Crs.visit_mem_obligations.mpr (.inr (.inl ⟨_, hs, rfl⟩))
    | datum hk hd => exact Crs.visit_mem_obligations.mpr (.inr (.inr ⟨hk, _, hd, rfl⟩))
    | axis hi hx =>
      have ha := CoordinateSystem.mem_axes_iff.mpr ⟨_, hi, hx⟩
      exact CoordinateSystem.visit_mem_obligations.mpr ⟨_, ha, rfl⟩
    | ellipsoid hk he => exact Datum.visit_mem_obligations.mpr ⟨hk, .inl ⟨_, he, rfl⟩⟩
    | primeMeridian hk hp => exact Datum.visit_mem_obligations.mpr ⟨hk, .inr ⟨_, hp, rfl⟩⟩
    | step hk hy => exact Operation.visit_mem_obligations.mpr (.inl ⟨hk, _, hy, rfl⟩)
    | method hm => exact Operation.visit_mem_obligations.mpr (.inr (.inl ⟨_, hm, rfl⟩))
    | source hy => exact Operation.visit_mem_obligations.mpr (.inr (.inr (.inl ⟨_, hy, rfl⟩)))
    | target hy => exact Operation.visit_mem_obligations.mpr (.inr (.inr (.inr ⟨_, hy, rfl⟩)))
    | parameters hp => exact OperationMethod.visit_mem_obligations.mpr ⟨_, hp, rfl⟩
    | member hys hy => exact Parameter.visit_mem_obligations.mpr ⟨_, hys, _, hy, rfl⟩

theorem sizeOf_lt_of_refers {n m : Node} (h : n.Refers m) : sizeOf m < sizeOf n :=
  sizeOf_lt_of_visit (visit_mem_obligations_iff.mpr h)

theorem exists_reaches_of_mem_checks {n : Node} {k : Check} (h : k ∈ n.checks) :
    ∃ m, n.Reaches m ∧ (.own k ∈ m.obligations ∨ .delegated k ∈ m.obligations) := by
  rw [checks_eq] at h
  obtain ⟨o, ho, hk⟩ := List.mem_flatMap.mp h
  cases o with
  | own l =>
    obtain rfl : k = l := List.mem_singleton.mp hk
    exact ⟨n, .refl, .inl ho⟩
  | delegated l =>
    obtain rfl : k = l := List.mem_singleton.mp hk
    exact ⟨n, .refl, .inr ho⟩
  | visit m =>
    have hm : n.Refers m := visit_mem_obligations_iff.mp ho
    have := sizeOf_lt_of_refers hm
    obtain ⟨m', hreach, hmem⟩ := exists_reaches_of_mem_checks hk
    exact ⟨m', .head hm hreach, hmem⟩
termination_by sizeOf n

/-- One step: acceptance of an object is its own conformity and the acceptance of what it refers
to. -/
theorem validate_succeeds_iff_refers {c : Config} {n : Node} :
    (n.validate c).succeeds = true ↔
      n.Conforms c ∧ ∀ m, n.Refers m → (m.validate c).succeeds = true := by
  rw [← validateWith_self, validateWith, Run.forM_succeeds_iff, ← obligations_met_iff]
  simp only [Obligation.run_succeeds_iff]
  constructor
  · intro h
    refine ⟨fun o ho => (h o ho).1, fun m hm => ?_⟩
    exact (h _ (visit_mem_obligations_iff.mpr hm)).2 m rfl
  · rintro ⟨halone, hvisits⟩ o ho
    refine ⟨halone o ho, ?_⟩
    rintro m rfl
    exact hvisits m (visit_mem_obligations_iff.mp ho)

theorem validate_succeeds_of_reaches {c : Config} {n m : Node} (hm : n.Reaches m)
    (h : (n.validate c).succeeds = true) : (m.validate c).succeeds = true := by
  induction hm with
  | refl => exact h
  | tail _ hstep ih => exact (validate_succeeds_iff_refers.mp ih).2 _ hstep

theorem conforms_of_reaches {c : Config} {n m : Node} (hm : n.Reaches m)
    (h : (n.validate c).succeeds = true) : m.Conforms c := by
  have haccepted : (m.validate c).succeeds = true := validate_succeeds_of_reaches hm h
  exact (validate_succeeds_iff_refers.mp haccepted).1

/-- A whole visit, by induction on the size of the object: its references are smaller. -/
theorem validate_succeeds_of_conforms {c : Config} (n : Node)
    (h : ∀ m, n.Reaches m → m.Conforms c) : (n.validate c).succeeds = true := by
  apply validate_succeeds_iff_refers.mpr
  refine ⟨h n .refl, fun m hm => ?_⟩
  have := sizeOf_lt_of_refers hm
  exact validate_succeeds_of_conforms m fun k hk => h k (.head hm hk)
termination_by sizeOf n

end Node

/-- Acceptance is hereditary and complete: an object is accepted in a role exactly when every
object that the validation comes to conforms on its own. The attributes of any object and metadata
values refer to nothing, and are accepted exactly when they conform. -/
theorem validate_succeeds_iff_reached_conform (c : Config) :
    (∀ n : Node, ((Target.node n).validate c).succeeds = true ↔
      ∀ m, n.Reaches m → m.Conforms c) ∧
    (∀ x : Identity, ((Target.identity x).validate c).succeeds = true ↔ x.Conforms c) ∧
    (∀ x : ObjectDomain, ((Target.domain x).validate c).succeeds = true ↔ x.Conforms c) ∧
    (∀ x : Identifier, ((Target.identifier x).validate c).succeeds = true ↔ x.Conforms c) ∧
    ∀ x : Extent, ((Target.extent x).validate c).succeeds = true ↔ x.Conforms c := by
  refine ⟨fun n => ⟨?_, n.validate_succeeds_of_conforms⟩, ?_, ?_, ?_, ?_⟩
  · exact fun h m hm => Node.conforms_of_reaches hm h
  · exact fun x => Check.runAll_succeeds.trans Identity.checks_pass_iff
  · exact fun x => Check.runAll_succeeds.trans ObjectDomain.checks_pass_iff
  · exact fun x => Check.runAll_succeeds.trans Identifier.checks_pass_iff
  · exact fun x => Check.runAll_succeeds.trans Extent.checks_pass_iff

end GeoConformance
