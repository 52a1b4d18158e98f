import GeoConformance.Proofs.MetadataConformity
import GeoConformance.Validation

/-! What an object has to be like in each of its roles, the objects that it refers to aside, for
its validation to pass: the attributes that any object has, the presence and the values of its own,
and its agreement with the objects directly attached to it. -/
namespace GeoConformance
namespace Obligation

variable {c : Config}

/-- Whether an obligation is met, a visited object being left to its own validation. -/
def MetAlone (c : Config) : Obligation → Prop
  | own check | delegated check => check.passes c = true
  | visit _ => True

@[simp] theorem metAlone_own {k : Check} : (own k).MetAlone c ↔ k.passes c = true := Iff.rfl
@[simp] theorem metAlone_delegated {k : Check} :
    (delegated k).MetAlone c ↔ k.passes c = true := Iff.rfl
@[simp] theorem metAlone_visit {n : Node} : (visit n).MetAlone c := trivial

theorem forall_own {ks : List Check} :
    (∀ o ∈ ks.map own, o.MetAlone c) ↔ ∀ k ∈ ks, k.passes c = true := by
  simp

@[simp] theorem forall_ofOption {α : Type} {x : Option α} {f : α → Node} :
    (∀ o ∈ ofOption x f, o.MetAlone c) ↔ True := by
  cases x <;> simp [ofOption]

theorem forall_optional_text {x : Option String} {property : String} :
    (∀ o ∈ x.toList.map fun text => delegated (.notBlank property text), o.MetAlone c) ↔
      ∀ t ∈ x, NotBlank t := by
  cases x <;> simp

end Obligation

theorem Identity.obligations_met_iff {c : Config} {x : Identity} :
    (∀ o ∈ x.obligations, o.MetAlone c) ↔ x.Conforms c := by
  rw [← checks_pass_iff]
  simp [obligations]

structure Axis.Conforms (c : Config) (x : Axis) : Prop where
  identity : x.identity.Conforms c
  abbreviation : c.requireMandatory = true → x.abbreviation.isSome = true
  direction : c.requireMandatory = true → x.direction.isSome = true
  unit : c.requireMandatory = true → x.unit.isSome = true
  range : x.minimum < x.maximum
  rangeMeaning : x.minimum.isFinite = true ∨ x.maximum.isFinite = true →
    c.requireMandatory = true → x.rangeMeaning.isSome = true

theorem Axis.obligations_met_iff {c : Config} {x : Axis} :
    (∀ o ∈ x.obligations, o.MetAlone c) ↔ x.Conforms c := by
  have hb : (∀ k ∈ (if x.isBounded then [Check.require x.rangeMeaning .axisRangeUnexplained]
        else []), k.passes c = true) ↔ (x.minimum.isFinite = true ∨ x.maximum.isFinite = true →
      c.requireMandatory = true → x.rangeMeaning.isSome = true) := by
    rw [← Bool.or_eq_true, ← isBounded]
    cases x.isBounded <;> simp
  simp only [obligations, ownChecks, List.forall_mem_append, Identity.obligations_met_iff,
    Obligation.forall_own, List.forall_mem_cons, Check.passes_require_option,
    Check.passes_ensure, decide_eq_true_eq, hb, List.not_mem_nil, false_implies, implies_true,
    and_true]
  constructor
  · rintro ⟨identity, ⟨abbreviation, direction, unit, range⟩, rangeMeaning⟩
    exact ⟨identity, abbreviation, direction, unit, range, rangeMeaning⟩
  · intro h
    exact ⟨h.identity, ⟨h.abbreviation, h.direction, h.unit, h.range⟩, h.rangeMeaning⟩

def CoordinateSystemKind.AdmitsDimension (kind : CoordinateSystemKind) (dimension : Nat) : Prop :=
  match kind with
  | .linear | .parametric | .temporal | .vertical => dimension = 1
  | .polar => dimension = 2
  | .affine | .cartesian | .ellipsoidal | .spherical => dimension = 2 ∨ dimension = 3
  | .cylindrical => dimension = 3
  | .other => 1 ≤ dimension

structure CoordinateSystem.Conforms (c : Config) (x : CoordinateSystem) : Prop where
  identity : x.identity.Conforms c
  dimension : x.kind.AdmitsDimension x.dimension
  axes : c.requireMandatory = true → ∀ i < x.dimension, (x.axis? i).isSome = true
  perpendicular : x.kind = .cartesian ∨ x.kind = .ellipsoidal →
    checkPerpendicular ((List.range x.dimension).filterMap fun i =>
      (x.axis? i).bind (·.direction)) = .ok ()

theorem DimensionRange.contains_iff {r : DimensionRange} {n : Nat} :
    r.contains n = true ↔ r.first ≤ n ∧ ∀ last ∈ r.last, n ≤ last := by
  cases h : r.last <;> simp [contains, h]

theorem CoordinateSystemKind.contains_dimensions_iff {k : CoordinateSystemKind} {n : Nat} :
    k.dimensions.contains n = true ↔ k.AdmitsDimension n := by
  rw [DimensionRange.contains_iff]
  cases k <;> simp [dimensions, AdmitsDimension] <;> omega

theorem CoordinateSystemKind.perpendicularAxes_iff {k : CoordinateSystemKind} :
    k.perpendicularAxes = true ↔ k = .cartesian ∨ k = .ellipsoidal := by
  cases k <;> decide

theorem CoordinateSystem.directions_eq (x : CoordinateSystem) : x.directions =
    (List.range x.dimension).filterMap fun i => (x.axis? i).bind (·.direction) := by
  rw [directions, axes, List.filterMap_map]
  rfl

theorem CoordinateSystem.axes_met_iff {c : Config} {x : CoordinateSystem} :
    (∀ o ∈ x.axes.zipIdx.flatMap (fun (axis, index) => axisObligations axis index),
        o.MetAlone c) ↔
      (c.requireMandatory = true → ∀ i < x.dimension, (x.axis? i).isSome = true) := by
  have hone (a : Option Axis) (i : Nat) : (∀ o ∈ axisObligations a i, o.MetAlone c) ↔
      (c.requireMandatory = true → a.isSome = true) := by
    simp only [axisObligations, List.forall_mem_cons, Obligation.metAlone_own,
      Check.passes_require_option, Obligation.forall_ofOption, and_true]
  simp only [zipIdx_axes, List.flatMap_map]
  constructor
  · intro h hc i hi
    have hat : ∀ o ∈ axisObligations (x.axis? i) i, o.MetAlone c := fun o ho =>
      h o (List.mem_flatMap.mpr ⟨i, List.mem_range.mpr hi, ho⟩)
    exact (hone (x.axis? i) i).mp hat hc
  · intro h o ho
    obtain ⟨i, hi, ho⟩ := List.mem_flatMap.mp ho
    exact (hone (x.axis? i) i).mpr (fun hc => h hc i (List.mem_range.mp hi)) o ho

theorem CoordinateSystem.obligations_met_iff {c : Config} {x : CoordinateSystem} :
    (∀ o ∈ x.obligations, o.MetAlone c) ↔ x.Conforms c := by
  have hp : (∀ o ∈ (if x.kind.perpendicularAxes then [Obligation.own (.perpendicular x.directions)]
        else []), o.MetAlone c) ↔ (x.kind = .cartesian ∨ x.kind = .ellipsoidal →
      checkPerpendicular ((List.range x.dimension).filterMap fun i =>
        (x.axis? i).bind (·.direction)) = .ok ()) := by
    rw [← CoordinateSystemKind.perpendicularAxes_iff, ← directions_eq]
    cases x.kind.perpendicularAxes <;> simp
  simp only [obligations, List.forall_mem_append, Identity.obligations_met_iff, axes_met_iff, hp,
    List.forall_mem_cons, Obligation.metAlone_own, Check.passes_ensure,
    CoordinateSystemKind.contains_dimensions_iff, List.not_mem_nil, false_implies, implies_true,
    and_true]
  constructor
  · rintro ⟨⟨⟨identity, dimension⟩, axes⟩, perpendicular⟩
    exact ⟨identity, dimension, axes, perpendicular⟩
  · intro h
    exact ⟨⟨⟨h.identity, h.dimension⟩, h.axes⟩, h.perpendicular⟩

structure Ellipsoid.Conforms (c : Config) (x : Ellipsoid) : Prop where
  identity : x.identity.Conforms c
  unit : c.requireMandatory = true → x.unit.isSome = true
  semiMajor : x.semiMajor.isFinite = true ∧ 0 < x.semiMajor
  semiMinor : x.semiMinor.isFinite = true ∧ 0 < x.semiMinor
  ordered : x.semiMinor ≤ x.semiMajor
  sphere : x.isSphere = true → x.inverseFlattening.isInf = true ∧ 0 < x.inverseFlattening
  flattened : x.isSphere = false → x.inverseFlattening.isFinite = true ∧ 1 < x.inverseFlattening
  definitive : x.isSphere = false → x.flatteningDefinitive = true →
    agreeWithin c.ellipsoidTolerance x.semiMinor
      (x.semiMajor * (1 - 1 / x.inverseFlattening)) = true
  derived : x.isSphere = false → x.flatteningDefinitive = false →
    agreeWithin c.ellipsoidTolerance x.inverseFlattening
      (x.semiMajor / (x.semiMajor - x.semiMinor)) = true

theorem Ellipsoid.flatteningChecks_pass_iff {c : Config} {x : Ellipsoid} :
    (∀ k ∈ x.flatteningChecks, k.passes c = true) ↔
      (x.isSphere = true → x.inverseFlattening.isInf = true ∧ 0 < x.inverseFlattening) ∧
      (x.isSphere = false → x.inverseFlattening.isFinite = true ∧ 1 < x.inverseFlattening) ∧
      (x.isSphere = false → x.flatteningDefinitive = true →
        agreeWithin c.ellipsoidTolerance x.semiMinor
          (x.semiMajor * (1 - 1 / x.inverseFlattening)) = true) ∧
      (x.isSphere = false → x.flatteningDefinitive = false →
        agreeWithin c.ellipsoidTolerance x.inverseFlattening
          (x.semiMajor / (x.semiMajor - x.semiMinor)) = true) := by
  cases hs : x.isSphere <;> cases hd : x.flatteningDefinitive <;>
    simp [flatteningChecks, expectedSemiMinor, expectedInverseFlattening, hs, hd]

theorem Ellipsoid.obligations_met_iff {c : Config} {x : Ellipsoid} :
    (∀ o ∈ x.obligations, o.MetAlone c) ↔ x.Conforms c := by
  simp only [obligations, axisChecks, isPositive, List.forall_mem_append,
    Identity.obligations_met_iff, Obligation.forall_own, List.forall_mem_cons,
    Check.passes_require_option, Check.passes_ensure, flatteningChecks_pass_iff,
    Bool.and_eq_true, decide_eq_true_eq, List.not_mem_nil, false_implies, implies_true, and_true]
  constructor
  · rintro ⟨identity, unit, ⟨semiMajor, semiMinor, ordered⟩, sphere, flattened, definitive, derived⟩
    exact ⟨identity, unit, semiMajor, semiMinor, ordered, sphere, flattened, definitive, derived⟩
  · intro h
    exact ⟨h.identity, h.unit, ⟨h.semiMajor, h.semiMinor, h.ordered⟩, h.sphere, h.flattened,
      h.definitive, h.derived⟩

structure PrimeMeridian.Conforms (c : Config) (x : PrimeMeridian) : Prop where
  identity : x.identity.Conforms c
  unit : c.requireMandatory = true → x.unit.isSome = true
  longitude : -180 ≤ x.longitude ∧ x.longitude ≤ 180

theorem PrimeMeridian.obligations_met_iff {c : Config} {x : PrimeMeridian} :
    (∀ o ∈ x.obligations, o.MetAlone c) ↔ x.Conforms c := by
  simp only [obligations, List.forall_mem_append, Identity.obligations_met_iff,
    List.forall_mem_cons, Obligation.metAlone_own, Check.passes_require_option,
    Check.passes_ensure, GeographicBoundingBox.isLongitude, Bool.and_eq_true, decide_eq_true_eq,
    List.not_mem_nil, false_implies, implies_true, and_true]
  constructor
  · rintro ⟨identity, unit, longitude⟩
    exact ⟨identity, unit, longitude⟩
  · intro h
    exact ⟨h.identity, h.unit, h.longitude⟩

structure Datum.Conforms (c : Config) (x : Datum) : Prop where
  identity : x.identity.Conforms c
  anchorText : ∀ t ∈ x.anchor, NotBlank t
  geodetic : x.kind = .geodetic → c.requireMandatory = true →
    x.ellipsoid.isSome = true ∧ x.primeMeridian.isSome = true
  otherKind : x.kind ≠ .geodetic → c.enforceForbidden = true →
    x.ellipsoid = none ∧ x.primeMeridian = none

theorem Datum.obligations_met_iff {c : Config} {x : Datum} :
    (∀ o ∈ x.obligations, o.MetAlone c) ↔ x.Conforms c := by
  simp only [obligations, List.forall_mem_append, Identity.obligations_met_iff,
    Obligation.forall_optional_text]
  by_cases hk : x.kind = .geodetic
  · simp only [hk, if_true, List.forall_mem_append, List.forall_mem_cons,
      Obligation.metAlone_own, Check.passes_require_option, Obligation.forall_ofOption,
      List.not_mem_nil, false_implies, implies_true, and_true]
    constructor
    · rintro ⟨⟨identity, anchorText⟩, ellipsoid, primeMeridian⟩
      exact ⟨identity, anchorText, fun _ hc => ⟨ellipsoid hc, primeMeridian hc⟩,
        fun hn => absurd hk hn⟩
    · intro h
      exact ⟨⟨h.identity, h.anchorText⟩, fun hc => (h.geodetic hk hc).1,
        fun hc => (h.geodetic hk hc).2⟩
  · simp only [hk, if_false, List.forall_mem_cons, Obligation.metAlone_own,
      Check.passes_forbid_option, List.not_mem_nil, false_implies, implies_true, and_true]
    constructor
    · rintro ⟨⟨identity, anchorText⟩, ellipsoid, primeMeridian⟩
      exact ⟨identity, anchorText, fun hg => absurd hg hk,
        fun _ hc => ⟨ellipsoid hc, primeMeridian hc⟩⟩
    · intro h
      exact ⟨⟨h.identity, h.anchorText⟩, fun hc => (h.otherKind hk hc).1,
        fun hc => (h.otherKind hk hc).2⟩

structure Parameter.Conforms (c : Config) (x : Parameter) : Prop where
  identity : x.identity.Conforms c
  occurs : x.minimumOccurs ≤ x.maximumOccurs
  distinct : ∀ ys ∈ x.descriptors,
    (ys.filterMap fun y => (y.identity.name.bind (·.code)).map lowercaseText).Nodup

/-- The members after those with the names `seen` are told apart from them and from each other. -/
theorem Parameter.memberObligations_met_iff {c : Config} {seen : List String}
    {ys : List Parameter} :
    (∀ o ∈ memberObligations seen ys, o.MetAlone c) ↔
      (ys.filterMap (·.key)).Nodup ∧ ∀ key ∈ ys.filterMap (·.key), key ∉ seen := by
  induction ys generalizing seen with
  | nil => simp [memberObligations]
  | cons y ys ih =>
    cases hy : y.identity.code with
    | none =>
      have hk : y.key = none := by simp [key, hy]
      simp [memberObligations, hy, hk, ih]
    | some code =>
      have hk : y.key = some (lowercaseText code) := by simp [key, hy]
      simp only [memberObligations, hy, List.forall_mem_cons, Obligation.metAlone_visit,
        Obligation.metAlone_own, Check.passes_ensure, ih, List.filterMap_cons_some hk,
        List.nodup_cons, Bool.not_eq_true', List.contains_eq_mem, decide_eq_false_iff_not,
        true_and]
      constructor
      · rintro ⟨hseen, hnodup, hrest⟩
        exact ⟨⟨fun hm => List.ne_of_not_mem_cons (hrest _ hm) rfl, hnodup⟩, hseen,
          fun k hm => List.not_mem_of_not_mem_cons (hrest k hm)⟩
      · rintro ⟨⟨hfresh, hnodup⟩, hseen, hrest⟩
        refine ⟨hseen, hnodup, fun k hm => ?_⟩
        have hne : k ≠ lowercaseText code := fun hk => hfresh (hk ▸ hm)
        exact List.not_mem_cons_of_ne_of_not_mem hne (hrest k hm)

theorem Parameter.obligations_met_iff {c : Config} {x : Parameter} :
    (∀ o ∈ x.obligations, o.MetAlone c) ↔ x.Conforms c := by
  have hd : ((x.descriptors.getD []).filterMap (·.key)).Nodup ↔
      ∀ ys ∈ x.descriptors, (ys.filterMap (·.key)).Nodup := by
    cases x.descriptors <;> simp
  simp only [obligations, List.forall_mem_append, Identity.obligations_met_iff,
    List.forall_mem_cons, Obligation.metAlone_own, Check.passes_ensure, decide_eq_true_eq,
    memberObligations_met_iff, hd, List.not_mem_nil, not_false_eq_true, false_implies,
    implies_true, and_true]
  constructor
  · rintro ⟨⟨identity, occurs⟩, distinct⟩
    exact ⟨identity, occurs, distinct⟩
  · intro h
    exact ⟨⟨h.identity, h.occurs⟩, h.distinct⟩

structure OperationMethod.Conforms (c : Config) (x : OperationMethod) : Prop where
  identity : x.identity.Conforms c
  formula : c.requireMandatory = true → x.formula.isSome = true
  formulaText : ∀ t ∈ x.formula, NotBlank t

theorem OperationMethod.obligations_met_iff {c : Config} {x : OperationMethod} :
    (∀ o ∈ x.obligations, o.MetAlone c) ↔ x.Conforms c := by
  simp only [obligations, List.forall_mem_append, List.forall_mem_cons,
    Identity.obligations_met_iff, Obligation.metAlone_own, Check.passes_require_option,
    Obligation.forall_optional_text, Obligation.forall_ofOption, and_true]
  constructor
  · rintro ⟨identity, formula, formulaText⟩
    exact ⟨identity, formula, formulaText⟩
  · intro h
    exact ⟨h.identity, h.formula, h.formulaText⟩

structure Operation.Conforms (c : Config) (x : Operation) : Prop where
  identity : x.identity.Conforms c
  conversion : x.kind = .conversion →
    (c.enforceForbidden = true → x.version = none) ∧
    (c.requireMandatory = true → x.method.isSome = true)
  transformation : x.kind = .transformation → c.requireMandatory = true →
    x.source.isSome = true ∧ x.target.isSome = true ∧ x.version.isSome = true ∧
      x.method.isSome = true
  concatenated : x.kind = .concatenated → 2 ≤ x.steps.length
  passThrough : x.kind = .passThrough → x.steps.length = 1
  versionText : ∀ t ∈ x.version, NotBlank t

/-- The number of steps is checked before the steps, so that there is always one to be found. -/
theorem Operation.stepObligations_met {c : Config} {x : Operation} (h : x.steps ≠ []) :
    ∀ o ∈ x.stepObligations, o.MetAlone c := by
  simp only [stepObligations, List.forall_mem_append, List.forall_mem_map,
    Obligation.metAlone_visit, List.forall_mem_cons, Obligation.metAlone_own,
    Check.passes_require_list]
  exact ⟨fun _ _ => trivial, fun _ => h, by simp⟩

theorem Operation.kindObligations_met_iff {c : Config} {x : Operation} :
    (∀ o ∈ x.kindObligations, o.MetAlone c) ↔
      (x.kind = .conversion → (c.enforceForbidden = true → x.version = none) ∧
        (c.requireMandatory = true → x.method.isSome = true)) ∧
      (x.kind = .transformation → c.requireMandatory = true →
        x.source.isSome = true ∧ x.target.isSome = true ∧ x.version.isSome = true ∧
          x.method.isSome = true) ∧
      (x.kind = .concatenated → 2 ≤ x.steps.length) ∧
      (x.kind = .passThrough → x.steps.length = 1) := by
  cases hk : x.kind with
  | conversion => simp [kindObligations, hk]
  | transformation =>
    simp only [kindObligations, hk, List.forall_mem_cons, Obligation.metAlone_own,
      Check.passes_require_option, List.not_mem_nil, false_implies, implies_true, and_true,
      reduceCtorEq, true_and, true_implies]
    constructor
    · rintro ⟨source, target, version, method⟩ hc
      exact ⟨source hc, target hc, version hc, method hc⟩
    · intro h
      exact ⟨fun hc => (h hc).1, fun hc => (h hc).2.1, fun hc => (h hc).2.2.1,
        fun hc => (h hc).2.2.2⟩
  | concatenated =>
    simp only [kindObligations, hk, List.forall_mem_cons, Obligation.metAlone_own,
      Check.passes_ensure, decide_eq_true_eq, reduceCtorEq, false_implies, true_and,
      true_implies, and_true]
    refine and_iff_left_of_imp fun h => stepObligations_met ?_
    exact List.ne_nil_of_length_pos (by omega)
  | passThrough =>
    simp only [kindObligations, hk, List.forall_mem_cons, Obligation.metAlone_own,
      Check.passes_ensure, decide_eq_true_eq, reduceCtorEq, false_implies, true_and,
      true_implies]
    refine and_iff_left_of_imp fun h => stepObligations_met ?_
    exact List.ne_nil_of_length_pos (by omega)

theorem Operation.obligations_met_iff {c : Config} {x : Operation} :
    (∀ o ∈ x.obligations, o.MetAlone c) ↔ x.Conforms c := by
  simp only [obligations, List.forall_mem_append, Identity.obligations_met_iff,
    kindObligations_met_iff, Obligation.forall_optional_text, Obligation.forall_ofOption,
    and_true]
  constructor
  · rintro ⟨⟨identity, conversion, transformation, concatenated, passThrough⟩, versionText⟩
    exact ⟨identity, conversion, transformation, concatenated, passThrough, versionText⟩
  · intro h
    exact ⟨⟨h.identity, h.conversion, h.transformation, h.concatenated, h.passThrough⟩,
      h.versionText⟩

/-- The kinds of coordinate system that go with a kind of reference system. -/
def CrsKind.AdmitsSystem (kind : CrsKind) (system : CoordinateSystemKind) : Prop :=
  match kind with
  | .geographic => system = .ellipsoidal
  | .geocentric => system = .cartesian ∨ system = .spherical
  | .projected => system = .cartesian
  | .vertical => system = .vertical
  | .temporal => system = .temporal
  | .image => system = .cartesian ∨ system = .affine
  | .parametric => system = .parametric
  | .engineering | .derived | .compound => True

def CrsKind.AdmitsDatum (kind : CrsKind) (datum : DatumKind) : Prop :=
  match kind with
  | .geographic | .geocentric | .projected => datum = .geodetic
  | .vertical => datum = .vertical
  | .temporal => datum = .temporal
  | .parametric => datum = .parametric
  | .engineering | .image | .derived | .compound => True

structure Crs.Conforms (c : Config) (x : Crs) : Prop where
  identity : x.identity.Conforms c
  components : x.kind = .compound → 2 ≤ x.components.length
  attached : x.kind ≠ .compound → c.requireMandatory = true →
    x.coordinateSystem.isSome = true ∧ x.datum.isSome = true
  systemKind : ∀ s ∈ x.coordinateSystem, x.kind.AdmitsSystem s.kind
  datumKind : ∀ d ∈ x.datum, x.kind.AdmitsDatum d.kind
  axisNames : x.kind = .geographic ∨ x.kind = .geocentric → ∀ s ∈ x.coordinateSystem,
    ∀ i < s.dimension, ∀ a ∈ s.axis? i, ∀ code ∈ a.identity.name.bind (·.code),
      ∀ direction ∈ a.direction,
        ∀ admitted ∈ knownAxisNames.lookup (uncapitalizeWords code), direction ∈ admitted

theorem CrsKind.mem_expectedSystems_iff {k : CrsKind} {s : CoordinateSystemKind} :
    (∀ kinds ∈ k.expectedSystems, s ∈ kinds) ↔ k.AdmitsSystem s := by
  cases k <;> simp [expectedSystems, AdmitsSystem]

theorem CrsKind.eq_expectedDatum_iff {k : CrsKind} {d : DatumKind} :
    (∀ kind ∈ k.expectedDatum, d = kind) ↔ k.AdmitsDatum d := by
  cases k <;> simp [expectedDatum, AdmitsDatum]

theorem CrsKind.namesAxes_iff {k : CrsKind} :
    k.namesAxes = true ↔ k = .geographic ∨ k = .geocentric := by
  cases k <;> decide

theorem Crs.axisNameCheck?_passes_iff {c : Config} {kind : CrsKind} {a : Axis} :
    (∀ k ∈ axisNameCheck? kind a, k.passes c = true) ↔
      ∀ code ∈ a.identity.code, ∀ direction ∈ a.direction,
        ∀ admitted ∈ knownAxisNames.lookup (uncapitalizeWords code), direction ∈ admitted := by
  cases hc : a.identity.code with
  | none => simp [axisNameCheck?, hc]
  | some code =>
    cases hd : a.direction with
    | none => simp [axisNameCheck?, hc, hd]
    | some direction =>
      cases hk : knownAxisNames.lookup (uncapitalizeWords code) <;>
        simp [axisNameCheck?, hc, hd, hk]

theorem Crs.axisNameChecks_pass_iff {c : Config} {kind : CrsKind} {s : CoordinateSystem} :
    (∀ k ∈ axisNameChecks kind s, k.passes c = true) ↔
      ∀ i < s.dimension, ∀ a ∈ s.axis? i, ∀ code ∈ a.identity.code, ∀ direction ∈ a.direction,
        ∀ admitted ∈ knownAxisNames.lookup (uncapitalizeWords code), direction ∈ admitted := by
  have hone (a : Option Axis) : (∀ k ∈ a.bind (axisNameCheck? kind), k.passes c = true) ↔
      ∀ a' ∈ a, ∀ code ∈ a'.identity.code, ∀ direction ∈ a'.direction,
        ∀ admitted ∈ knownAxisNames.lookup (uncapitalizeWords code), direction ∈ admitted := by
    cases a with
    | none => simp
    | some a => simpa using axisNameCheck?_passes_iff
  constructor
  · intro h i hi
    refine (hone (s.axis? i)).mp fun k hk => h k ?_
    exact List.mem_filterMap.mpr ⟨s.axis? i, List.mem_map.mpr ⟨i, by simpa using hi, rfl⟩, hk⟩
  · intro h k hk
    obtain ⟨a, ha, hk⟩ := List.mem_filterMap.mp hk
    obtain ⟨i, hi, rfl⟩ := List.mem_map.mp ha
    exact (hone (s.axis? i)).mpr (h i (by simpa using hi)) k hk

theorem Crs.systemObligations_met_iff {c : Config} {kind : CrsKind} {s : CoordinateSystem} :
    (∀ o ∈ systemObligations kind s, o.MetAlone c) ↔
      kind.AdmitsSystem s.kind ∧
      (kind.namesAxes = true → ∀ k ∈ axisNameChecks kind s, k.passes c = true) := by
  have hkind : (∀ k ∈ kind.expectedSystems.toList.map (fun expected =>
        Check.ensure (expected.contains s.kind) (.systemKindUnfit kind expected s.kind)),
        k.passes c = true) ↔ kind.AdmitsSystem s.kind := by
    rw [← CrsKind.mem_expectedSystems_iff]
    cases kind.expectedSystems <;> simp
  simp only [systemObligations, List.forall_mem_cons, Obligation.metAlone_visit, true_and,
    Obligation.forall_own, systemChecks, List.forall_mem_append, hkind]
  cases kind.namesAxes <;> simp

theorem Crs.datumObligations_met_iff {c : Config} {kind : CrsKind} {d : Datum} :
    (∀ o ∈ datumObligations kind d, o.MetAlone c) ↔ kind.AdmitsDatum d.kind := by
  simp only [datumObligations, List.forall_mem_cons, Obligation.metAlone_visit, true_and,
    Obligation.forall_own, datumChecks, ← CrsKind.eq_expectedDatum_iff]
  cases kind.expectedDatum <;> simp

theorem Crs.singleObligations_met_iff {c : Config} {x : Crs} :
    (∀ o ∈ x.singleObligations, o.MetAlone c) ↔
      ((c.requireMandatory = true → x.coordinateSystem.isSome = true) ∧
        (c.requireMandatory = true → x.datum.isSome = true)) ∧
      (∀ s ∈ x.coordinateSystem, x.kind.AdmitsSystem s.kind ∧
        (x.kind.namesAxes = true → ∀ k ∈ axisNameChecks x.kind s, k.passes c = true)) ∧
      ∀ d ∈ x.datum, x.kind.AdmitsDatum d.kind := by
  simp only [singleObligations, List.forall_mem_append, List.forall_mem_cons,
    Obligation.metAlone_own, Check.passes_require_option, forall_mem_flatMap_toList,
    systemObligations_met_iff, datumObligations_met_iff, List.not_mem_nil, false_implies,
    implies_true, and_true, and_assoc]

theorem Crs.compoundObligations_met_iff {c : Config} {x : Crs} :
    (∀ o ∈ x.compoundObligations, o.MetAlone c) ↔ 2 ≤ x.components.length := by
  simp only [compoundObligations, List.forall_mem_cons, List.forall_mem_append,
    List.forall_mem_map, Obligation.metAlone_own, Obligation.metAlone_visit,
    Obligation.forall_ofOption, Check.passes_ensure, decide_eq_true_eq, implies_true, and_true]

theorem Crs.obligations_met_iff {c : Config} {x : Crs} :
    (∀ o ∈ x.obligations, o.MetAlone c) ↔ x.Conforms c := by
  simp only [obligations, List.forall_mem_append, Identity.obligations_met_iff]
  by_cases hk : x.kind = .compound
  · simp only [hk, if_true, compoundObligations_met_iff]
    constructor
    · rintro ⟨hi, hn⟩
      exact ⟨hi, fun _ => hn, fun h => absurd hk h, by simp [hk, CrsKind.AdmitsSystem],
        by simp [hk, CrsKind.AdmitsDatum], by simp [hk]⟩
    · intro h
      exact ⟨h.identity, h.components hk⟩
  · simp only [hk, if_false, singleObligations_met_iff]
    constructor
    · rintro ⟨hi, ⟨hs, hd⟩, hsystem, hdatum⟩
      exact ⟨hi, fun h => absurd h hk, fun _ hc => ⟨hs hc, hd hc⟩, fun s h => (hsystem s h).1,
        hdatum, fun h s hm => axisNameChecks_pass_iff.mp
          ((hsystem s hm).2 (CrsKind.namesAxes_iff.mpr h))⟩
    · intro h
      exact ⟨h.identity, ⟨fun hc => (h.attached hk hc).1, fun hc => (h.attached hk hc).2⟩,
        fun s hm => ⟨h.systemKind s hm, fun hn => axisNameChecks_pass_iff.mpr
          (h.axisNames (CrsKind.namesAxes_iff.mp hn) s hm)⟩, h.datumKind⟩

/-- What an object in a role has to be like on its own. -/
def Node.Conforms (c : Config) : Node → Prop
  | crs x => x.Conforms c
  | coordinateSystem x => x.Conforms c
  | axis x => x.Conforms c
  | datum x => x.Conforms c
  | ellipsoid x => x.Conforms c
  | primeMeridian x => x.Conforms c
  | parameter x => x.Conforms c
  | operation x => x.Conforms c
  | method x => x.Conforms c

theorem Node.identity_conforms {c : Config} {n : Node} (h : n.Conforms c) :
    n.identity.Conforms c := by
  cases n with
  | crs x => exact Crs.Conforms.identity h
  | coordinateSystem x => exact CoordinateSystem.Conforms.identity h
  | axis x => exact Axis.Conforms.identity h
  | datum x => exact Datum.Conforms.identity h
  | ellipsoid x => exact Ellipsoid.Conforms.identity h
  | primeMeridian x => exact PrimeMeridian.Conforms.identity h
  | parameter x => exact Parameter.Conforms.identity h
  | operation x => exact Operation.Conforms.identity h
  | method x => exact OperationMethod.Conforms.identity h

theorem Node.obligations_met_iff {c : Config} {n : Node} :
    (∀ o ∈ n.obligations, o.MetAlone c) ↔ n.Conforms c := by
  cases n with
  | crs x => exact Crs.obligations_met_iff
  | coordinateSystem x => exact CoordinateSystem.obligations_met_iff
  | axis x => exact Axis.obligations_met_iff
  | datum x => exact Datum.obligations_met_iff
  | ellipsoid x => exact Ellipsoid.obligations_met_iff
  | primeMeridian x => exact PrimeMeridian.obligations_met_iff
  | parameter x => exact Parameter.obligations_met_iff
  | operation x => exact Operation.obligations_met_iff
  | method x => exact OperationMethod.obligations_met_iff

end GeoConformance
