import Mathlib.Tactic.ByContra
import GeoConformance.Proofs.CompassPairs
import GeoConformance.Proofs.RoleDispatch
import GeoConformance.Proofs.VisitedGraph

/-! What a failure says of the objects that a validation comes to. Absence fails a validation only
where it is enforced, and so does presence, of an object that has what its kind forbids; an angle is
reported only between two axes of one coordinate system; the catalog never fails. -/
namespace GeoConformance

open AxisDirection

namespace Perpendicular

theorem sublist_of_firstBadPair? {g : List AxisDirection} {a b : AxisDirection}
    (h : firstBadPair? g = some (a, b)) : [a, b].Sublist g ∧ ¬RightAngled a b := by
  fun_induction firstBadPair? g with
  | case1 a' b' rest hab ih =>
    obtain ⟨hsub, hbad⟩ := ih h
    exact ⟨(hsub.cons b').cons a', hbad⟩
  | case2 a' b' rest hab =>
    obtain ⟨rfl, rfl⟩ : a' = a ∧ b' = b := by simpa using h
    exact ⟨((List.nil_sublist rest).cons_cons b').cons_cons a', hab⟩
  | case3 => cases h

end Perpendicular

open Perpendicular in
theorem exists_pair_of_checkPerpendicular_error {ds : List AxisDirection} {e : ValidationError}
    (h : checkPerpendicular ds = .error e) :
    ∃ a b, e = .inconsistentGeometry a b (angleBetween a b) ∧ [a, b].Sublist ds ∧
      a.category = .geographic ∧ b.category = .geographic ∧ ¬RightAngled a b := by
  rw [checkPerpendicular_eq_verdict] at h
  match hp : firstBadPair? (compass ds), h with
  | some (a, b), h =>
    obtain ⟨hsub, hbad⟩ := sublist_of_firstBadPair? hp
    have hcompass : ∀ d ∈ [a, b], d.category = .geographic := by
      intro d hd
      have hmem : d ∈ compass ds := hsub.subset hd
      simpa using (List.mem_filter.mp hmem).2
    refine ⟨a, b, ?_, hsub.trans List.filter_sublist, ?_, ?_, hbad⟩
    · simpa [verdict, eq_comm] using h
    · exact hcompass a (by simp)
    · exact hcompass b (by simp)

namespace CoordinateSystem

def directionAt? (x : CoordinateSystem) (index : Nat) : Option AxisDirection :=
  (x.axis? index).bind (·.direction)

/-- Two axes that ought to be perpendicular, the first listed before the second, are at another
angle. -/
structure Skewed (x : CoordinateSystem) (first second : AxisDirection) (angle : Float) : Prop where
  kind : x.kind = .cartesian ∨ x.kind = .ellipsoidal
  axes : ∃ i j, i < j ∧ j < x.dimension ∧
    x.directionAt? i = some first ∧ x.directionAt? j = some second
  compass : first.category = .geographic ∧ second.category = .geographic
  angle : angle = 22.5 * (circularDistance first.position second.position).toFloat
  oblique : ¬4 ∣ circularDistance first.position second.position

theorem exists_axes_of_sublist_directions {x : CoordinateSystem} {a b : AxisDirection}
    (h : [a, b].Sublist x.directions) :
    ∃ i j, i < j ∧ j < x.dimension ∧ x.directionAt? i = some a ∧ x.directionAt? j = some b := by
  have hd : x.directions = (List.range x.dimension).filterMap x.directionAt? := x.directions_eq
  by_contra hn
  have hpair : (List.range x.dimension).Pairwise fun i j =>
      ∀ p ∈ x.directionAt? i, ∀ q ∈ x.directionAt? j, ¬(p = a ∧ q = b) := by
    apply List.pairwise_lt_range.imp_of_mem
    rintro i j - hj hij p hp q hq ⟨rfl, rfl⟩
    exact hn ⟨i, j, hij, List.mem_range.mp hj, hp, hq⟩
  rw [hd] at h
  have hnot := List.pairwise_iff_forall_sublist.mp (List.pairwise_filterMap.mpr hpair) h
  exact hnot ⟨rfl, rfl⟩

theorem exists_skewed_of_error {x : CoordinateSystem} {e : ValidationError}
    (hk : x.kind.perpendicularAxes = true) (h : checkPerpendicular x.directions = .error e) :
    ∃ a b angle, e = .inconsistentGeometry a b angle ∧ x.Skewed a b angle := by
  obtain ⟨a, b, he, hsub, ha, hb, hbad⟩ := exists_pair_of_checkPerpendicular_error h
  refine ⟨a, b, angleBetween a b, he, ?_⟩
  constructor
  · exact CoordinateSystemKind.perpendicularAxes_iff.mp hk
  · exact exists_axes_of_sublist_directions hsub
  · exact ⟨ha, hb⟩
  · rfl
  · intro hdvd
    exact hbad (circularDistance_mod_four_eq_zero.mp (Nat.mod_eq_zero_of_dvd hdvd))

end CoordinateSystem

def Node.HasForbidden : Node → Prop
  | datum x => x.kind ≠ .geodetic ∧ (x.ellipsoid.isSome = true ∨ x.primeMeridian.isSome = true)
  | operation x => x.kind = .conversion ∧ x.version.isSome = true
  | _ => False

def Violation.IsInconsistency : Violation → Prop
  | semiMinorInconsistent .. | inverseFlatteningInconsistent .. => True
  | _ => False

/-- What a failure of a validation means for the objects that it came to. -/
def ValidationError.HasCause (c : Config) (Visited : Node → Prop) : ValidationError → Prop
  | missingRequiredField _ => c.requireMandatory = true
  | unexpectedField _ => c.enforceForbidden = true ∧ ∃ m, Visited m ∧ m.HasForbidden
  | invalidValue _ => True
  | inconsistentGeometry first second angle =>
    ∃ s, Visited (.coordinateSystem s) ∧ s.Skewed first second angle
  | internalCatalogFault _ => False

namespace Check

/-- A check for what is missing, or has a wrong value. -/
def Plain : Check → Prop
  | mandatory .. | ensure .. => True
  | forbidden .. | agree .. | perpendicular _ => False

/-- A check that an object is subject to: of what it must not have, of how its axes stand, of the
consistency of an ellipsoid, or a plain one. -/
def Fits (n : Node) : Check → Prop
  | forbidden absent _ => absent = false → n.HasForbidden
  | perpendicular ds =>
    ∃ s, n = .coordinateSystem s ∧ s.kind.perpendicularAxes = true ∧ ds = s.directions
  | agree _ _ violation => violation.IsInconsistency
  | mandatory .. | ensure .. => True

variable {c : Config} {n : Node} {k : Check} {e : ValidationError} {v : Violation}

theorem fits_of_plain (h : k.Plain) : k.Fits n := by
  cases k with
  | mandatory => trivial
  | ensure => trivial
  | forbidden => exact h.elim
  | agree => exact h.elim
  | perpendicular => exact h.elim

/-- The four ways for a check to fail. -/
theorem run_error_cases (h : (k.run c).result = .error e) :
    (∃ v, k = mandatory true v ∧ c.requireMandatory = true ∧ e = .missingRequiredField v) ∨
      (∃ v, k = forbidden false v ∧ c.enforceForbidden = true ∧ e = .unexpectedField v) ∨
      (∃ v, e = .invalidValue v) ∨
      ∃ ds, k = perpendicular ds ∧ checkPerpendicular ds = .error e := by
  cases k with
  | mandatory absent v =>
    cases absent with
    | false => cases h
    | true =>
      cases hc : c.requireMandatory with
      | true =>
        have he : ValidationError.missingRequiredField v = e := by simpa [run, hc] using h
        exact .inl ⟨v, rfl, rfl, he.symm⟩
      | false => simp [run, hc] at h
  | forbidden absent v =>
    cases absent with
    | true => cases h
    | false =>
      cases hc : c.enforceForbidden with
      | true =>
        have he : ValidationError.unexpectedField v = e := by simpa [run, hc] using h
        exact .inr (.inl ⟨v, rfl, rfl, he.symm⟩)
      | false => simp [run, hc] at h
  | ensure holds v =>
    cases holds with
    | true => cases h
    | false => exact .inr (.inr (.inl ⟨v, by cases h; rfl⟩))
  | agree x y v =>
    simp only [run] at h
    split at h
    · cases h
    · exact .inr (.inr (.inl ⟨v, by cases h; rfl⟩))
  | perpendicular ds => exact .inr (.inr (.inr ⟨ds, rfl, h⟩))

theorem hasCause_of_plain {Visited : Node → Prop} (hk : k.Plain)
    (h : (k.run c).result = .error e) : e.HasCause c Visited := by
  obtain ⟨v, rfl, hc, rfl⟩ | ⟨v, rfl, -, -⟩ | ⟨v, rfl⟩ | ⟨ds, rfl, -⟩ := run_error_cases h
  · exact hc
  · exact hk.elim
  · trivial
  · exact hk.elim

theorem hasCause_of_fits {Visited : Node → Prop} (hn : Visited n) (hk : k.Fits n)
    (h : (k.run c).result = .error e) : e.HasCause c Visited := by
  obtain ⟨v, rfl, hc, rfl⟩ | ⟨v, rfl, hc, rfl⟩ | ⟨v, rfl⟩ | ⟨ds, rfl, he⟩ := run_error_cases h
  · exact hc
  · exact ⟨hc, n, hn, hk rfl⟩
  · trivial
  · obtain ⟨s, rfl, hs, rfl⟩ := hk
    obtain ⟨a, b, angle, rfl, hskewed⟩ := CoordinateSystem.exists_skewed_of_error hs he
    exact ⟨s, hn, hskewed⟩

@[simp] theorem plain_ensure {holds : Bool} : (ensure holds v).Plain := trivial
@[simp] theorem plain_mandatory {absent : Bool} : (mandatory absent v).Plain := trivial
@[simp] theorem plain_require {α : Type} [Presence α] {x : α} : (require x v).Plain := trivial
@[simp] theorem plain_notBlank {property text : String} : (notBlank property text).Plain := trivial

end Check

section Metadata

open Check

theorem Identifier.plain_of_mem_checks (x : Identifier) : ∀ k ∈ x.checks, k.Plain := by
  simp only [checks, List.forall_mem_cons, List.forall_mem_append, List.forall_mem_map]
  simp

theorem Extent.plain_of_mem_checks (x : Extent) : ∀ k ∈ x.checks, k.Plain := by
  simp only [checks, List.forall_mem_cons, List.forall_mem_append, List.forall_mem_map,
    forall_mem_flatMap_toList, GeographicBoundingBox.checks]
  simp

theorem ObjectDomain.plain_of_mem_checks (x : ObjectDomain) : ∀ k ∈ x.checks, k.Plain := by
  have hextent : ∀ e ∈ x.validity, ∀ k ∈ e.checks, k.Plain := fun e _ => e.plain_of_mem_checks
  simp only [checks, List.forall_mem_cons, List.forall_mem_append, List.forall_mem_map,
    forall_mem_flatMap_toList]
  simpa using hextent

theorem Identity.plain_of_mem_checks (x : Identity) : ∀ k ∈ x.checks, k.Plain := by
  have hname : ∀ i ∈ x.name, ∀ k ∈ i.checks, k.Plain := fun i _ => i.plain_of_mem_checks
  have hlisted {α : Type} {property : String} {items : List α} {f : α → List Check}
      (h : ∀ a ∈ items, ∀ k ∈ f a, k.Plain) : ∀ k ∈ forEvery property items false f, k.Plain := by
    simp only [forEvery, Bool.false_eq_true, if_false, List.append_nil]
    intro k hk
    obtain ⟨a, ha, hk⟩ := List.mem_flatMap.mp hk
    exact h a ha k hk
  simp only [checks, List.forall_mem_cons, List.forall_mem_append, List.forall_mem_map,
    forall_mem_flatMap_toList]
  refine ⟨plain_require, ⟨⟨⟨hname, ?_⟩, ?_⟩, ?_⟩, fun _ _ => plain_notBlank⟩
  · exact hlisted fun i _ => i.plain_of_mem_checks
  · exact hlisted fun text _ => by simp
  · exact hlisted fun d _ => d.plain_of_mem_checks

end Metadata

namespace Obligation

def Fits (n : Node) : Obligation → Prop
  | own k | delegated k => k.Fits n
  | visit _ => True

variable {n : Node}

theorem fits_of_mem_map_own {ks : List Check} (h : ∀ k ∈ ks, k.Fits n) :
    ∀ o ∈ ks.map own, o.Fits n := by
  intro o ho
  obtain ⟨k, hk, rfl⟩ := List.mem_map.mp ho
  exact h k hk

theorem fits_of_mem_identity {x : Identity} : ∀ o ∈ x.obligations, o.Fits n := by
  intro o ho
  obtain ⟨k, hk, rfl⟩ := List.mem_map.mp ho
  exact Check.fits_of_plain (x.plain_of_mem_checks k hk)

theorem fits_of_mem_ofOption {α : Type} {x : Option α} {f : α → Node} :
    ∀ o ∈ ofOption x f, o.Fits n := by
  intro o ho
  obtain ⟨a, -, rfl⟩ := List.mem_map.mp ho
  trivial

theorem fits_of_mem_optional_text {x : Option String} {property : String} :
    ∀ o ∈ x.toList.map fun text => delegated (.notBlank property text), o.Fits n := by
  intro o ho
  obtain ⟨text, -, rfl⟩ := List.mem_map.mp ho
  trivial

end Obligation

section Roles

open Obligation

theorem Axis.fits_of_mem_obligations (x : Axis) : ∀ o ∈ x.obligations, o.Fits (.axis x) := by
  have hown : ∀ k ∈ x.ownChecks, k.Plain := by
    simp only [ownChecks, List.forall_mem_append, List.forall_mem_cons]
    split <;> simp
  rw [obligations, List.forall_mem_append]
  exact ⟨fits_of_mem_identity, fits_of_mem_map_own fun k hk => Check.fits_of_plain (hown k hk)⟩

theorem CoordinateSystem.fits_of_mem_obligations (x : CoordinateSystem) :
    ∀ o ∈ x.obligations, o.Fits (.coordinateSystem x) := by
  simp only [obligations, List.forall_mem_append, List.forall_mem_singleton]
  refine ⟨⟨⟨fits_of_mem_identity, trivial⟩, ?_⟩, ?_⟩
  · intro o ho
    obtain ⟨⟨a, i⟩, -, ho⟩ := List.mem_flatMap.mp ho
    obtain rfl | ho := List.mem_cons.mp ho
    · trivial
    · exact fits_of_mem_ofOption o ho
  · split
    case isTrue hk =>
      rw [List.forall_mem_singleton]
      exact ⟨x, rfl, hk, rfl⟩
    case isFalse => simp

theorem Ellipsoid.fits_of_mem_obligations (x : Ellipsoid) :
    ∀ o ∈ x.obligations, o.Fits (.ellipsoid x) := by
  have haxes : ∀ k ∈ x.axisChecks, k.Fits (.ellipsoid x) := by
    intro k hk
    apply Check.fits_of_plain
    revert k
    simp [axisChecks]
  have hshape : ∀ k ∈ x.flatteningChecks, k.Fits (.ellipsoid x) := by
    simp only [flatteningChecks]
    split
    · rw [List.forall_mem_singleton]
      trivial
    · rw [List.forall_mem_cons]
      refine ⟨trivial, ?_⟩
      split
      · rw [List.forall_mem_singleton]
        trivial
      · rw [List.forall_mem_singleton]
        trivial
  rw [obligations, List.forall_mem_append]
  refine ⟨fits_of_mem_identity, fits_of_mem_map_own ?_⟩
  rw [List.forall_mem_cons, List.forall_mem_append]
  exact ⟨trivial, haxes, hshape⟩

theorem PrimeMeridian.fits_of_mem_obligations (x : PrimeMeridian) :
    ∀ o ∈ x.obligations, o.Fits (.primeMeridian x) := by
  simp only [obligations, List.forall_mem_append, List.forall_mem_cons]
  exact ⟨fits_of_mem_identity, trivial, trivial, by simp⟩

theorem Datum.fits_of_mem_obligations (x : Datum) :
    ∀ o ∈ x.obligations, o.Fits (.datum x) := by
  simp only [obligations, List.forall_mem_append]
  refine ⟨⟨fits_of_mem_identity, fits_of_mem_optional_text⟩, ?_⟩
  split
  case isTrue hk =>
    simp only [List.forall_mem_append, List.forall_mem_cons]
    exact ⟨⟨⟨trivial, trivial, by simp⟩, fits_of_mem_ofOption⟩, fits_of_mem_ofOption⟩
  case isFalse hk =>
    simp only [List.forall_mem_cons]
    refine ⟨fun h => ⟨hk, .inl ?_⟩, fun h => ⟨hk, .inr ?_⟩, by simp⟩
    · simpa [Presence.isAbsent] using h
    · simpa [Presence.isAbsent] using h

theorem Parameter.fits_of_mem_memberObligations {n : Node} (seen : List String)
    (xs : List Parameter) : ∀ o ∈ memberObligations seen xs, o.Fits n := by
  induction xs generalizing seen with
  | nil => simp [memberObligations]
  | cons x xs ih =>
    rw [memberObligations, List.forall_mem_cons]
    refine ⟨trivial, ?_⟩
    split
    · exact ih seen
    · rw [List.forall_mem_cons]
      exact ⟨trivial, ih _⟩

theorem Parameter.fits_of_mem_obligations (x : Parameter) :
    ∀ o ∈ x.obligations, o.Fits (.parameter x) := by
  simp only [obligations, List.forall_mem_append, List.forall_mem_singleton]
  exact ⟨⟨fits_of_mem_identity, trivial⟩, fits_of_mem_memberObligations _ _⟩

theorem OperationMethod.fits_of_mem_obligations (x : OperationMethod) :
    ∀ o ∈ x.obligations, o.Fits (.method x) := by
  simp only [obligations, List.forall_mem_append, List.forall_mem_cons]
  exact ⟨fits_of_mem_identity, trivial, fits_of_mem_optional_text, fits_of_mem_ofOption⟩

theorem Operation.fits_of_mem_kindObligations (x : Operation) :
    ∀ o ∈ x.kindObligations, o.Fits (.operation x) := by
  have hsteps : ∀ o ∈ x.stepObligations, o.Fits (.operation x) := by
    simp only [stepObligations, List.forall_mem_append, List.forall_mem_map,
      List.forall_mem_singleton]
    exact ⟨fun _ _ => trivial, trivial⟩
  cases hk : x.kind with
  | conversion =>
    simp only [kindObligations, hk, List.forall_mem_cons]
    refine ⟨fun h => ⟨hk, ?_⟩, trivial, by simp⟩
    simpa [Presence.isAbsent] using h
  | transformation =>
    simp only [kindObligations, hk, List.forall_mem_cons]
    exact ⟨trivial, trivial, trivial, trivial, by simp⟩
  | concatenated =>
    simp only [kindObligations, hk, List.forall_mem_cons]
    exact ⟨trivial, hsteps⟩
  | passThrough =>
    simp only [kindObligations, hk, List.forall_mem_cons]
    exact ⟨trivial, hsteps⟩

theorem Operation.fits_of_mem_obligations (x : Operation) :
    ∀ o ∈ x.obligations, o.Fits (.operation x) := by
  simp only [obligations, List.forall_mem_append]
  exact ⟨⟨⟨⟨⟨fits_of_mem_identity, x.fits_of_mem_kindObligations⟩, fits_of_mem_optional_text⟩,
    fits_of_mem_ofOption⟩, fits_of_mem_ofOption⟩, fits_of_mem_ofOption⟩

theorem Crs.fits_of_mem_obligations (x : Crs) : ∀ o ∈ x.obligations, o.Fits (.crs x) := by
  rw [obligations, List.forall_mem_append]
  refine ⟨fits_of_mem_identity, ?_⟩
  split
  · simp only [compoundObligations, List.forall_mem_cons, List.forall_mem_append,
      List.forall_mem_map]
    exact ⟨trivial, fun _ _ => trivial, fits_of_mem_ofOption⟩
  · simp only [singleObligations, List.forall_mem_append, List.forall_mem_cons,
      forall_mem_flatMap_toList, systemObligations, datumObligations]
    refine ⟨⟨⟨trivial, trivial, by simp⟩, fun s _ => ⟨trivial, ?_⟩⟩, fun d _ => ⟨trivial, ?_⟩⟩
    · apply fits_of_mem_map_own
      intro k hk
      obtain ⟨holds, v, rfl⟩ := exists_ensure_of_mem_systemChecks hk
      trivial
    · apply fits_of_mem_map_own
      intro k hk
      obtain ⟨holds, v, rfl⟩ := exists_ensure_of_mem_datumChecks hk
      trivial

theorem Node.fits_of_mem_obligations (n : Node) : ∀ o ∈ n.obligations, o.Fits n := by
  cases n with
  | crs x => exact x.fits_of_mem_obligations
  | coordinateSystem x => exact x.fits_of_mem_obligations
  | axis x => exact x.fits_of_mem_obligations
  | datum x => exact x.fits_of_mem_obligations
  | ellipsoid x => exact x.fits_of_mem_obligations
  | primeMeridian x => exact x.fits_of_mem_obligations
  | parameter x => exact x.fits_of_mem_obligations
  | operation x => exact x.fits_of_mem_obligations
  | method x => exact x.fits_of_mem_obligations

end Roles

variable {c : Config} {e : ValidationError}

theorem Check.hasCause_of_runAll_error {Visited : Node → Prop} {ks : List Check}
    (hks : ∀ k ∈ ks, k.Plain) (h : (runAll c ks).result = .error e) : e.HasCause c Visited := by
  obtain ⟨k, hk, he⟩ := Run.exists_of_forM_error h
  exact hasCause_of_plain (hks k hk) he

/-- Every check of a validation is one that an object which it comes to is subject to. -/
theorem Node.exists_fits_of_mem_checks {n : Node} {k : Check} (hk : k ∈ n.checks) :
    ∃ m, n.Reaches m ∧ k.Fits m := by
  obtain ⟨m, hreach, hmem⟩ := exists_reaches_of_mem_checks hk
  refine ⟨m, hreach, ?_⟩
  obtain hmem | hmem := hmem
  · exact m.fits_of_mem_obligations _ hmem
  · exact m.fits_of_mem_obligations _ hmem

theorem Node.hasCause_of_validate_error {n : Node} (h : (n.validate c).result = .error e) :
    e.HasCause c n.Reaches := by
  obtain ⟨k, hk, he⟩ := Run.exists_of_forM_error h
  obtain ⟨m, hreach, hfits⟩ := exists_fits_of_mem_checks hk
  exact Check.hasCause_of_fits hreach hfits he

def Target.Visits : Target → Node → Prop
  | node n => n.Reaches
  | identity _ | domain _ | identifier _ | extent _ => fun _ => False

theorem Target.hasCause_of_validate_error {t : Target} (h : (t.validate c).result = .error e) :
    e.HasCause c t.Visits := by
  cases t with
  | node n => exact Node.hasCause_of_validate_error h
  | identity x => exact Check.hasCause_of_runAll_error x.plain_of_mem_checks h
  | domain x => exact Check.hasCause_of_runAll_error x.plain_of_mem_checks h
  | identifier x => exact Check.hasCause_of_runAll_error x.plain_of_mem_checks h
  | extent x => exact Check.hasCause_of_runAll_error x.plain_of_mem_checks h

theorem ValidationError.HasCause.mono {V W : Node → Prop} (hVW : ∀ m, V m → W m)
    (h : e.HasCause c V) : e.HasCause c W := by
  cases e with
  | missingRequiredField v => exact h
  | unexpectedField v =>
    obtain ⟨hc, m, hm, hforbidden⟩ := h
    exact ⟨hc, m, hVW m hm, hforbidden⟩
  | invalidValue v => trivial
  | inconsistentGeometry a b angle =>
    obtain ⟨s, hs, hskewed⟩ := h
    exact ⟨s, hVW _ hs, hskewed⟩
  | internalCatalogFault d => exact h

def Subject.Visits (x : Subject) (m : Node) : Prop :=
  ∃ n ∈ x.views, n.Reaches m

theorem Subject.hasCause_of_dispatch_error {x : Subject}
    (h : (dispatch c (some x)).result = .error e) : e.HasCause c x.Visits := by
  by_cases hr : x.roles = []
  · have hi : ((Target.identity x.identity).validate c).result = .error e := by
      rw [dispatch_of_no_role hr] at h
      cases hx : ((Target.identity x.identity).validate c).result with
      | ok u => simp [hx, Except.map] at h
      | error d => simpa [hx, Except.map] using h
    exact (Target.hasCause_of_validate_error hi).mono fun m hm => hm.elim
  · obtain hv | ⟨before, n, after, d, hx, hb, hd⟩ :=
      Run.forall_succeeds_or_first_error (·.validate c) x.views
    · rw [dispatch_of_succeeds hr hv] at h
      cases h
    · rw [dispatch_of_error hx hb hd] at h
      cases h
      have hn : n ∈ x.views := by simp [hx]
      exact (Node.hasCause_of_validate_error hd).mono fun m hm => ⟨n, hn, hm⟩

/-- Every failure has its cause in the configuration and in an object that was visited, whatever is
validated and through whichever entry: absence is a failure only where it is enforced, presence
only where it is enforced and an object has what its kind forbids, an angle only for two skewed axes
of one coordinate system, and the catalog is never at fault. -/
theorem every_failure_has_its_cause (c : Config) :
    (∀ (t : Target) (e : ValidationError), (t.validate c).result = .error e →
      e.HasCause c t.Visits) ∧
    ∀ (x : Option Subject) (e : ValidationError), (dispatch c x).result = .error e →
      e.HasCause c fun m => ∃ y ∈ x, y.Visits m := by
  refine ⟨fun t e => Target.hasCause_of_validate_error, ?_⟩
  intro x e h
  cases x with
  | none => cases h
  | some y => exact (Subject.hasCause_of_dispatch_error h).mono fun m hm => ⟨y, rfl, hm⟩

end GeoConformance
