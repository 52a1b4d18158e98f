import Mathlib.Data.List.Basic
import GeoConformance.Proofs.RunLaws
import GeoConformance.Proofs.VisitedGraph

/-! What a lenient validation warns of. Each object has its faults of presence: what it lacks and
must have, and what it has and must not. A validation that lets them all pass goes through the
objects in depth, each visit before those that it leads to, and its log is the list of the faults
met on the way. -/
namespace GeoConformance

section Faults

variable {α : Type}

def lacking (x : Option α) (violation : Violation) : List Violation :=
  if x.isNone then [violation] else []

def unwanted (x : Option α) (violation : Violation) : List Violation :=
  if x.isSome then [violation] else []

end Faults

def Identifier.presenceFaults (x : Identifier) : List Violation :=
  lacking x.code .identifierWithoutCode

def Extent.presenceFaults (x : Extent) : List Violation :=
  if x.description.isNone ∧ x.boundingBox.isNone then [.emptyExtent] else []

def ObjectDomain.presenceFaults (x : ObjectDomain) : List Violation :=
  lacking x.scope .domainWithoutScope ++ lacking x.validity .domainWithoutValidity ++
    x.validity.toList.flatMap (·.presenceFaults)

def Identity.presenceFaults (x : Identity) : List Violation :=
  lacking x.name .unnamedObject ++ x.name.toList.flatMap (·.presenceFaults) ++
    x.identifiers.flatMap (·.presenceFaults) ++ x.domains.flatMap (·.presenceFaults)

/-- Where a validation comes to: an object, or the place of an axis that is missing. -/
inductive Stop
  | object (n : Node)
  | missingAxis (index : Nat)

namespace Stop

def ofOption {α : Type} (x : Option α) (node : α → Node) : List Stop :=
  x.toList.map fun a => object (node a)

@[simp] theorem object_mem_ofOption {α : Type} {x : Option α} {f : α → Node} {n : Node} :
    object n ∈ ofOption x f ↔ ∃ a, x = some a ∧ n = f a := by
  simp [ofOption, eq_comm]

def ofAxis (axis : Option Axis) (index : Nat) : Stop :=
  match axis with
  | some a => object (.axis a)
  | none => missingAxis index

theorem ofAxis_eq_object_iff {axis : Option Axis} {index : Nat} {n : Node} :
    ofAxis axis index = object n ↔ ∃ a, axis = some a ∧ n = .axis a := by
  cases axis <;> simp [ofAxis, eq_comm]

end Stop

namespace Node

/-- The faults of an object in its role, those that any object can have aside. -/
def presenceFaults : Node → List Violation
  | crs x =>
    if x.kind = .compound then []
    else lacking x.coordinateSystem .crsWithoutCoordinateSystem ++ lacking x.datum .crsWithoutDatum
  | coordinateSystem _ | parameter _ => []
  | axis x =>
    lacking x.abbreviation .axisWithoutAbbreviation ++ lacking x.direction .axisWithoutDirection ++
      lacking x.unit .axisWithoutUnit ++
      if x.minimum.isFinite = true ∨ x.maximum.isFinite = true then
        lacking x.rangeMeaning .axisRangeUnexplained
      else []
  | datum x =>
    if x.kind = .geodetic then
      lacking x.ellipsoid .geodeticWithoutEllipsoid ++
        lacking x.primeMeridian .geodeticWithoutMeridian
    else
      unwanted x.ellipsoid .ellipsoidNotGeodetic ++ unwanted x.primeMeridian .meridianNotGeodetic
  | ellipsoid x => lacking x.unit .ellipsoidWithoutUnit
  | primeMeridian x => lacking x.unit .meridianWithoutUnit
  | operation x =>
    match x.kind with
    | .conversion =>
      unwanted x.version .conversionWithVersion ++ lacking x.method .conversionWithoutMethod
    | .transformation =>
      lacking x.source .transformationWithoutSource ++
        lacking x.target .transformationWithoutTarget ++
        lacking x.version .transformationWithoutVersion ++
        lacking x.method .transformationWithoutMethod
    | .concatenated | .passThrough => lacking x.steps.head? (.emptyCollection "step")
  | method x => lacking x.formula .methodWithoutFormula

/-- Where the validation of an object leads, in order. -/
def stops : Node → List Stop
  | crs x =>
    if x.kind = .compound then
      x.components.map (fun component => .object (.crs component)) ++
        Stop.ofOption x.coordinateSystem .coordinateSystem
    else
      Stop.ofOption x.coordinateSystem .coordinateSystem ++ Stop.ofOption x.datum .datum
  | coordinateSystem x =>
    (List.range x.dimension).map fun index => Stop.ofAxis (x.axis? index) index
  | datum x =>
    if x.kind = .geodetic then
      Stop.ofOption x.ellipsoid .ellipsoid ++ Stop.ofOption x.primeMeridian .primeMeridian
    else []
  | axis _ | ellipsoid _ | primeMeridian _ => []
  | parameter x => (x.descriptors.getD []).map fun member => .object (.parameter member)
  | operation x =>
    (match x.kind with
      | .conversion | .transformation => []
      | .concatenated | .passThrough => x.steps.map fun step => .object (.operation step)) ++
      Stop.ofOption x.method .method ++ Stop.ofOption x.source .crs ++ Stop.ofOption x.target .crs
  | method x => Stop.ofOption x.parameters .parameter

theorem object_mem_stops_iff {n m : Node} : .object m ∈ n.stops ↔ n.Refers m := by
  rw [← visit_mem_obligations_iff]
  cases n with
  | crs x =>
    rw [obligations, Crs.visit_mem_obligations, stops]
    by_cases hk : x.kind = .compound <;> simp [hk, eq_comm]
  | coordinateSystem x =>
    rw [obligations, CoordinateSystem.visit_mem_obligations, stops]
    simp only [CoordinateSystem.axes, List.mem_map, Stop.ofAxis_eq_object_iff]
    constructor
    · rintro ⟨i, hi, a, ha, rfl⟩
      exact ⟨a, ⟨i, hi, ha⟩, rfl⟩
    · rintro ⟨a, ⟨i, hi, ha⟩, rfl⟩
      exact ⟨i, hi, a, ha, rfl⟩
  | axis x => simp [obligations, stops]
  | datum x =>
    rw [obligations, Datum.visit_mem_obligations, stops]
    by_cases hk : x.kind = .geodetic <;> simp [hk]
  | ellipsoid x => simp [obligations, stops]
  | primeMeridian x => simp [obligations, stops]
  | parameter x =>
    rw [obligations, Parameter.visit_mem_obligations, stops]
    cases hd : x.descriptors <;> simp [eq_comm]
  | operation x =>
    rw [obligations, Operation.visit_mem_obligations, stops]
    cases hk : x.kind <;> simp [Operation.wrapsSteps, eq_comm]
  | method x =>
    rw [obligations, OperationMethod.visit_mem_obligations, stops]
    simp

/-- The way of a validation in depth: an object, then for each stop in turn what is under it. -/
def itinerary (n : Node) : List Stop :=
  .object n :: n.stops.attach.flatMap fun ⟨stop, h⟩ =>
    match stop with
    | .object m =>
      have := sizeOf_lt_of_refers (object_mem_stops_iff.mp h)
      m.itinerary
    | .missingAxis index => [.missingAxis index]
termination_by sizeOf n

end Node

def Stop.itinerary : Stop → List Stop
  | object n => n.itinerary
  | missingAxis index => [missingAxis index]

theorem Node.itinerary_eq (n : Node) :
    n.itinerary = .object n :: n.stops.flatMap (·.itinerary) := by
  have hstops : n.stops.flatMap (·.itinerary) =
      (n.stops.attach.map (·.val)).flatMap (·.itinerary) := by
    rw [List.attach_map_subtype_val]
  rw [hstops, List.flatMap_map, Node.itinerary]
  congr 2
  funext ⟨stop, h⟩
  cases stop <;> rfl

namespace Node

theorem reaches_of_mem_itinerary {n m : Node} (h : .object m ∈ n.itinerary) : n.Reaches m := by
  rw [itinerary_eq] at h
  obtain h | h := List.mem_cons.mp h
  · obtain rfl : m = n := Stop.object.inj h
    exact .refl
  obtain ⟨stop, hstop, hm⟩ := List.mem_flatMap.mp h
  cases stop with
  | object k =>
    have hk : n.Refers k := object_mem_stops_iff.mp hstop
    have := sizeOf_lt_of_refers hk
    exact .head hk (reaches_of_mem_itinerary hm)
  | missingAxis index => cases List.mem_singleton.mp hm
termination_by sizeOf n

theorem mem_itinerary_of_reaches {n m : Node} (h : n.Reaches m) : .object m ∈ n.itinerary := by
  induction h using Relation.ReflTransGen.head_induction_on with
  | refl =>
    rw [itinerary_eq]
    exact List.mem_cons_self
  | @head n k hk _ ih =>
    rw [itinerary_eq]
    have hstop : .object k ∈ n.stops := object_mem_stops_iff.mpr hk
    exact List.mem_cons_of_mem _ (List.mem_flatMap.mpr ⟨_, hstop, ih⟩)

end Node

namespace Check

def presenceFault? : Check → Option Violation
  | mandatory absent v => if absent then some v else none
  | forbidden absent v => if absent then none else some v
  | ensure .. | agree .. | perpendicular _ => none

def presenceFaults (k : Check) : List Violation :=
  k.presenceFault?.toList

variable {α : Type} {v : Violation}

@[simp] theorem presenceFaults_require_option {x : Option α} :
    (require x v).presenceFaults = lacking x v := by
  cases x <;> rfl

@[simp] theorem presenceFaults_require_list {xs : List α} :
    (require xs v).presenceFaults = lacking xs.head? v := by
  cases xs <;> rfl

@[simp] theorem presenceFaults_forbid_option {x : Option α} :
    (forbid x v).presenceFaults = unwanted x v := by
  cases x <;> rfl

@[simp] theorem presenceFaults_ensure {holds : Bool} : (ensure holds v).presenceFaults = [] := rfl
@[simp] theorem presenceFaults_agree {x y : Float} : (agree x y v).presenceFaults = [] := rfl
@[simp] theorem presenceFaults_notBlank {property text : String} :
    (notBlank property text).presenceFaults = [] := rfl
@[simp] theorem presenceFaults_perpendicular {ds : List AxisDirection} :
    (perpendicular ds).presenceFaults = [] := rfl

end Check

section Metadata

theorem flatMap_optional_text {x : Option String} {property : String} :
    (x.toList.map (Check.notBlank property)).flatMap (·.presenceFaults) = [] := by
  cases x <;> rfl

theorem Identifier.flatMap_checks (x : Identifier) :
    x.checks.flatMap (·.presenceFaults) = x.presenceFaults := by
  simp only [checks, List.flatMap_cons, List.flatMap_append, flatMap_optional_text,
    Check.presenceFaults_require_option, List.append_nil, presenceFaults]

theorem Extent.flatMap_checks (x : Extent) :
    x.checks.flatMap (·.presenceFaults) = x.presenceFaults := by
  have hbox : (x.boundingBox.toList.flatMap (·.checks)).flatMap (·.presenceFaults) = [] := by
    cases x.boundingBox <;> rfl
  have helement : (Check.mandatory (x.description.isNone && x.boundingBox.isNone)
      .emptyExtent).presenceFaults = x.presenceFaults := by
    simp only [Check.presenceFaults, Check.presenceFault?, presenceFaults, Bool.and_eq_true]
    split <;> rfl
  simp only [checks, List.flatMap_cons, List.flatMap_append, flatMap_optional_text, hbox,
    helement, List.append_nil]

theorem ObjectDomain.flatMap_checks (x : ObjectDomain) :
    x.checks.flatMap (·.presenceFaults) = x.presenceFaults := by
  simp only [checks, List.flatMap_cons, List.flatMap_append, List.flatMap_nil,
    flatMap_optional_text, Check.presenceFaults_require_option, List.flatMap_assoc,
    Extent.flatMap_checks, List.append_nil, presenceFaults]

theorem Identity.flatMap_checks (x : Identity) :
    x.checks.flatMap (·.presenceFaults) = x.presenceFaults := by
  have haliases : (x.aliases.flatMap fun text =>
      [Check.notBlank "IdentifiedObject: alias" text]).flatMap (·.presenceFaults) = [] := by
    rw [List.flatMap_assoc]
    exact List.flatMap_eq_nil_iff.mpr fun _ _ => rfl
  simp only [checks, Check.forEvery, Bool.false_eq_true, if_false, List.append_nil,
    List.flatMap_cons, List.flatMap_append, flatMap_optional_text, haliases]
  simp only [Check.presenceFaults_require_option, List.flatMap_assoc, Identifier.flatMap_checks,
    ObjectDomain.flatMap_checks, presenceFaults, List.append_assoc]

end Metadata

namespace Obligation

/-- The faults that an obligation brings to light: those of an own check, and what is made of
delegated checks and of visits. -/
def faults (ofDelegated : Check → List Violation) (ofVisited : Node → List Violation) :
    Obligation → List Violation
  | own k => k.presenceFaults
  | delegated k => ofDelegated k
  | visit n => ofVisited n

end Obligation

def Stop.faults (ofVisited : Node → List Violation) : Stop → List Violation
  | object n => ofVisited n
  | missingAxis index => [.axisMissing index]

section Roles

open Obligation

variable {d : Check → List Violation} {f : Node → List Violation}

theorem faults_own {ks : List Check} :
    (ks.map .own).flatMap (faults d f) = ks.flatMap (·.presenceFaults) := by
  simp only [List.flatMap_map, faults]

theorem faults_identity {x : Identity} :
    x.obligations.flatMap (faults d f) = x.checks.flatMap d := by
  simp only [Identity.obligations, List.flatMap_map, faults]

theorem faults_ofOption {α : Type} {x : Option α} {node : α → Node} :
    (ofOption x node).flatMap (faults d f) = (Stop.ofOption x node).flatMap (Stop.faults f) := by
  simp only [ofOption, Stop.ofOption, List.flatMap_map, faults, Stop.faults]

/-- What an object's obligations bring to light, in this order: what its identity is checked for,
its own faults, and what is found at its stops. -/
def Node.FaultsInOrder (d : Check → List Violation) (f : Node → List Violation) (n : Node) : Prop :=
  n.obligations.flatMap (faults d f) =
    n.identity.checks.flatMap d ++ n.presenceFaults ++ n.stops.flatMap (Stop.faults f)

theorem Node.faultsInOrder_of_append {n : Node} {os : List Obligation}
    (ho : n.obligations = n.identity.obligations ++ os)
    (hos : os.flatMap (faults d f) = n.presenceFaults ++ n.stops.flatMap (Stop.faults f)) :
    n.FaultsInOrder d f := by
  rw [FaultsInOrder, ho, List.flatMap_append, faults_identity, hos, List.append_assoc]

theorem Axis.faultsInOrder (x : Axis) : (Node.axis x).FaultsInOrder d f := by
  apply Node.faultsInOrder_of_append rfl
  rw [faults_own, ownChecks, List.flatMap_append]
  by_cases hb : x.minimum.isFinite = true ∨ x.maximum.isFinite = true <;>
    simp [Node.presenceFaults, Node.stops, isBounded, hb]

theorem CoordinateSystem.faultsInOrder (x : CoordinateSystem) :
    (Node.coordinateSystem x).FaultsInOrder d f := by
  have haxis (a : Option Axis) (index : Nat) :
      (axisObligations a index).flatMap (faults d f) = (Stop.ofAxis a index).faults f := by
    cases a <;> simp [axisObligations, ofOption, Stop.ofAxis, Stop.faults, faults, lacking]
  have hlast : (if x.kind.perpendicularAxes then [own (.perpendicular x.directions)]
      else []).flatMap (faults d f) = [] := by
    cases x.kind.perpendicularAxes <;> rfl
  apply Node.faultsInOrder_of_append
  · rw [Node.obligations, obligations, List.append_assoc, List.append_assoc]
    rfl
  · simp only [List.flatMap_append, zipIdx_axes, List.flatMap_map, List.flatMap_assoc, haxis,
      hlast, List.append_nil, Node.stops]
    rfl

theorem Ellipsoid.faultsInOrder (x : Ellipsoid) : (Node.ellipsoid x).FaultsInOrder d f := by
  have haxes : x.axisChecks.flatMap (·.presenceFaults) = [] := rfl
  have hshape : x.flatteningChecks.flatMap (·.presenceFaults) = [] := by
    simp only [flatteningChecks]
    cases x.isSphere <;> cases x.flatteningDefinitive <;> rfl
  apply Node.faultsInOrder_of_append rfl
  simp only [faults_own, List.flatMap_cons, List.flatMap_append, haxes, hshape,
    Check.presenceFaults_require_option, Node.presenceFaults, Node.stops, List.flatMap_nil,
    List.append_nil]

theorem PrimeMeridian.faultsInOrder (x : PrimeMeridian) :
    (Node.primeMeridian x).FaultsInOrder d f := by
  apply Node.faultsInOrder_of_append rfl
  simp [faults, Node.presenceFaults, Node.stops]

theorem Parameter.faults_memberObligations (seen : List String) (xs : List Parameter) :
    (memberObligations seen xs).flatMap (faults d f) = xs.flatMap fun x => f (.parameter x) := by
  induction xs generalizing seen with
  | nil => rfl
  | cons x xs ih => cases h : x.identity.code <;> simp [memberObligations, faults, h, ih]

theorem Parameter.faultsInOrder (x : Parameter) : (Node.parameter x).FaultsInOrder d f := by
  apply Node.faultsInOrder_of_append
  · rw [Node.obligations, obligations, List.append_assoc]
    rfl
  · simp [faults_memberObligations, faults, Node.presenceFaults, Node.stops, Stop.faults,
      List.flatMap_map]

/-- The steps are looked for after they have been visited, which makes no difference: either there
are none to visit or there is no fault. -/
theorem Operation.faults_stepObligations (x : Operation) :
    x.stepObligations.flatMap (faults d f) =
      lacking x.steps.head? (.emptyCollection "step") ++
        x.steps.flatMap fun step => f (.operation step) := by
  cases hs : x.steps <;> simp [stepObligations, hs, faults, lacking, List.flatMap_map]

theorem Crs.faultsInOrder (x : Crs) : (Node.crs x).FaultsInOrder d f := by
  have hsystem (s : CoordinateSystem) :
      (systemObligations x.kind s).flatMap (faults d f) = f (.coordinateSystem s) := by
    have hvalues : (systemChecks x.kind s).flatMap (·.presenceFaults) = [] := by
      apply List.flatMap_eq_nil_iff.mpr
      intro k hk
      obtain ⟨holds, v, rfl⟩ := exists_ensure_of_mem_systemChecks hk
      rfl
    rw [systemObligations, List.flatMap_cons, faults_own, hvalues, List.append_nil, faults]
  have hdatum (y : Datum) :
      (datumObligations x.kind y).flatMap (faults d f) = f (.datum y) := by
    have hvalues : (datumChecks x.kind y).flatMap (·.presenceFaults) = [] := by
      apply List.flatMap_eq_nil_iff.mpr
      intro k hk
      obtain ⟨holds, v, rfl⟩ := exists_ensure_of_mem_datumChecks hk
      rfl
    rw [datumObligations, List.flatMap_cons, faults_own, hvalues, List.append_nil, faults]
  apply Node.faultsInOrder_of_append rfl
  by_cases hk : x.kind = .compound
  · simp [hk, compoundObligations, faults, faults_ofOption, Node.presenceFaults, Node.stops,
      Stop.faults, List.flatMap_map]
  · simp [hk, singleObligations, faults, hsystem, hdatum, Node.presenceFaults, Node.stops,
      Stop.ofOption, Stop.faults, List.flatMap_map, List.flatMap_assoc]

variable (hd : ∀ holds v, d (.ensure holds v) = [])
include hd

theorem faults_optional_text {x : Option String} {property : String} :
    (x.toList.map fun text => delegated (.notBlank property text)).flatMap (faults d f) = [] := by
  cases x with
  | none => rfl
  | some text => simp [faults, Check.notBlank, hd]

theorem Datum.faultsInOrder (x : Datum) : (Node.datum x).FaultsInOrder d f := by
  apply Node.faultsInOrder_of_append
  · rw [Node.obligations, obligations, List.append_assoc]
    rfl
  · rw [List.flatMap_append, faults_optional_text hd, List.nil_append]
    by_cases hk : x.kind = .geodetic <;>
      simp [hk, faults, faults_ofOption, Node.presenceFaults, Node.stops]

theorem OperationMethod.faultsInOrder (x : OperationMethod) :
    (Node.method x).FaultsInOrder d f := by
  apply Node.faultsInOrder_of_append rfl
  simp [faults, faults_optional_text hd, faults_ofOption, Node.presenceFaults, Node.stops]

theorem Operation.faultsInOrder (x : Operation) : (Node.operation x).FaultsInOrder d f := by
  apply Node.faultsInOrder_of_append
  · rw [Node.obligations, obligations]
    simp only [List.append_assoc]
    rfl
  · simp only [List.flatMap_append, faults_optional_text hd, faults_ofOption]
    cases hk : x.kind <;>
      simp [kindObligations, hk, faults, faults_stepObligations, Node.presenceFaults, Node.stops,
        Stop.faults, List.flatMap_map]

theorem Node.faultsInOrder (n : Node) : n.FaultsInOrder d f := by
  cases n with
  | crs x => exact x.faultsInOrder
  | coordinateSystem x => exact x.faultsInOrder
  | axis x => exact x.faultsInOrder
  | datum x => exact x.faultsInOrder hd
  | ellipsoid x => exact x.faultsInOrder
  | primeMeridian x => exact x.faultsInOrder
  | parameter x => exact x.faultsInOrder
  | operation x => exact x.faultsInOrder hd
  | method x => exact x.faultsInOrder hd

end Roles

def Stop.presenceFaults : Stop → List Violation
  | object n => n.identity.presenceFaults ++ n.presenceFaults
  | missingAxis index => [.axisMissing index]

/-- The faults that the checks of a whole visit find are those of its itinerary. -/
theorem Node.flatMap_checks (n : Node) :
    n.checks.flatMap (·.presenceFaults) = n.itinerary.flatMap (·.presenceFaults) := by
  have hone (o : Obligation) (ho : o ∈ n.obligations) : o.checks.flatMap (·.presenceFaults) =
      o.faults Check.presenceFaults fun m => m.itinerary.flatMap (·.presenceFaults) := by
    cases o with
    | own k => simp [Obligation.checks, Obligation.faults]
    | delegated k => simp [Obligation.checks, Obligation.faults]
    | visit m =>
      have := sizeOf_lt_of_visit ho
      exact m.flatMap_checks
  have hstop (s : Stop) : s.itinerary.flatMap (·.presenceFaults) =
      s.faults fun m => m.itinerary.flatMap (·.presenceFaults) := by
    cases s with
    | object m => rfl
    | missingAxis index => rfl
  have horder : n.FaultsInOrder Check.presenceFaults
      fun m => m.itinerary.flatMap (·.presenceFaults) :=
    n.faultsInOrder fun _ _ => rfl
  have hchecks : n.checks.flatMap (·.presenceFaults) = n.obligations.flatMap
      (Obligation.faults Check.presenceFaults fun m => m.itinerary.flatMap (·.presenceFaults)) := by
    rw [checks_eq, List.flatMap_assoc]
    exact List.flatMap_congr hone
  calc n.checks.flatMap (·.presenceFaults)
      = n.identity.presenceFaults ++ n.presenceFaults ++
          n.stops.flatMap (Stop.faults fun m => m.itinerary.flatMap (·.presenceFaults)) := by
        rw [hchecks, horder, Identity.flatMap_checks]
    _ = n.itinerary.flatMap (·.presenceFaults) := by
        rw [itinerary_eq, List.flatMap_cons, List.flatMap_assoc]
        simp only [hstop]
        rfl
termination_by sizeOf n

section Lenient

variable {c : Config} (hm : c.requireMandatory = false) (hf : c.enforceForbidden = false)
include hm hf

theorem Check.log_run_of_lenient (k : Check) : (k.run c).log = k.presenceFaults.map .warn := by
  cases k with
  | mandatory absent v => cases absent <;> simp [run, hm, presenceFaults, presenceFault?, Run.warn]
  | forbidden absent v => cases absent <;> simp [run, hf, presenceFaults, presenceFault?, Run.warn]
  | ensure holds v => cases holds <;> rfl
  | agree x y v =>
    simp only [run]
    split <;> rfl
  | perpendicular ds => rfl

theorem Check.log_runAll_of_lenient {ks : List Check} (h : (runAll c ks).succeeds = true) :
    (runAll c ks).log = (ks.flatMap (·.presenceFaults)).map .warn := by
  have hpass : ∀ k ∈ ks, (k.run c).succeeds = true := runAll_succeeds.mp h
  rw [runAll, Run.forM_of_succeeds hpass, List.map_flatMap]
  simp only [log_run_of_lenient hm hf]

end Lenient

def Target.presenceFaults : Target → List Violation
  | node n => n.itinerary.flatMap (·.presenceFaults)
  | identity x => x.presenceFaults
  | domain x => x.presenceFaults
  | identifier x => x.presenceFaults
  | extent x => x.presenceFaults

theorem Target.flatMap_checks (t : Target) :
    t.checks.flatMap (·.presenceFaults) = t.presenceFaults := by
  cases t with
  | node n => exact n.flatMap_checks
  | identity x => exact x.flatMap_checks
  | domain x => exact x.flatMap_checks
  | identifier x => exact x.flatMap_checks
  | extent x => exact x.flatMap_checks

/-- A lenient validation loses no fault of presence and reports none twice. When it succeeds, its
log is the list of the faults of what it was given and, through the itinerary, of every object that
it came to: in depth, one visit after the other, with those of an object before those of the objects
that it refers to. The itinerary comes to the objects that are reached and to no other. -/
theorem lenient_log_lists_presence_faults {c : Config} {t : Target}
    (hm : c.requireMandatory = false) (hf : c.enforceForbidden = false)
    (h : (t.validate c).succeeds = true) :
    (t.validate c).log = t.presenceFaults.map .warn ∧
      ∀ n m : Node, .object m ∈ n.itinerary ↔ n.Reaches m := by
  constructor
  · rw [← t.flatMap_checks]
    exact Check.log_runAll_of_lenient hm hf h
  · intro n m
    exact ⟨Node.reaches_of_mem_itinerary, Node.mem_itinerary_of_reaches⟩

section Crossing

/-- A system without a datum, whose first axis has no unit and whose second axis is missing. -/
def looseSystem : Crs where
  identity := { name := some (.ofCode "Loose") }
  kind := .geographic
  coordinateSystem := some {
    identity := { name := some (.ofCode "Loose axes") }
    kind := .ellipsoidal
    listed := [some {
      identity := { name := some (.ofCode "Longitude") }
      abbreviation := some "l", direction := some .east, minimum := 0 }]
    dimension := 2 }

def looseShift : Operation where
  identity := { name := some (.ofCode "Shift"), identifiers := [{}] }
  kind := .transformation
  source := some looseSystem
  target := some looseSystem

def looseCrossing : Operation where
  identity := {}
  kind := .concatenated
  steps := [looseShift, looseShift]

theorem lenient_log_of_looseCrossing :
    Config.lenient.requireMandatory = false ∧ Config.lenient.enforceForbidden = false ∧
      ((Target.node (.operation looseCrossing)).validate .lenient).succeeds = true ∧
      ((Target.node (.operation looseCrossing)).validate .lenient).log =
        (Target.node (.operation looseCrossing)).presenceFaults.map .warn ∧
      ∀ n m : Node, .object m ∈ n.itinerary ↔ n.Reaches m := by
  have haccepted :
      ((Target.node (.operation looseCrossing)).validate .lenient).succeeds = true := by
    decide +kernel
  exact ⟨rfl, rfl, haccepted, lenient_log_lists_presence_faults rfl rfl haccepted⟩

def looseSystemFaults : List Violation :=
  [.crsWithoutDatum, .axisWithoutUnit, .axisRangeUnexplained, .axisMissing 1]

example : (Target.node (.operation looseCrossing)).presenceFaults =
    .unnamedObject :: (List.replicate 2
      ([.identifierWithoutCode, .transformationWithoutVersion, .transformationWithoutMethod] ++
        looseSystemFaults ++ looseSystemFaults)).flatten := by
  decide +kernel

end Crossing

end GeoConformance
