import GeoConformance.Proofs.PresenceFaults

/-! A validator with a configuration of its own. That configuration decides what becomes of the
presence faults of the object that the validator is given and of nothing else: where there are none
it has no say, and the objects referred to are accepted as the shared configuration has it. -/
namespace GeoConformance

theorem Check.run_eq_of_presenceFaults_eq_nil {v v' : Config} {k : Check}
    (hk : k.presenceFaults = []) (ht : v.ellipsoidTolerance = v'.ellipsoidTolerance) :
    k.run v = k.run v' := by
  cases k with
  | mandatory absent violation =>
    cases absent with
    | false => rfl
    | true => cases hk
  | forbidden absent violation =>
    cases absent with
    | false => cases hk
    | true => rfl
  | ensure holds violation => rfl
  | agree x y violation => simp only [run, ht]
  | perpendicular ds => rfl

namespace Node

/-- All that an object must have in its role is there, every axis of a coordinate system included,
and nothing that it must not have. -/
def PresenceMet (n : Node) : Prop :=
  n.presenceFaults = [] ∧ ∀ index, .missingAxis index ∉ n.stops

variable {n : Node}

theorem presenceFaults_eq_nil_of_own (h : n.PresenceMet) {k : Check}
    (hk : .own k ∈ n.obligations) : k.presenceFaults = [] := by
  have hstops : n.stops.flatMap (Stop.faults fun _ => []) = [] := by
    apply List.flatMap_eq_nil_iff.mpr
    intro stop hstop
    cases stop with
    | object m => rfl
    | missingAxis index => exact absurd hstop (h.2 index)
  have hidentity : n.identity.checks.flatMap (fun _ => ([] : List Violation)) = [] :=
    List.flatMap_eq_nil_iff.mpr fun _ _ => rfl
  have horder : n.FaultsInOrder (fun _ => []) fun _ => [] := n.faultsInOrder fun _ _ => rfl
  rw [FaultsInOrder, hidentity, h.1, hstops] at horder
  exact List.flatMap_eq_nil_iff.mp horder _ hk

theorem validateWith_congr {c v v' : Config} (ht : v.ellipsoidTolerance = v'.ellipsoidTolerance)
    (h : n.PresenceMet) : n.validateWith v c = n.validateWith v' c := by
  apply Run.congruence_eq.forM
  intro o ho
  cases o with
  | own k =>
    have hk : k.presenceFaults = [] := presenceFaults_eq_nil_of_own h ho
    exact Check.run_eq_of_presenceFaults_eq_nil hk ht
  | delegated k => rfl
  | visit m => rfl

theorem validate_succeeds_of_validateWith {c v : Config}
    (h : (n.validateWith v c).succeeds = true) {m : Node} (hm : n.Refers m) :
    (m.validate c).succeeds = true := by
  have hall : ∀ o ∈ n.obligations, (o.run v c).succeeds = true := Run.forM_succeeds_iff.mp h
  exact hall _ (visit_mem_obligations_iff.mpr hm)

end Node

/-- The configuration of a validator on its own governs the own checks of the object that it is
given. When nothing is wrong with what these look for, two such validators of the same tolerance
run alike, logs included; and whatever its configuration, when the validator accepts the object,
the shared configuration accepts every object referred to. -/
theorem own_configuration_governs_own_checks (c : Config) (n : Node) :
    (∀ v v' : Config, v.ellipsoidTolerance = v'.ellipsoidTolerance → n.PresenceMet →
      n.validateWith v c = n.validateWith v' c) ∧
    ∀ v : Config, (n.validateWith v c).succeeds = true →
      ∀ m, n.Refers m → (m.validate c).succeeds = true := by
  constructor
  · intro v v' ht h
    exact Node.validateWith_congr ht h
  · intro v h m hm
    exact Node.validate_succeeds_of_validateWith h hm

/-- The loose crossing has the steps that it must have; what is wrong with them is for the shared
configuration to say, and a strict validator of its own agrees with a lenient one. -/
theorem own_configurations_agree_on_looseCrossing :
    (Node.operation looseCrossing).PresenceMet ∧
      (Node.operation looseCrossing).validateWith {} .lenient =
        (Node.operation looseCrossing).validateWith .lenient .lenient ∧
      ((Node.operation looseCrossing).validateWith {} .lenient).succeeds = true ∧
      ((Node.operation looseShift).validate .lenient).succeeds = true := by
  have hmet : (Node.operation looseCrossing).PresenceMet := by
    refine ⟨rfl, fun index h => ?_⟩
    simp [Node.stops, looseCrossing, Stop.ofOption] at h
  have haccepted : ((Node.operation looseCrossing).validateWith {} .lenient).succeeds = true := by
    decide +kernel
  have hstep : (Node.operation looseCrossing).Refers (.operation looseShift) :=
    .step (.inl rfl) List.mem_cons_self
  obtain ⟨hagree, hrefers⟩ :=
    own_configuration_governs_own_checks .lenient (.operation looseCrossing)
  exact ⟨hmet, hagree {} .lenient rfl hmet, haccepted, hrefers {} haccepted _ hstep⟩

end GeoConformance
