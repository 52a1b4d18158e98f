import GeoConformance.Proofs.VisitedGraph

/-! What the acceptance of a coordinate reference system says of the objects attached to it and to
the systems that it is made of. They are accepted as well, but for the datums of compound systems,
which no validation looks at. -/
namespace GeoConformance
namespace Crs

def HasComponent (x y : Crs) : Prop :=
  x.kind = .compound ∧ y ∈ x.components

/-- The systems that a system is made of at any depth, itself included. -/
def Comprises : Crs → Crs → Prop :=
  Relation.ReflTransGen HasComponent

/-- What is attached to a system is accepted on its own, the datum of a compound one aside. -/
structure AttachmentsAccepted (c : Config) (x : Crs) : Prop where
  system : ∀ s ∈ x.coordinateSystem, ((Node.coordinateSystem s).validate c).succeeds = true
  datum : x.kind ≠ .compound → ∀ d ∈ x.datum, ((Node.datum d).validate c).succeeds = true
  components : x.kind = .compound → ∀ y ∈ x.components, ((Node.crs y).validate c).succeeds = true

variable {c : Config} {x y : Crs}

theorem reaches_of_comprises (h : x.Comprises y) : (Node.crs x).Reaches (.crs y) := by
  induction h with
  | refl => exact .refl
  | tail _ hstep ih => exact ih.tail (.component hstep.1 hstep.2)

theorem attachmentsAccepted_of_succeeds (h : ((Node.crs x).validate c).succeeds = true) :
    x.AttachmentsAccepted c := by
  have hrefers : ∀ m, (Node.crs x).Refers m → (m.validate c).succeeds = true :=
    (Node.validate_succeeds_iff_refers.mp h).2
  constructor
  · intro s hs
    exact hrefers _ (.system hs)
  · intro hk d hd
    exact hrefers _ (.datum hk hd)
  · intro hk y hy
    exact hrefers _ (.component hk hy)

theorem validate_compound_with_datum (h : x.kind = .compound) (d : Option Datum) :
    (Node.crs { x with datum := d }).validate c = (Node.crs x).validate c := by
  have hobligations : (Node.crs { x with datum := d }).obligations = (Node.crs x).obligations := by
    simp only [Node.obligations, obligations, h, if_true, compoundObligations]
  simp only [Node.validate, Node.checks_eq, hobligations]

end Crs

/-- In an accepted system, at any depth of components, everything attached is accepted on its own,
but for the datums of the compound systems: these have no part in a run. -/
theorem attachments_accepted_except_compound_datums {c : Config} {x : Crs}
    (h : ((Node.crs x).validate c).succeeds = true) :
    ∀ y, x.Comprises y → y.AttachmentsAccepted c ∧
      (y.kind = .compound →
        ∀ d, (Node.crs { y with datum := d }).validate c = (Node.crs y).validate c) := by
  intro y hy
  have haccepted : ((Node.crs y).validate c).succeeds = true :=
    Node.validate_succeeds_of_reaches (Crs.reaches_of_comprises hy) h
  exact ⟨Crs.attachmentsAccepted_of_succeeds haccepted, Crs.validate_compound_with_datum⟩

section Site

def Identity.named (code : String) : Identity :=
  { name := some (.ofCode code) }

def siteSystem : Crs where
  identity := .named "Site"
  kind := .engineering
  coordinateSystem := some {
    identity := .named "Site line", kind := .linear
    listed := [some {
      identity := .named "Distance", abbreviation := some "d", direction := some .awayFrom
      unit := some "metre" }] }
  datum := some { identity := .named "Site mark", kind := .engineering }

def compoundSite (datum : Datum) : Crs where
  identity := .named "Site and site"
  kind := .compound
  datum := some datum
  components := [siteSystem, siteSystem]

def siteDatum : Datum :=
  { identity := .named "Site mark", kind := .engineering }

def unnamedDatum : Datum :=
  { identity := {}, kind := .engineering }

theorem attachments_of_compoundSite_accepted :
    ((Node.crs (compoundSite siteDatum)).validate {}).succeeds = true ∧
      ∀ y, (compoundSite siteDatum).Comprises y → y.AttachmentsAccepted {} ∧
        (y.kind = .compound →
          ∀ d, (Node.crs { y with datum := d }).validate {} = (Node.crs y).validate {}) := by
  have haccepted : ((Node.crs (compoundSite siteDatum)).validate {}).succeeds = true := by
    decide +kernel
  exact ⟨haccepted, attachments_accepted_except_compound_datums haccepted⟩

/-- A compound system is accepted with a datum that is not: the datum lacks a name. -/
theorem unnamedDatum_escapes_in_compoundSite :
    (Node.crs (compoundSite unnamedDatum)).validate {} = ⟨[], .ok ()⟩ ∧
      unnamedDatum ∈ (compoundSite unnamedDatum).datum ∧
      (Node.datum unnamedDatum).validate {} =
        ⟨[], .error (.missingRequiredField .unnamedObject)⟩ := by
  refine ⟨?_, rfl, ?_⟩
  · decide +kernel
  · decide +kernel

end Site

end GeoConformance
