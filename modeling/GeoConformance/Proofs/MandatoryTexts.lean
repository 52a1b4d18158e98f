import GeoConformance.Proofs.VisitedGraph

/-! The texts that an object must have, after a strict validation has accepted it. Some are read:
each of them has a character that is not white space. The others, abbreviations and units, are only
looked for: they are there, and can be blank. -/
namespace GeoConformance

def Given (text : Option String) : Prop :=
  ∃ t ∈ text, NotBlank t

theorem given_of_present {text : Option String} (hs : text.isSome = true)
    (hb : ∀ t ∈ text, NotBlank t) : Given text := by
  obtain ⟨t, ht⟩ := Option.isSome_iff_exists.mp hs
  exact ⟨t, ht, hb t ht⟩

def Identity.mandatoryTexts (x : Identity) : List (Option String) :=
  x.code :: (x.identifiers.map (·.code) ++ x.domains.map (·.scope))

namespace Node

/-- The texts that an object must have in its role and that a validation reads. -/
def readTexts : Node → List (Option String)
  | operation x => if x.kind = .transformation then [x.version] else []
  | method x => [x.formula]
  | crs _ | coordinateSystem _ | axis _ | datum _ | ellipsoid _ | primeMeridian _ => []
  | parameter _ => []

/-- Those that an object must have in its role and that a validation only looks for. -/
def unreadTexts : Node → List (Option String)
  | axis x => [x.abbreviation, x.unit]
  | ellipsoid x => [x.unit]
  | primeMeridian x => [x.unit]
  | crs _ | coordinateSystem _ | datum _ | parameter _ | operation _ | method _ => []

end Node

section Accepted

variable {c : Config}

theorem Identifier.given_code (hc : c.requireMandatory = true) {x : Identifier}
    (h : x.Conforms c) : Given x.code :=
  given_of_present (h.code hc) h.codeText

theorem ObjectDomain.given_scope (hc : c.requireMandatory = true) {x : ObjectDomain}
    (h : x.Conforms c) : Given x.scope :=
  given_of_present (h.scope hc) h.scopeText

theorem Identity.given_of_mem_mandatoryTexts (hc : c.requireMandatory = true) {x : Identity}
    (h : x.Conforms c) : ∀ text ∈ x.mandatoryTexts, Given text := by
  intro text ht
  obtain rfl | ht := List.mem_cons.mp ht
  · obtain ⟨name, hname⟩ := Option.isSome_iff_exists.mp (h.name hc)
    have hcode : x.code = name.code := by simp [Identity.code, hname]
    rw [hcode]
    exact Identifier.given_code hc (h.nameIdentifier name hname)
  obtain ht | ht := List.mem_append.mp ht
  · obtain ⟨i, hi, rfl⟩ := List.mem_map.mp ht
    exact Identifier.given_code hc (h.identifiers i hi)
  · obtain ⟨d, hd, rfl⟩ := List.mem_map.mp ht
    exact ObjectDomain.given_scope hc (h.domains d hd)

theorem Node.given_of_mem_readTexts (hc : c.requireMandatory = true) {n : Node}
    (h : n.Conforms c) : ∀ text ∈ n.readTexts, Given text := by
  intro text ht
  cases n with
  | operation x =>
    obtain ⟨hk, rfl⟩ : x.kind = .transformation ∧ text = x.version := by
      simpa [readTexts] using ht
    have hversion : x.version.isSome = true := (h.transformation hk hc).2.2.1
    exact given_of_present hversion h.versionText
  | method x =>
    obtain rfl : text = x.formula := List.mem_singleton.mp ht
    exact given_of_present (h.formula hc) h.formulaText
  | axis x => cases ht
  | ellipsoid x => cases ht
  | primeMeridian x => cases ht
  | crs x => cases ht
  | coordinateSystem x => cases ht
  | datum x => cases ht
  | parameter x => cases ht

theorem Node.present_of_mem_unreadTexts (hc : c.requireMandatory = true) {n : Node}
    (h : n.Conforms c) : ∀ text ∈ n.unreadTexts, text.isSome = true := by
  intro text ht
  cases n with
  | axis x =>
    obtain rfl | rfl : text = x.abbreviation ∨ text = x.unit := by
      simpa [unreadTexts] using ht
    · exact h.abbreviation hc
    · exact h.unit hc
  | ellipsoid x =>
    obtain rfl : text = x.unit := List.mem_singleton.mp ht
    exact h.unit hc
  | primeMeridian x =>
    obtain rfl : text = x.unit := List.mem_singleton.mp ht
    exact h.unit hc
  | operation x => cases ht
  | method x => cases ht
  | crs x => cases ht
  | coordinateSystem x => cases ht
  | datum x => cases ht
  | parameter x => cases ht

end Accepted

namespace Target

def HasReadText : Target → Option String → Prop
  | node n, text =>
    ∃ m, n.Reaches m ∧ (text ∈ m.identity.mandatoryTexts ∨ text ∈ m.readTexts)
  | identity x, text => text ∈ x.mandatoryTexts
  | domain x, text => text = x.scope
  | identifier x, text => text = x.code
  | extent _, _ => False

def HasUnreadText : Target → Option String → Prop
  | node n, text => ∃ m, n.Reaches m ∧ text ∈ m.unreadTexts
  | identity _, _ | domain _, _ | identifier _, _ | extent _, _ => False

/-- A text that must be there somewhere in what a validation comes to. -/
def HasMandatoryText (t : Target) (text : Option String) : Prop :=
  t.HasReadText text ∨ t.HasUnreadText text

variable {c : Config} {t : Target} {text : Option String}

theorem given_of_hasReadText (hc : c.requireMandatory = true)
    (h : (t.validate c).succeeds = true) (ht : t.HasReadText text) : Given text := by
  cases t with
  | node n =>
    obtain ⟨m, hm, ht⟩ := ht
    have hconforms : m.Conforms c := Node.conforms_of_reaches hm h
    obtain ht | ht := ht
    · exact Identity.given_of_mem_mandatoryTexts hc (Node.identity_conforms hconforms) text ht
    · exact Node.given_of_mem_readTexts hc hconforms text ht
  | identity x =>
    have hconforms : x.Conforms c := Identity.checks_pass_iff.mp (Check.runAll_succeeds.mp h)
    exact Identity.given_of_mem_mandatoryTexts hc hconforms text ht
  | domain x =>
    obtain rfl : text = x.scope := ht
    have hconforms : x.Conforms c := ObjectDomain.checks_pass_iff.mp (Check.runAll_succeeds.mp h)
    exact ObjectDomain.given_scope hc hconforms
  | identifier x =>
    obtain rfl : text = x.code := ht
    have hconforms : x.Conforms c := Identifier.checks_pass_iff.mp (Check.runAll_succeeds.mp h)
    exact Identifier.given_code hc hconforms
  | extent x => exact ht.elim

theorem present_of_hasUnreadText (hc : c.requireMandatory = true)
    (h : (t.validate c).succeeds = true) (ht : t.HasUnreadText text) : text.isSome = true := by
  cases t with
  | node n =>
    obtain ⟨m, hm, ht⟩ := ht
    exact Node.present_of_mem_unreadTexts hc (Node.conforms_of_reaches hm h) text ht
  | identity x => exact ht.elim
  | domain x => exact ht.elim
  | identifier x => exact ht.elim
  | extent x => exact ht.elim

end Target

/-- After a strict validation, on every object that was visited, each mandatory text that is read is
given and each of the others is there: so none is blank exactly when no abbreviation and no unit
is. -/
theorem mandatory_texts_given_iff_unread_given {c : Config} {t : Target}
    (h : (t.validate c.strict).succeeds = true) :
    (∀ text, t.HasReadText text → Given text) ∧
    (∀ text, t.HasUnreadText text → text.isSome = true) ∧
    ((∀ text, t.HasMandatoryText text → Given text) ↔
      ∀ text, t.HasUnreadText text → Given text) := by
  have hread : ∀ text, t.HasReadText text → Given text := by
    intro text ht
    exact Target.given_of_hasReadText rfl h ht
  refine ⟨hread, ?_, ?_⟩
  · intro text ht
    exact Target.present_of_hasUnreadText rfl h ht
  · constructor
    · intro hgiven text ht
      exact hgiven text (.inr ht)
    · intro hunread text ht
      cases ht with
      | inl ht => exact hread text ht
      | inr ht => exact hunread text ht

def eastAxis (abbreviation unit : String) : Axis where
  identity := { name := some (.ofCode "Easting") }
  abbreviation := some abbreviation
  direction := some .east
  unit := some unit

theorem mandatory_texts_of_eastAxis_given :
    ((Target.node (.axis (eastAxis "E" "metre"))).validate (Config.strict {})).succeeds = true ∧
      (∀ text, (Target.node (.axis (eastAxis "E" "metre"))).HasReadText text → Given text) ∧
      (∀ text, (Target.node (.axis (eastAxis "E" "metre"))).HasUnreadText text →
        text.isSome = true) ∧
      ((∀ text, (Target.node (.axis (eastAxis "E" "metre"))).HasMandatoryText text →
          Given text) ↔
        ∀ text, (Target.node (.axis (eastAxis "E" "metre"))).HasUnreadText text →
          Given text) := by
  have haccepted : ((Target.node (.axis (eastAxis "E" "metre"))).validate
      (Config.strict {})).succeeds = true := by
    decide +kernel
  exact ⟨haccepted, mandatory_texts_given_iff_unread_given haccepted⟩

/-- A strict validation accepts an axis with an empty abbreviation. -/
theorem empty_abbreviation_accepted :
    (Target.node (.axis (eastAxis "" "metre"))).validate (Config.strict {}) = ⟨[], .ok ()⟩ ∧
      (Target.node (.axis (eastAxis "" "metre"))).HasMandatoryText (some "") ∧
      ¬Given (some "") := by
  refine ⟨?_, ?_, ?_⟩
  · decide +kernel
  · exact .inr ⟨_, .refl, List.mem_cons_self ..⟩
  · rintro ⟨text, ht, ch, hch, -⟩
    obtain rfl : "" = text := Option.some.inj ht
    simp at hch

end GeoConformance
