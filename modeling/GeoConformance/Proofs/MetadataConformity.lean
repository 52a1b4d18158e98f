import GeoConformance.MetadataRules

/-! When a single check passes, and what metadata values have to be like for all of their checks to
pass. The conditions are put in terms of the values themselves; those of presence bind only under a
configuration that enforces them. -/
namespace GeoConformance

/-- Text with a character that is not white space. -/
def NotBlank (text : String) : Prop :=
  ∃ ch ∈ text.toList, isWhiteSpace ch = false

theorem forall_mem_flatMap_toList {α β : Type} {P : β → Prop} {x : Option α} {f : α → List β} :
    (∀ b ∈ x.toList.flatMap f, P b) ↔ ∀ a ∈ x, ∀ b ∈ f a, P b := by
  cases x <;> simp

namespace Check

variable {α : Type} {c : Config} {v : Violation}

@[simp] theorem passes_mandatory {absent : Bool} :
    (mandatory absent v).passes c = true ↔ (c.requireMandatory = true → absent = false) := by
  cases absent <;> cases h : c.requireMandatory <;>
    simp [passes, run, h, Run.succeeds, Run.fail, Run.warn, Run.tell, Except.toBool]

@[simp] theorem passes_forbidden {absent : Bool} :
    (forbidden absent v).passes c = true ↔ (c.enforceForbidden = true → absent = true) := by
  cases absent <;> cases h : c.enforceForbidden <;>
    simp [passes, run, h, Run.succeeds, Run.fail, Run.warn, Run.tell, Except.toBool]

@[simp] theorem passes_ensure {holds : Bool} :
    (ensure holds v).passes c = true ↔ holds = true := by
  cases holds <;> simp [passes, run, Run.succeeds, Run.fail, Except.toBool]

@[simp] theorem passes_agree {x y : Float} :
    (agree x y v).passes c = true ↔ agreeWithin c.ellipsoidTolerance x y = true := by
  cases h : agreeWithin c.ellipsoidTolerance x y <;>
    simp [passes, run, h, Run.succeeds, Run.fail, Except.toBool]

@[simp] theorem passes_perpendicular {directions : List AxisDirection} :
    (perpendicular directions).passes c = true ↔ checkPerpendicular directions = .ok () := by
  cases h : checkPerpendicular directions <;>
    simp [passes, run, h, Run.succeeds, Run.ofExcept, Except.toBool]

@[simp] theorem passes_require_option {x : Option α} :
    (require x v).passes c = true ↔ (c.requireMandatory = true → x.isSome = true) := by
  cases x <;> simp [require, Presence.isAbsent]

@[simp] theorem passes_require_list {xs : List α} :
    (require xs v).passes c = true ↔ (c.requireMandatory = true → xs ≠ []) := by
  cases xs <;> simp [require, Presence.isAbsent]

@[simp] theorem passes_forbid_option {x : Option α} :
    (forbid x v).passes c = true ↔ (c.enforceForbidden = true → x = none) := by
  cases x <;> simp [forbid, Presence.isAbsent]

@[simp] theorem passes_notBlank {property text : String} :
    (notBlank property text).passes c = true ↔ NotBlank text := by
  simp [notBlank, NotBlank, isBlank_eq_false_iff]

theorem forall_mem_optional_text {x : Option String} {property : String} :
    (∀ k ∈ x.toList.map (notBlank property), k.passes c = true) ↔ ∀ t ∈ x, NotBlank t := by
  cases x <;> simp

theorem forall_mem_forEvery {property : String} {items : List α} {f : α → List Check} :
    (∀ k ∈ forEvery property items false f, k.passes c = true) ↔
      ∀ a ∈ items, ∀ k ∈ f a, k.passes c = true := by
  simp only [forEvery, Bool.false_eq_true, if_false, List.append_nil, List.mem_flatMap]
  constructor
  · intro h a ha k hk
    exact h k ⟨a, ha, hk⟩
  · rintro h k ⟨a, ha, hk⟩
    exact h a ha k hk

end Check

structure Identifier.Conforms (c : Config) (x : Identifier) : Prop where
  code : c.requireMandatory = true → x.code.isSome = true
  codeText : ∀ t ∈ x.code, NotBlank t
  codeSpaceText : ∀ t ∈ x.codeSpace, NotBlank t

theorem Identifier.checks_pass_iff {c : Config} {x : Identifier} :
    (∀ k ∈ x.checks, k.passes c = true) ↔ x.Conforms c := by
  simp only [checks, List.forall_mem_cons, List.forall_mem_append, Check.passes_require_option,
    Check.forall_mem_optional_text]
  constructor
  · rintro ⟨code, codeText, codeSpaceText⟩
    exact ⟨code, codeText, codeSpaceText⟩
  · intro h
    exact ⟨h.code, h.codeText, h.codeSpaceText⟩

structure GeographicBoundingBox.Conforms (x : GeographicBoundingBox) : Prop where
  west : -180 ≤ x.west ∧ x.west ≤ 180
  east : -180 ≤ x.east ∧ x.east ≤ 180
  south : -90 ≤ x.south ∧ x.south ≤ 90
  north : -90 ≤ x.north ∧ x.north ≤ 90
  ordered : x.south ≤ x.north

theorem GeographicBoundingBox.checks_pass_iff {c : Config} {x : GeographicBoundingBox} :
    (∀ k ∈ x.checks, k.passes c = true) ↔ x.Conforms := by
  simp only [checks, isLongitude, isLatitude, List.forall_mem_cons, Check.passes_ensure,
    Bool.and_eq_true, decide_eq_true_eq, List.not_mem_nil, false_implies, implies_true, and_true]
  constructor
  · rintro ⟨west, east, south, north, ordered⟩
    exact ⟨west, east, south, north, ordered⟩
  · intro h
    exact ⟨h.west, h.east, h.south, h.north, h.ordered⟩

structure Extent.Conforms (c : Config) (x : Extent) : Prop where
  element : c.requireMandatory = true → x.description.isSome = true ∨ x.boundingBox.isSome = true
  descriptionText : ∀ t ∈ x.description, NotBlank t
  boundingBox : ∀ b ∈ x.boundingBox, b.Conforms

theorem Extent.checks_pass_iff {c : Config} {x : Extent} :
    (∀ k ∈ x.checks, k.passes c = true) ↔ x.Conforms c := by
  have hn : (x.description.isNone && x.boundingBox.isNone) = false ↔
      x.description.isSome = true ∨ x.boundingBox.isSome = true := by
    cases x.description <;> cases x.boundingBox <;> simp
  simp only [checks, List.forall_mem_cons, List.forall_mem_append, Check.passes_mandatory, hn,
    Check.forall_mem_optional_text, forall_mem_flatMap_toList,
    GeographicBoundingBox.checks_pass_iff]
  constructor
  · rintro ⟨element, descriptionText, boundingBox⟩
    exact ⟨element, descriptionText, boundingBox⟩
  · intro h
    exact ⟨h.element, h.descriptionText, h.boundingBox⟩

structure ObjectDomain.Conforms (c : Config) (x : ObjectDomain) : Prop where
  scope : c.requireMandatory = true → x.scope.isSome = true
  validity : c.requireMandatory = true → x.validity.isSome = true
  scopeText : ∀ t ∈ x.scope, NotBlank t
  extent : ∀ e ∈ x.validity, e.Conforms c

theorem ObjectDomain.checks_pass_iff {c : Config} {x : ObjectDomain} :
    (∀ k ∈ x.checks, k.passes c = true) ↔ x.Conforms c := by
  simp only [checks, List.forall_mem_cons, List.forall_mem_append, Check.passes_require_option,
    Check.forall_mem_optional_text, forall_mem_flatMap_toList, Extent.checks_pass_iff,
    List.not_mem_nil, false_implies, implies_true, and_true]
  constructor
  · rintro ⟨⟨⟨scope, validity⟩, scopeText⟩, extent⟩
    exact ⟨scope, validity, scopeText, extent⟩
  · intro h
    exact ⟨⟨⟨h.scope, h.validity⟩, h.scopeText⟩, h.extent⟩

structure Identity.Conforms (c : Config) (x : Identity) : Prop where
  name : c.requireMandatory = true → x.name.isSome = true
  nameIdentifier : ∀ i ∈ x.name, i.Conforms c
  identifiers : ∀ i ∈ x.identifiers, i.Conforms c
  aliases : ∀ t ∈ x.aliases, NotBlank t
  domains : ∀ d ∈ x.domains, d.Conforms c
  remarks : ∀ t ∈ x.remarks, NotBlank t

theorem Identity.checks_pass_iff {c : Config} {x : Identity} :
    (∀ k ∈ x.checks, k.passes c = true) ↔ x.Conforms c := by
  simp only [checks, List.forall_mem_cons, List.forall_mem_append, Check.passes_require_option,
    Check.forall_mem_optional_text, forall_mem_flatMap_toList, Check.forall_mem_forEvery,
    Identifier.checks_pass_iff, ObjectDomain.checks_pass_iff, Check.passes_notBlank,
    List.not_mem_nil, false_implies, implies_true, and_true]
  constructor
  · rintro ⟨name, ⟨⟨⟨nameIdentifier, identifiers⟩, aliases⟩, domains⟩, remarks⟩
    exact ⟨name, nameIdentifier, identifiers, aliases, domains, remarks⟩
  · intro h
    exact ⟨h.name, ⟨⟨⟨h.nameIdentifier, h.identifiers⟩, h.aliases⟩, h.domains⟩, h.remarks⟩

end GeoConformance
