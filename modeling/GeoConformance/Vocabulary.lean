/-! Closed vocabularies: finitely many terms, each with its own written name.
A term is read back from its exact name and from nothing else. -/
namespace GeoConformance

/-- The terms in declaration order, with the name each is written by. -/
class Vocabulary (α : Type) where
  all : List α
  name : α → String
  mem_all : ∀ a, a ∈ all
  name_injOn : ∀ a ∈ all, ∀ b ∈ all, name a = name b → a = b

namespace Vocabulary

variable {α : Type} [Vocabulary α]

theorem name_injective {a b : α} (h : name a = name b) : a = b :=
  name_injOn a (mem_all a) b (mem_all b) h

def named? (text : String) : Option α :=
  (all : List α).find? fun a => name a == text

theorem named?_eq_some {text : String} {a : α} : named? text = some a ↔ name a = text := by
  constructor
  · intro h
    simpa using List.find?_some h
  · rintro rfl
    cases h : (named? (name a) : Option α) with
    | none =>
      have := List.find?_eq_none.mp h a (mem_all a)
      simp at this
    | some b =>
      have hb : name b = name a := by simpa using List.find?_some h
      rw [name_injective hb]

@[simp] theorem named?_name (a : α) : named? (name a) = some a :=
  named?_eq_some.mpr rfl

end Vocabulary
end GeoConformance
