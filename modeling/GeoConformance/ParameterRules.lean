import GeoConformance.Casing
import GeoConformance.Obligation

/-! Obligations of parameters and groups of them. The names of the members of a group differ in
more than case. -/
namespace GeoConformance
namespace Parameter

/-- The name by which members of a group are told apart, if it has one. -/
def key (x : Parameter) : Option String :=
  x.identity.code.map lowercaseText

/-- Each member is validated, then its name is compared with those in `seen` before it. -/
def memberObligations (seen : List String) : List Parameter → List Obligation
  | [] => []
  | x :: xs =>
    .visit (.parameter x) ::
      match x.identity.code with
      | none => memberObligations seen xs
      | some code =>
        let key := lowercaseText code
        .own (.ensure (!seen.contains key) (.parameterRepeated code)) ::
          memberObligations (key :: seen) xs

theorem visit_mem_memberObligations {seen : List String} {xs : List Parameter} {n : Node} :
    .visit n ∈ memberObligations seen xs ↔ ∃ x ∈ xs, n = .parameter x := by
  induction xs generalizing seen with
  | nil => simp [memberObligations]
  | cons x xs ih => cases h : x.identity.code <;> simp [memberObligations, h, ih]

def obligations (x : Parameter) : List Obligation :=
  x.identity.obligations ++
    [.own (.ensure (x.minimumOccurs ≤ x.maximumOccurs)
      (.occurrencesCrossed x.minimumOccurs x.maximumOccurs))] ++
    memberObligations [] (x.descriptors.getD [])

theorem visit_mem_obligations {x : Parameter} {n : Node} :
    .visit n ∈ x.obligations ↔ ∃ xs, x.descriptors = some xs ∧ ∃ y ∈ xs, n = .parameter y := by
  cases h : x.descriptors <;> simp [obligations, h, visit_mem_memberObligations]

end Parameter
end GeoConformance
