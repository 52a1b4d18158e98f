import GeoConformance.Proofs.DoubleValues
import GeoConformance.Proofs.WorkingList

/-! The check of perpendicularity as rounds on a working list, with angles in degrees. A round
removes the first direction, and the first other one of its category with it; it fails when the
angle between the two is not a multiple of 90°. -/
namespace GeoConformance
namespace AxisDirection

/-- The angle of a direction within its category, whose members split the full turn evenly. -/
def bearing (d : AxisDirection) : ℚ :=
  360 * d.category.members.idxOf d / d.category.members.length

/-- A difference of angles without its full turns, the shorter way round: from 0 to 180. -/
def reduced (difference : ℚ) : ℚ :=
  let rest := difference - 360 * ⌊difference / 360⌋
  min rest (360 - rest)

def reducedAngle (a b : AxisDirection) : ℚ :=
  reduced |a.bearing - b.bearing|

theorem bearing_eq (d : AxisDirection) : d.bearing = 45 / 2 * d.position := by
  have hall : ∀ d ∈ all, d.bearing = 45 / 2 * d.position := by
    decide +kernel
  exact hall d (Vocabulary.mem_all d)

theorem position_lt (d : AxisDirection) : d.position < 16 := by
  cases d <;> decide

theorem reducedAngle_eq (a b : AxisDirection) :
    reducedAngle a b = 45 / 2 * circularDistance a.position b.position := by
  have hall : ∀ p q : Fin 16, reduced |(45 / 2 * p.val - 45 / 2 * q.val : ℚ)| =
      45 / 2 * circularDistance p.val q.val := by
    decide +kernel
  rw [reducedAngle, bearing_eq, bearing_eq]
  exact hall ⟨a.position, a.position_lt⟩ ⟨b.position, b.position_lt⟩

theorem exists_multiple_iff_rightAngled {a b : AxisDirection} :
    (∃ n : ℕ, reducedAngle a b = 90 * n) ↔ RightAngled a b := by
  rw [RightAngled, ← circularDistance_mod_four_eq_zero, reducedAngle_eq]
  constructor
  · rintro ⟨n, h⟩
    have hn : circularDistance a.position b.position = 4 * n := by
      have h' : (circularDistance a.position b.position : ℚ) = 4 * n := by linarith
      exact_mod_cast h'
    omega
  · intro h
    refine ⟨circularDistance a.position b.position / 4, ?_⟩
    have hd : (circularDistance a.position b.position : ℚ) =
        4 * (circularDistance a.position b.position / 4 : ℕ) := by
      exact_mod_cast (Nat.mul_div_cancel' (Nat.dvd_of_mod_eq_zero h)).symm
    linarith

theorem value_angleBetween (a b : AxisDirection) :
    Double.value (angleBetween a b) = reducedAngle a b := by
  have hall : ∀ m : Fin 9, Double.value (22.5 * m.val.toFloat) = 45 / 2 * m.val := by
    decide +kernel
  have hle := circularDistance_le a.position b.position
  rw [reducedAngle_eq]
  exact hall ⟨circularDistance a.position b.position, by omega⟩

end AxisDirection

namespace Perpendicular

open AxisDirection

structure Partnered (d : AxisDirection) (before : List AxisDirection) (b : AxisDirection) :
    Prop where
  category_eq : b.category = d.category
  first : ∀ e ∈ before, e.category ≠ d.category

/-- One round on the working list that does not fail. -/
inductive Round : List AxisDirection → List AxisDirection → Prop
  | lone {d : AxisDirection} {ds : List AxisDirection} : (∀ e ∈ ds, e.category ≠ d.category) →
      Round (d :: ds) ds
  | pair {d b : AxisDirection} {before after : List AxisDirection} :
      Partnered d before b → (∃ n : ℕ, reducedAngle d b = 90 * n) →
      Round (d :: (before ++ b :: after)) (before ++ after)

/-- One round that fails, with the two directions and the angle that it answers with. -/
inductive Clash : List AxisDirection → AxisDirection → AxisDirection → ℚ → Prop
  | mk {d b : AxisDirection} {before after : List AxisDirection} :
      Partnered d before b → (¬∃ n : ℕ, reducedAngle d b = 90 * n) →
      Clash (d :: (before ++ b :: after)) d b (reducedAngle d b)

inductive Outcome
  | emptied
  | clash (first second : AxisDirection) (angle : ℚ)

def EndsIn (ds : List AxisDirection) : Outcome → Prop
  | .emptied => Relation.ReflTransGen Round ds []
  | .clash a b angle => ∃ es, Relation.ReflTransGen Round ds es ∧ Clash es a b angle

/-- The answer of the check says how the rounds end, with the angle as a double. -/
def Answers : Except ValidationError Unit → Outcome → Prop
  | .ok (), .emptied => True
  | .error (.inconsistentGeometry a b angle), .clash a' b' angle' =>
    a = a' ∧ b = b' ∧ Double.value angle = angle'
  | _, _ => False

variable {d b : AxisDirection} {ds es before after : List AxisDirection}

theorem Answers.unique {answer : Except ValidationError Unit} {o o' : Outcome}
    (h : Answers answer o) (h' : Answers answer o') : o = o' := by
  cases o <;> cases o' <;> simp only [Answers] at h h' <;> grind [Answers]

theorem Partnered.find?_eq (h : Partnered d before b) :
    (before ++ b :: after).find? (·.category = d.category) = some b := by
  have hbefore : before.find? (·.category = d.category) = none := by
    simpa using h.first
  rw [List.find?_append, hbefore, Option.none_or,
    List.find?_cons_of_pos (by simpa using h.category_eq)]

theorem Partnered.eraseP_eq (h : Partnered d before b) :
    (before ++ b :: after).eraseP (·.category = d.category) = before ++ after := by
  rw [List.eraseP_append_right _ (by simpa using h.first),
    List.eraseP_cons_of_pos (by simpa using h.category_eq)]

theorem lone_or_partnered (d : AxisDirection) (ds : List AxisDirection) :
    (∀ e ∈ ds, e.category ≠ d.category) ∨
      ∃ before b after, ds = before ++ b :: after ∧ Partnered d before b := by
  cases h : ds.find? (·.category = d.category) with
  | none => exact .inl (by simpa using h)
  | some b =>
    obtain ⟨hb, before, after, rfl, hfirst⟩ := List.find?_eq_some_iff_append.mp h
    exact .inr ⟨before, b, after, rfl, by simpa using hb, by simpa using hfirst⟩

theorem Round.workThrough_eq (h : Round ds es) : workThrough ds = workThrough es := by
  cases h with
  | lone hlone => rw [workThrough, List.find?_eq_none.mpr (by simpa using hlone)]
  | pair hpartner hangle =>
    rw [workThrough, hpartner.find?_eq]
    simp only [exists_multiple_iff_rightAngled.mp hangle, if_true, hpartner.eraseP_eq]

theorem Clash.workThrough_eq {angle : ℚ} (h : Clash ds d b angle) :
    workThrough ds = .error (.inconsistentGeometry d b (angleBetween d b)) ∧
      angle = reducedAngle d b := by
  cases h with
  | mk hpartner hangle =>
    rw [workThrough, hpartner.find?_eq]
    simp only [mt exists_multiple_iff_rightAngled.mpr hangle, if_false, and_self]

theorem workThrough_eq_of_rounds (h : Relation.ReflTransGen Round ds es) :
    workThrough ds = workThrough es := by
  induction h with
  | refl => rfl
  | tail _ hround ih => rw [ih, hround.workThrough_eq]

theorem exists_round_or_clash (d : AxisDirection) (ds : List AxisDirection) :
    (∃ es, Round (d :: ds) es ∧ es.length ≤ ds.length) ∨
      ∃ a b angle, Clash (d :: ds) a b angle := by
  obtain hlone | ⟨before, b, after, rfl, hpartner⟩ := lone_or_partnered d ds
  · exact .inl ⟨ds, .lone hlone, le_rfl⟩
  · by_cases hangle : ∃ n : ℕ, reducedAngle d b = 90 * n
    · exact .inl ⟨before ++ after, .pair hpartner hangle, by simp⟩
    · exact .inr ⟨d, b, _, .mk hpartner hangle⟩

theorem EndsIn.of_round {o : Outcome} (h : Round ds es) (ho : EndsIn es o) : EndsIn ds o := by
  cases o with
  | emptied => exact Relation.ReflTransGen.head h ho
  | clash a b angle =>
    obtain ⟨fs, hfs, hclash⟩ := ho
    exact ⟨fs, .head h hfs, hclash⟩

/-- The rounds come to an end on every list. -/
theorem exists_endsIn (ds : List AxisDirection) : ∃ o, EndsIn ds o := by
  induction hn : ds.length using Nat.strong_induction_on generalizing ds with
  | _ n ih =>
    cases ds with
    | nil => exact ⟨.emptied, Relation.ReflTransGen.refl⟩
    | cons d ds =>
      obtain ⟨es, hround, hle⟩ | ⟨a, b, angle, hclash⟩ := exists_round_or_clash d ds
      · have hlt : es.length < n := by
          rw [← hn, List.length_cons]
          exact Nat.lt_succ_of_le hle
        obtain ⟨o, ho⟩ := ih _ hlt es rfl
        exact ⟨o, ho.of_round hround⟩
      · exact ⟨.clash a b angle, _, .refl, hclash⟩

theorem EndsIn.answers {o : Outcome} (h : EndsIn ds o) : Answers (workThrough ds) o := by
  cases o with
  | emptied =>
    rw [workThrough_eq_of_rounds h, workThrough]
    trivial
  | clash a b angle =>
    obtain ⟨es, hrounds, hclash⟩ := h
    obtain ⟨hes, rfl⟩ := hclash.workThrough_eq
    rw [workThrough_eq_of_rounds hrounds, hes]
    exact ⟨rfl, rfl, value_angleBetween a b⟩

end Perpendicular

open Perpendicular

/-- The check of perpendicularity is the rounds on a working list: these come to an end, and the
answer of the check is how they end, with the same two directions and the same angle if one of
them fails. -/
theorem checkPerpendicular_answers_removal_rounds (ds : List AxisDirection) :
    (∃ o, EndsIn ds o) ∧ ∀ o, EndsIn ds o ↔ Answers (checkPerpendicular ds) o := by
  rw [checkPerpendicular_eq_workThrough]
  refine ⟨exists_endsIn ds, fun o => ⟨EndsIn.answers, fun ho => ?_⟩⟩
  obtain ⟨o', ho'⟩ := exists_endsIn ds
  rw [ho.unique ho'.answers]
  exact ho'

end GeoConformance
