import GeoConformance.Proofs.WorkingList

/-! A closed form of the check of perpendicularity. Only the directions of the compass count, and
of these the first is compared with the second, the third with the fourth, and so on: the check
fails for the first of these pairs that is not a whole number of right angles apart. -/
namespace GeoConformance

open AxisDirection

def compass (ds : List AxisDirection) : List AxisDirection :=
  ds.filter (·.category = .geographic)

namespace Perpendicular

/-- The first of the consecutive pairs that is not a whole number of right angles apart. -/
def firstBadPair? : List AxisDirection → Option (AxisDirection × AxisDirection)
  | a :: b :: rest => if RightAngled a b then firstBadPair? rest else some (a, b)
  | _ => none

def verdict : Option (AxisDirection × AxisDirection) → Except ValidationError Unit
  | none => .ok ()
  | some (a, b) => .error (.inconsistentGeometry a b (angleBetween a b))

theorem verdict_eq_ok_iff {pair : Option (AxisDirection × AxisDirection)} :
    verdict pair = .ok () ↔ pair = none := by
  cases pair <;> simp [verdict]

theorem firstBadPair?_eq_none_iff {g : List AxisDirection} :
    firstBadPair? g = none ↔
      ∀ k, (hk : 2 * k + 1 < g.length) → RightAngled g[2 * k] g[2 * k + 1] := by
  fun_induction firstBadPair? g with
  | case1 a b rest hab ih =>
    rw [ih]
    constructor
    · intro h k hk
      cases k with
      | zero => exact hab
      | succ k => exact h k (by simp only [List.length_cons] at hk; omega)
    · intro h k hk
      exact h (k + 1) (by simp only [List.length_cons]; omega)
  | case2 a b rest hab =>
    constructor
    · intro h
      cases h
    · intro h
      exact absurd (h 0 (by simp)) hab
  | case3 g hg =>
    refine ⟨fun _ k hk => ?_, fun _ => rfl⟩
    match g, hg with
    | [], _ => cases hk
    | [_], _ => simp at hk
    | a :: b :: rest, hg => exact (hg a b rest rfl).elim

theorem firstBadPair?_eq_some {g : List AxisDirection} {pair : AxisDirection × AxisDirection}
    (h : firstBadPair? g = some pair) :
    ∃ k, ∃ hk : 2 * k + 1 < g.length, (g[2 * k], g[2 * k + 1]) = pair ∧
      ¬RightAngled g[2 * k] g[2 * k + 1] ∧
      ∀ j, (hj : j < k) → RightAngled g[2 * j] g[2 * j + 1] := by
  fun_induction firstBadPair? g with
  | case1 a b rest hab ih =>
    obtain ⟨k, hk, hpair, hbad, hleast⟩ := ih h
    refine ⟨k + 1, by simp only [List.length_cons]; omega, hpair, hbad, fun j hj => ?_⟩
    cases j with
    | zero => exact hab
    | succ j => exact hleast j (by omega)
  | case2 a b rest hab =>
    refine ⟨0, by simp, Option.some.inj h, hab, fun j hj => ?_⟩
    omega
  | case3 => cases h

theorem firstBadPair?_append {g : List AxisDirection} {pair : AxisDirection × AxisDirection}
    (h : firstBadPair? g = some pair) (g' : List AxisDirection) :
    firstBadPair? (g ++ g') = some pair := by
  fun_induction firstBadPair? g with
  | case1 a b rest hab ih =>
    rw [List.cons_append, List.cons_append, firstBadPair?, if_pos hab]
    exact ih h
  | case2 a b rest hab =>
    rw [List.cons_append, List.cons_append, firstBadPair?, if_neg hab]
    exact h
  | case3 => cases h

theorem compass_append (ds ds' : List AxisDirection) :
    compass (ds ++ ds') = compass ds ++ compass ds' :=
  List.filter_append _ _

theorem filter_eraseP {α : Type} (p : α → Bool) (xs : List α) :
    (xs.eraseP p).filter p = (xs.filter p).tail := by
  induction xs with
  | nil => rfl
  | cons x xs ih =>
    by_cases h : p x = true
    · rw [List.eraseP_cons_of_pos h, List.filter_cons_of_pos h, List.tail_cons]
    · rw [List.eraseP_cons_of_neg h, List.filter_cons_of_neg h, List.filter_cons_of_neg h, ih]

theorem compass_eraseP {κ : Category} (h : κ ≠ .geographic) (ds : List AxisDirection) :
    compass (ds.eraseP (·.category = κ)) = compass ds := by
  induction ds with
  | nil => rfl
  | cons d ds ih =>
    by_cases hd : d.category = κ
    · have hne : ¬d.category = .geographic := hd ▸ h
      rw [List.eraseP_cons_of_pos (by simpa using hd), compass, compass,
        List.filter_cons_of_neg (by simpa using hne)]
    · rw [List.eraseP_cons_of_neg (by simpa using hd)]
      simp only [compass, List.filter_cons] at ih ⊢
      rw [ih]

/-- One step on a direction of the compass: it is compared with the next one. -/
theorem firstBadPair?_compass_cons {d : AxisDirection} (hd : d.category = .geographic)
    (ds : List AxisDirection) :
    firstBadPair? (compass (d :: ds)) =
      match ds.find? (·.category = d.category) with
      | none => none
      | some b =>
        if RightAngled d b then firstBadPair? (compass (ds.eraseP (·.category = d.category)))
        else some (d, b) := by
  have hcons : compass (d :: ds) = d :: compass ds :=
    List.filter_cons_of_pos (by simpa using hd)
  have hhead : ds.find? (·.category = d.category) = (compass ds).head? := by
    rw [hd, compass, List.head?_filter]
  have htail : compass (ds.eraseP (·.category = d.category)) = (compass ds).tail := by
    rw [hd, compass, filter_eraseP, ← compass]
  rw [hcons, hhead, htail]
  cases compass ds with
  | nil => rfl
  | cons b rest => rfl

theorem workThrough_eq_verdict (ds : List AxisDirection) :
    workThrough ds = verdict (firstBadPair? (compass ds)) := by
  fun_induction workThrough ds with
  | case1 => rfl
  | case2 d ds hfind ih =>
    by_cases hd : d.category = .geographic
    · have hnone : compass ds = [] := by
        rw [← List.head?_eq_none_iff, compass, List.head?_filter, ← hd]
        exact hfind
      rw [ih, firstBadPair?_compass_cons hd, hfind, hnone]
      rfl
    · rw [ih, compass, compass, List.filter_cons_of_neg (by simpa using hd)]
  | case3 d ds b hfind hab ih =>
    by_cases hd : d.category = .geographic
    · rw [ih, firstBadPair?_compass_cons hd, hfind]
      simp only [hab, if_true]
    · rw [ih, compass_eraseP hd, compass, compass, List.filter_cons_of_neg (by simpa using hd)]
  | case4 d ds b hfind hab =>
    have hb : b.category = d.category := by simpa using List.find?_some hfind
    by_cases hd : d.category = .geographic
    · rw [firstBadPair?_compass_cons hd, hfind]
      simp only [hab, if_false, verdict]
    · exact absurd (rightAngled_of_category_ne hb.symm hd) hab

end Perpendicular

open Perpendicular

theorem checkPerpendicular_eq_verdict (ds : List AxisDirection) :
    checkPerpendicular ds = verdict (firstBadPair? (compass ds)) := by
  rw [checkPerpendicular_eq_workThrough, workThrough_eq_verdict]

/-- The check of perpendicularity in closed form. It answers for the first two consecutive
directions of the compass that are not a whole number of right angles apart, with the angle between
them, which is neither flat nor right; the other directions count for nothing, and neither does
what follows a failure. -/
theorem checkPerpendicular_compares_compass_pairs (ds : List AxisDirection) :
    (checkPerpendicular ds = .ok () ↔
      ∀ k, (hk : 2 * k + 1 < (compass ds).length) →
        (compass ds)[2 * k].position % 4 = (compass ds)[2 * k + 1].position % 4) ∧
    (checkPerpendicular ds ≠ .ok () →
      ∃ k, ∃ hk : 2 * k + 1 < (compass ds).length, ∃ angle : Float,
        (compass ds)[2 * k].position % 4 ≠ (compass ds)[2 * k + 1].position % 4 ∧
        (∀ j, (hj : j < k) →
          (compass ds)[2 * j].position % 4 = (compass ds)[2 * j + 1].position % 4) ∧
        angle = 22.5 * (circularDistance (compass ds)[2 * k].position
          (compass ds)[2 * k + 1].position).toFloat ∧
        0 < angle ∧ angle < 180 ∧ angle ≠ 90 ∧
        checkPerpendicular ds =
          .error (.inconsistentGeometry (compass ds)[2 * k] (compass ds)[2 * k + 1] angle)) ∧
    (∀ ds', compass ds' = compass ds → checkPerpendicular ds' = checkPerpendicular ds) ∧
    ∀ e, checkPerpendicular ds = .error e →
      ∀ more, checkPerpendicular (ds ++ more) = .error e := by
  simp only [checkPerpendicular_eq_verdict]
  refine ⟨verdict_eq_ok_iff.trans firstBadPair?_eq_none_iff, ?_, ?_, ?_⟩
  · intro h
    cases hp : firstBadPair? (compass ds) with
    | none => exact absurd (verdict_eq_ok_iff.mpr hp) h
    | some pair =>
      obtain ⟨k, hk, rfl, hbad, hleast⟩ := firstBadPair?_eq_some hp
      obtain ⟨hpos, hlt, hne⟩ := angleBetween_of_not_rightAngled hbad
      exact ⟨k, hk, _, hbad, hleast, rfl, hpos, hlt, hne, rfl⟩
  · intro ds' h
    rw [h]
  · intro e h more
    cases hp : firstBadPair? (compass ds) with
    | none => simp [hp, verdict] at h
    | some pair =>
      rw [compass_append, firstBadPair?_append hp, ← hp]
      exact h

/-- A pair is used up: the last direction is not compared with either of the first two. -/
example : checkPerpendicular [.north, .up, .east, .northEast] = .ok () := by
  cbv

end GeoConformance
