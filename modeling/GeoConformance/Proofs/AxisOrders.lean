import Mathlib.Data.List.Perm.Basic
import GeoConformance.Proofs.CompassPairs

/-! The check of perpendicularity over all orders of the same axes. The pairing of one order can
hide two directions that do not go together; some other order shows them, and no order refuses
directions that all go together. -/
namespace GeoConformance

open AxisDirection Perpendicular

namespace AxisDirection

/-- Directions that go together: if they are of one category, the angle between them is a multiple
of 90°. -/
def Compatible (a b : AxisDirection) : Prop :=
  a.category = b.category → ∃ quarters ≤ 2, angleBetween a b = 90 * quarters.toFloat

theorem exists_quarters_iff_rightAngled {a b : AxisDirection} :
    (∃ quarters ≤ 2, angleBetween a b = 90 * quarters.toFloat) ↔ RightAngled a b := by
  have hall : ∀ m : Fin 9,
      (∃ q : Fin 3, 22.5 * m.val.toFloat = 90 * q.val.toFloat) ↔ m.val % 4 = 0 := by
    decide +kernel
  have hle := circularDistance_le a.position b.position
  have hd := hall ⟨circularDistance a.position b.position, by omega⟩
  rw [RightAngled, ← circularDistance_mod_four_eq_zero]
  refine Iff.trans ?_ hd
  constructor
  · rintro ⟨q, hq, h⟩
    exact ⟨⟨q, by omega⟩, h⟩
  · rintro ⟨q, h⟩
    exact ⟨q, by omega, h⟩

theorem compatible_iff {a b : AxisDirection} :
    Compatible a b ↔ (a.category = b.category → RightAngled a b) := by
  rw [Compatible, exists_quarters_iff_rightAngled]

theorem compatible_iff_of_compass {a b : AxisDirection} :
    Compatible a b ↔ (a.category = .geographic → b.category = .geographic → RightAngled a b) := by
  rw [compatible_iff]
  constructor
  · intro h ha hb
    exact h (ha.trans hb.symm)
  · intro h hab
    by_cases ha : a.category = .geographic
    · exact h ha (hab ▸ ha)
    · exact rightAngled_of_category_ne hab ha

theorem Compatible.symm {a b : AxisDirection} (h : Compatible a b) : Compatible b a := by
  rw [compatible_iff] at h ⊢
  intro hba
  exact Eq.symm (h hba.symm)

end AxisDirection

theorem pairwise_compatible_iff_compass {ds : List AxisDirection} :
    ds.Pairwise Compatible ↔ (compass ds).Pairwise RightAngled := by
  simp only [compass, List.pairwise_filter, decide_eq_true_eq]
  have hrel : Compatible = fun a b : AxisDirection =>
      a.category = .geographic → b.category = .geographic → RightAngled a b := by
    funext a b
    exact propext compatible_iff_of_compass
  rw [hrel]

theorem checkPerpendicular_of_pairwise_compatible {ds : List AxisDirection}
    (h : ds.Pairwise Compatible) : checkPerpendicular ds = .ok () := by
  have hg : (compass ds).Pairwise RightAngled := pairwise_compatible_iff_compass.mp h
  rw [checkPerpendicular_eq_verdict, verdict_eq_ok_iff, firstBadPair?_eq_none_iff]
  intro k hk
  exact List.pairwise_iff_getElem.mp hg _ _ (by omega) hk (Nat.lt_succ_self _)

theorem compatible_of_checkPerpendicular_cons_cons {a b : AxisDirection}
    {ds : List AxisDirection} (h : checkPerpendicular (a :: b :: ds) = .ok ()) :
    Compatible a b := by
  rw [compatible_iff_of_compass]
  intro ha hb
  rw [checkPerpendicular_eq_verdict, verdict_eq_ok_iff] at h
  have hcompass : compass (a :: b :: ds) = a :: b :: compass ds := by
    simp [compass, ha, hb]
  by_contra hab
  rw [hcompass, firstBadPair?, if_neg hab] at h
  cases h

/-- With at most two directions of the compass there is no third one to hide behind. -/
theorem checkPerpendicular_eq_ok_iff_of_length_compass_le {ds : List AxisDirection}
    (h : (compass ds).length ≤ 2) :
    checkPerpendicular ds = .ok () ↔ ds.Pairwise Compatible := by
  rw [checkPerpendicular_eq_verdict, verdict_eq_ok_iff, pairwise_compatible_iff_compass]
  match hg : compass ds, h with
  | [], _ => simp [firstBadPair?]
  | [a], _ => simp [firstBadPair?]
  | [a, b], _ => simp [firstBadPair?]

theorem length_compass (ds : List AxisDirection) :
    (compass ds).length = ds.countP (·.category = .geographic) :=
  List.countP_eq_length_filter.symm

/-- What the pairing can and cannot hide. The directions are accepted in every order exactly when
every two of one category are a multiple of 90° apart; and when no category occurs more than twice,
every order gives the same verdict, which is that one. -/
theorem checkPerpendicular_in_every_order (ds : List AxisDirection) :
    ((∀ es, es.Perm ds → checkPerpendicular es = .ok ()) ↔ ds.Pairwise Compatible) ∧
    ((∀ κ : Category, ds.countP (·.category = κ) ≤ 2) →
      ∀ es, es.Perm ds → (checkPerpendicular es = .ok () ↔ ds.Pairwise Compatible)) := by
  have hperm {es : List AxisDirection} (h : es.Perm ds) :
      es.Pairwise Compatible ↔ ds.Pairwise Compatible :=
    h.pairwise_iff Compatible.symm
  refine ⟨⟨?_, ?_⟩, ?_⟩
  · intro h
    rw [List.pairwise_iff_forall_sublist]
    intro a b hab
    -- The order that begins with these two compares them.
    obtain ⟨rest, hrest⟩ := hab.exists_perm_append
    exact compatible_of_checkPerpendicular_cons_cons (h _ hrest.symm)
  · intro h es hes
    exact checkPerpendicular_of_pairwise_compatible ((hperm hes).mpr h)
  · intro hcount es hes
    have hlen : (compass es).length ≤ 2 := by
      rw [length_compass, hes.countP_eq]
      exact hcount .geographic
    rw [checkPerpendicular_eq_ok_iff_of_length_compass_le hlen, hperm hes]

/-- A direction that stands third is hidden; standing second, it shows. -/
example : checkPerpendicular [.north, .east, .northEast] = .ok () ∧
    checkPerpendicular [.north, .northEast, .east] =
      .error (.inconsistentGeometry .north .northEast 45) := by
  decide +kernel

end GeoConformance
