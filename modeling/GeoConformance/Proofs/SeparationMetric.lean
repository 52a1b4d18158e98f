import Mathlib.Data.ZMod.ValMinAbs
import GeoConformance.Proofs.CircularDistance

/-! The separation of orientations as a distance. The positions of a category lie on a circle of
sixteen steps, which is that of the integers up to full turns. The laws of distances on it pass to
the separation, whether or not the positions stay below the full turn. -/
namespace GeoConformance

theorem circularDistance_comm (p q : Nat) : circularDistance p q = circularDistance q p :=
  Nat.min_comm _ _

theorem circularDistance_eq_natAbs (p q : Nat) :
    circularDistance p q = ((q : ZMod 16) - p).valMinAbs.natAbs := by
  have hval : (((q : ZMod 16) - p).val : ℤ) = ((q : ℤ) - p) % 16 := by
    simpa using ZMod.val_intCast (n := 16) ((q : ℤ) - p)
  rw [ZMod.valMinAbs_natAbs_eq_min]
  simp only [circularDistance, clockwiseSteps]
  omega

theorem circularDistance_eq_zero_iff {p q : Nat} : circularDistance p q = 0 ↔ p ≡ q [MOD 16] := by
  rw [circularDistance_comm, circularDistance_eq_natAbs, Int.natAbs_eq_zero,
    ZMod.valMinAbs_eq_zero, sub_eq_zero, ZMod.natCast_eq_natCast_iff]

theorem circularDistance_congr {p p' q q' : Nat} (hp : p' ≡ p [MOD 16]) (hq : q' ≡ q [MOD 16]) :
    circularDistance p' q' = circularDistance p q := by
  rw [← ZMod.natCast_eq_natCast_iff] at hp hq
  rw [circularDistance_eq_natAbs, circularDistance_eq_natAbs, hp, hq]

theorem circularDistance_triangle (p q r : Nat) :
    circularDistance p r ≤ circularDistance p q + circularDistance q r := by
  simp only [circularDistance_eq_natAbs]
  calc ((r : ZMod 16) - p).valMinAbs.natAbs
      = (((q : ZMod 16) - p) + (r - q)).valMinAbs.natAbs := by rw [sub_add_sub_cancel']
    _ ≤ (((q : ZMod 16) - p).valMinAbs + ((r : ZMod 16) - q).valMinAbs).natAbs :=
      ZMod.natAbs_valMinAbs_add_le _ _
    _ ≤ _ := Int.natAbs_add_le _ _

/-- The difference of two words, refused where it would go below zero. -/
def difference? (p q : UInt8) : Option UInt8 :=
  if p.toBitVec.usubOverflow q.toBitVec then none else some (p - q)

theorem difference?_of_le {p q : UInt8} (h : q ≤ p) : difference? p q = some (p - q) := by
  have hno : p.toBitVec.usubOverflow q.toBitVec = false := by
    simpa [BitVec.usubOverflow] using UInt8.le_iff_toNat_le.mp h
  rw [difference?, hno, if_neg Bool.false_ne_true]

namespace Orientation

variable {x y z x' y' : Orientation} {s t : UInt8}

/-- The separation with both subtractions made by `sub`, which may refuse. -/
def separationBy (sub : UInt8 → UInt8 → Option UInt8) (x y : Orientation) :
    Option (Option UInt8) :=
  if x.category = y.category then do
    let difference ← sub (max x.position y.position) (min x.position y.position)
    let remainder := difference % fullTurn
    let back ← sub fullTurn remainder
    return some (min remainder back)
  else some none

/-- Neither subtraction goes below zero, so it does not matter what happens there. -/
theorem separationBy_eq_some {sub : UInt8 → UInt8 → Option UInt8}
    (h : ∀ p q, q ≤ p → sub p q = some (p - q)) (x y : Orientation) :
    x.separationBy sub y = some (x.separation y) := by
  have hdifference := h _ _ (position_min_le_max x.position y.position)
  have hback := h _ _ (mod_fullTurn_le (max x.position y.position - min x.position y.position))
  by_cases hc : x.category = y.category
  · simp only [separationBy, separation, if_pos hc, hdifference, hback, Option.bind_eq_bind,
      Option.bind_some, Option.pure_def]
  · simp only [separationBy, separation, if_neg hc]

theorem separation_comm (x y : Orientation) : x.separation y = y.separation x := by
  ext s
  simp only [separation_eq_some_iff]
  rw [eq_comm, circularDistance_comm]

theorem le_of_separation (h : x.separation y = some s) : s ≤ 8 := by
  rw [UInt8.le_iff_toNat_le, (separation_eq_some_iff.mp h).2]
  exact circularDistance_le _ _

theorem eq_zero_iff_of_separation (h : x.separation y = some s) :
    s = 0 ↔ x.position.toNat ≡ y.position.toNat [MOD 16] := by
  rw [← circularDistance_eq_zero_iff, ← (separation_eq_some_iff.mp h).2, ← UInt8.toNat_inj]
  rfl

structure MovedByTurns (x x' : Orientation) : Prop where
  category_eq : x'.category = x.category
  exists_turns : ∃ turns : ℤ, (x'.position.toNat : ℤ) = x.position.toNat + 16 * turns

theorem MovedByTurns.modEq (h : x.MovedByTurns x') :
    x'.position.toNat ≡ x.position.toNat [MOD 16] := by
  obtain ⟨turns, hturns⟩ := h.exists_turns
  rw [Nat.ModEq]
  omega

theorem separation_of_movedByTurns (hx : x.MovedByTurns x') (hy : y.MovedByTurns y') :
    x'.separation y' = x.separation y := by
  ext s
  simp only [separation_eq_some_iff, hx.category_eq, hy.category_eq,
    circularDistance_congr hx.modEq hy.modEq]

theorem exists_separation_le_add (hs : x.separation y = some s) (ht : y.separation z = some t) :
    ∃ u, x.separation z = some u ∧ u.toNat ≤ s.toNat + t.toNat := by
  obtain ⟨hxy, hs⟩ := separation_eq_some_iff.mp hs
  obtain ⟨hyz, ht⟩ := separation_eq_some_iff.mp ht
  obtain ⟨u, hu⟩ := Option.isSome_iff_exists.mp (separation_isSome.mpr (hxy.trans hyz))
  refine ⟨u, hu, ?_⟩
  rw [hs, ht, (separation_eq_some_iff.mp hu).2]
  exact circularDistance_triangle _ _ _

def QuarterTurnsApart (x y : Orientation) : Prop :=
  ∃ s, x.separation y = some s ∧ s % rightAngle = 0

theorem quarterTurnsApart_iff (h : x.category = y.category) :
    x.QuarterTurnsApart y ↔ x.position.toNat % 4 = y.position.toNat % 4 := by
  obtain ⟨s, hs⟩ := Option.isSome_iff_exists.mp (separation_isSome.mpr h)
  simp only [QuarterTurnsApart, hs, Option.some.injEq, exists_eq_left',
    separation_mod_rightAngle hs]

theorem equivalence_quarterTurnsApart (κ : Category) :
    Equivalence fun a b : {o : Orientation // o.category = κ} => a.1.QuarterTurnsApart b.1 := by
  have hrel : (fun a b : {o : Orientation // o.category = κ} => a.1.QuarterTurnsApart b.1) =
      InvImage Eq fun a => a.1.position.toNat % 4 := by
    funext a b
    exact propext (quarterTurnsApart_iff (a.2.trans b.2.symm))
  rw [hrel]
  exact InvImage.equivalence _ _ eq_equivalence

end Orientation

/-- The separation is the distance on the circle of sixteen steps, for orientations at any position
at all. There is none between categories. Within a category it is the shorter way round, so that it
is the same both ways, at most half a turn, zero exactly for positions that are whole turns apart,
unchanged by whole turns, and at most the way through a third orientation. Neither subtraction in it
goes below zero, and to be a multiple of a quarter turn apart is an equivalence. -/
theorem separation_measures_circle (x y z : Orientation) :
    (x.separation y = none ↔ x.category ≠ y.category) ∧
    (∀ s, x.separation y = some s ↔ x.category = y.category ∧
      s.toNat = circularDistance x.position.toNat y.position.toNat) ∧
    x.separation y = y.separation x ∧
    (∀ s, x.separation y = some s →
      s ≤ 8 ∧ (s = 0 ↔ x.position.toNat ≡ y.position.toNat [MOD 16])) ∧
    (∀ x' y', x.MovedByTurns x' → y.MovedByTurns y' → x'.separation y' = x.separation y) ∧
    (∀ s t, x.separation y = some s → y.separation z = some t →
      ∃ u, x.separation z = some u ∧ u.toNat ≤ s.toNat + t.toNat) ∧
    (x.separationBy (fun p q => some (p - q)) y = some (x.separation y) ∧
      x.separationBy difference? y = some (x.separation y)) ∧
    ∀ κ : Category,
      Equivalence fun a b : {o : Orientation // o.category = κ} => a.1.QuarterTurnsApart b.1 := by
  refine ⟨Orientation.separation_eq_none_iff, fun s => Orientation.separation_eq_some_iff,
    Orientation.separation_comm x y, ?_, ?_, ?_, ⟨?_, ?_⟩,
    Orientation.equivalence_quarterTurnsApart⟩
  · intro s hs
    exact ⟨Orientation.le_of_separation hs, Orientation.eq_zero_iff_of_separation hs⟩
  · intro x' y' hx hy
    exact Orientation.separation_of_movedByTurns hx hy
  · intro s t hs ht
    exact Orientation.exists_separation_le_add hs ht
  · exact Orientation.separationBy_eq_some (fun p q _ => rfl) x y
  · exact Orientation.separationBy_eq_some (fun p q h => difference?_of_le h) x y

/-- Position 250 stands for position 10, three steps from 7. -/
example : Orientation.separation ⟨.geographic, 250⟩ ⟨.geographic, 7⟩ = some 3 ∧
    Orientation.separation ⟨.geographic, 250⟩ ⟨.grid, 7⟩ = none := by
  decide

end GeoConformance
