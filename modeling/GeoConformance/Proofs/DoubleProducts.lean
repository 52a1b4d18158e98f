import GeoConformance.Check
import GeoConformance.Proofs.DoublePlaces

/-! Products of doubles. A product is computed exactly and then rounded to the nearest double, and
both steps keep order: of two numbers the larger one has the larger product with the same positive
number. Two doubles that agree within a tolerance therefore agree within a larger one. -/
namespace GeoConformance
namespace Double

open Float.Model (UnpackedFloat Format totalExponent)
open Float.Model.UnpackedFloat (Accuracy ExtendedMantissa Sign roundWithAccuracy shiftToExponent
  shiftToTargetExponent)

/-- What is kept of a significand that is shifted right: the quotient, and how the remainder stands
to half of the divisor. -/
structure IsShifted (x : ExtendedMantissa) (m k : Nat) : Prop where
  mantissa : x.mantissa = m / 2 ^ k
  roundBit : x.roundBit = true ↔ 2 ^ k ≤ 2 * (m % 2 ^ k)
  stickyBit : x.stickyBit = true ↔ m % 2 ^ k ≠ 0 ∧ 2 * (m % 2 ^ k) ≠ 2 ^ k

theorem isShifted (m k : Nat) :
    IsShifted (ExtendedMantissa.ofMantissaAndAccuracy m .exact >>> k) m k := by
  induction k with
  | zero =>
    have hround : ¬2 ^ 0 ≤ 2 * (m % 2 ^ 0) := by simp [Nat.mod_one]
    have hsticky : ¬(m % 2 ^ 0 ≠ 0 ∧ 2 * (m % 2 ^ 0) ≠ 2 ^ 0) := by simp [Nat.mod_one]
    exact ⟨(Nat.div_one m).symm, iff_of_false Bool.false_ne_true hround,
      iff_of_false Bool.false_ne_true hsticky⟩
  | succ k ih =>
    obtain ⟨hmantissa, hround, hsticky⟩ := ih
    change IsShifted (ExtendedMantissa.shiftRightOne
      (ExtendedMantissa.ofMantissaAndAccuracy m .exact >>> k)) m (k + 1)
    have hlt : m % 2 ^ k < 2 ^ k := Nat.mod_lt m (Nat.two_pow_pos k)
    have hpow : 2 ^ (k + 1) = 2 ^ k * 2 := Nat.pow_succ 2 k
    have hmod : m % (2 ^ k * 2) = m % 2 ^ k + 2 ^ k * (m / 2 ^ k % 2) := Nat.mod_mul
    have hbit := Nat.mod_two_eq_zero_or_one (m / 2 ^ k)
    refine ⟨?_, ?_, ?_⟩
    · simp only [ExtendedMantissa.shiftRightOne, hmantissa]
      rw [Nat.div_div_eq_div_mul, hpow]
    · simp only [ExtendedMantissa.shiftRightOne, hmantissa, hpow, hmod, bne_iff_ne]
      obtain hbit | hbit := hbit <;> simp only [hbit] <;> omega
    · simp only [ExtendedMantissa.shiftRightOne, hpow, hmod, Bool.or_eq_true, hround, hsticky]
      obtain hbit | hbit := hbit <;> simp only [hbit] <;> omega

/-- The two bits that a shift keeps beside the quotient are all that rounding needs. -/
theorem roundedMantissa_shift (m k : Nat) :
    (ExtendedMantissa.ofMantissaAndAccuracy m .exact >>> k).roundedMantissa =
      roundDiv m (2 ^ k) := by
  obtain ⟨hmantissa, hround, hsticky⟩ := isShifted m k
  generalize ExtendedMantissa.ofMantissaAndAccuracy m .exact >>> k = x at *
  obtain ⟨mantissa, roundBit, stickyBit⟩ := x
  dsimp only at hmantissa hround hsticky
  subst hmantissa
  have hlt : m % 2 ^ k < 2 ^ k := Nat.mod_lt m (Nat.two_pow_pos k)
  simp only [roundDiv]
  cases roundBit <;> cases stickyBit <;>
    simp only [true_iff, false_iff, Bool.false_eq_true, not_and_or, not_le, not_not]
      at hround hsticky <;>
    simp only [ExtendedMantissa.roundedMantissa, ExtendedMantissa.accuracy,
      Accuracy.roundToNearestEven] <;>
    split_ifs <;> omega

/-- The exponent at which the significand of `m * 2 ^ e` has no bit too many. -/
def targetExponent (m : Nat) (e : Int) : Int :=
  max (m.log2 + e - 52) (-1074)

theorem targetExponent_eq (m : Nat) (e : Int) :
    Format.binary64.targetExponent (totalExponent m e) = targetExponent m e := by
  change max ((m.log2 : Int) + 1 + e - 53) (-1074) = max _ _
  congr 1
  omega

def rounded (m : Nat) (e : Int) : Nat :=
  roundDiv m (2 ^ (targetExponent m e - e).toNat)

section Rounding

variable {s : Sign} {m : Nat} {e : Int}

theorem shift_of_le (hm : m ≤ 2 ^ 53) (he : -1074 ≤ e) :
    shiftToTargetExponent .binary64 m e .exact =
      if m < 2 ^ 53 then (ExtendedMantissa.ofMantissaAndAccuracy m .exact, e)
      else (ExtendedMantissa.ofMantissaAndAccuracy (2 ^ 52) .exact, e + 1) := by
  unfold shiftToTargetExponent
  rw [targetExponent_eq]
  split
  · rename_i hlt
    have hlog : m.log2 ≤ 52 := by
      by_cases hz : m = 0
      · subst hz
        decide
      · have hbits : m.log2 < 53 := (Nat.log2_lt hz).mpr hlt
        omega
    have hshift : (targetExponent m e - e).toNat = 0 := by
      unfold targetExponent
      omega
    simp only [shiftToExponent, hshift]
    exact Prod.ext rfl (by simp)
  · obtain rfl : m = 2 ^ 53 := by omega
    have hlog : (2 ^ 53).log2 = 53 := by decide
    have hshift : (targetExponent (2 ^ 53) e - e).toNat = 1 := by
      unfold targetExponent
      rw [hlog]
      omega
    simp only [shiftToExponent, hshift]
    rfl

theorem rounded_le : rounded m e ≤ 2 ^ 53 := by
  have hlt : m < 2 ^ (53 + (targetExponent m e - e).toNat) := by
    apply Nat.lt_of_lt_of_le Nat.lt_log2_self
    apply Nat.pow_le_pow_right (by decide)
    unfold targetExponent
    omega
  have hq : m / 2 ^ (targetExponent m e - e).toNat < 2 ^ 53 := by
    rw [Nat.div_lt_iff_lt_mul (Nat.two_pow_pos _), ← Nat.pow_add]
    exact hlt
  exact (roundDiv_bounds _ _).2.trans hq

theorem le_rounded (hm : m ≠ 0) (he : e ≤ targetExponent m e)
    (ht : targetExponent m e ≠ -1074) : 2 ^ 52 ≤ rounded m e := by
  have hlog : 52 + (targetExponent m e - e).toNat = m.log2 := by
    unfold targetExponent at *
    omega
  have hq : 2 ^ 52 ≤ m / 2 ^ (targetExponent m e - e).toNat := by
    rw [Nat.le_div_iff_mul_le (Nat.two_pow_pos _), ← Nat.pow_add, hlog]
    exact Nat.log2_self_le hm
  exact hq.trans (roundDiv_bounds _ _).1

theorem round_eq (he : e ≤ targetExponent m e) :
    roundWithAccuracy .binary64 s m e .exact =
      if h : rounded m e = 0 then .zero s
      else if rounded m e < 2 ^ 53 then
        .finite s (rounded m e) (targetExponent m e) (Nat.pos_of_ne_zero h)
      else .finite s (2 ^ 52) (targetExponent m e + 1) (by decide) := by
  have hfirst : shiftToTargetExponent .binary64 m e .exact =
      (ExtendedMantissa.ofMantissaAndAccuracy m .exact >>> (targetExponent m e - e).toNat,
        targetExponent m e) := by
    unfold shiftToTargetExponent shiftToExponent
    rw [targetExponent_eq]
    refine Prod.ext rfl ?_
    dsimp only
    omega
  have ht : -1074 ≤ targetExponent m e := le_max_right _ _
  unfold roundWithAccuracy
  rw [hfirst]
  simp only [roundedMantissa_shift]
  change (let (x, t) := shiftToTargetExponent .binary64 (rounded m e) (targetExponent m e) .exact
    if h : x.mantissa = 0 then UnpackedFloat.zero s
    else .finite s x.mantissa t (Nat.pos_of_ne_zero h)) = _
  rw [shift_of_le rounded_le ht]
  by_cases hlt : rounded m e < 2 ^ 53
  · simp only [hlt, if_true]
    rfl
  · have hne : rounded m e ≠ 0 := by omega
    simp only [hlt, if_false, hne, dif_neg, not_false_eq_true]
    rfl

/-- The place of a rounded number; a carry leads to the place where the next exponent begins. -/
theorem ordinal_round (hm : m ≠ 0) (he : e ≤ targetExponent m e) :
    ordinal (Float.Model.pack (roundWithAccuracy .binary64 s m e .exact)).unpack =
      some (s.apply (min (place (rounded m e) (targetExponent m e)) infinitePlace : Nat)) := by
  have ht : -1074 ≤ targetExponent m e := le_max_right _ _
  rw [round_eq he]
  split
  · rename_i hz
    have hleast : targetExponent m e = -1074 := by
      by_contra hne
      have := le_rounded hm he hne
      omega
    rw [hz, hleast]
    cases s <;> rfl
  · split
    · rename_i hlt
      have hnormal : 2 ^ 52 ≤ rounded m e ∨ targetExponent m e = -1074 :=
        or_iff_not_imp_right.mpr (le_rounded hm he)
      exact ordinal_unpack_pack ⟨hlt, ht, hnormal⟩
    · have hcarry : rounded m e = 2 ^ 53 := by
        have := rounded_le (m := m) (e := e)
        omega
      have hplace : place (2 ^ 52) (targetExponent m e + 1) =
          place (rounded m e) (targetExponent m e) := by
        rw [hcarry]
        unfold place
        omega
      rw [← hplace]
      exact ordinal_unpack_pack ⟨by decide, by omega, .inl le_rfl⟩

end Rounding

theorem log2_mul_two_pow {m k : Nat} (hm : m ≠ 0) : (m * 2 ^ k).log2 = m.log2 + k := by
  have hpos : 0 < 2 ^ k := Nat.two_pow_pos k
  have hle : 2 ^ m.log2 * 2 ^ k ≤ m * 2 ^ k := Nat.mul_le_mul_right _ (Nat.log2_self_le hm)
  have hlt : m * 2 ^ k < 2 ^ (m.log2 + 1) * 2 ^ k :=
    Nat.mul_lt_mul_of_pos_right Nat.lt_log2_self hpos
  rw [Nat.log2_eq_iff (Nat.mul_ne_zero hm hpos.ne'), Nat.add_right_comm, Nat.pow_add,
    Nat.pow_add _ (_ + 1)]
  exact ⟨hle, hlt⟩

/-- How many places a number of the least units that a product can have is from zero, when it is
rounded to a double. -/
def roundedPlace (units : Nat) : Nat :=
  let shift := max (units.log2 - 52) 1074
  (shift - 1074) * 2 ^ 52 + roundDiv units (2 ^ shift)

theorem place_rounded {m : Nat} {e : Int} (hm : m ≠ 0) (hleast : -2148 ≤ e)
    (he : e ≤ targetExponent m e) :
    place (rounded m e) (targetExponent m e) = roundedPlace (m * 2 ^ (e + 2148).toNat) := by
  have ht : -1074 ≤ targetExponent m e := le_max_right _ _
  have hshift : max ((m * 2 ^ (e + 2148).toNat).log2 - 52) 1074 =
      (targetExponent m e - e).toNat + (e + 2148).toNat := by
    rw [log2_mul_two_pow hm]
    unfold targetExponent at *
    omega
  have hplace : (targetExponent m e - e).toNat + (e + 2148).toNat - 1074 =
      (targetExponent m e + 1074).toNat := by omega
  unfold roundedPlace place
  dsimp only
  rw [hshift, hplace, Nat.pow_add, roundDiv_mul_right (Nat.two_pow_pos _), rounded]

theorem roundedPlace_mono {u v : Nat} (h : u ≤ v) : roundedPlace u ≤ roundedPlace v := by
  have hlog : u.log2 ≤ v.log2 := by
    rw [Nat.log2_eq_log_two, Nat.log2_eq_log_two]
    exact Nat.log_mono_right h
  unfold roundedPlace
  dsimp only
  have hshift : max (u.log2 - 52) 1074 = max (v.log2 - 52) 1074 ∨
      max (u.log2 - 52) 1074 < max (v.log2 - 52) 1074 := by omega
  obtain heq | hlt := hshift
  · rw [heq]
    exact Nat.add_le_add_left (roundDiv_mono h) _
  · -- A greater shift leaves at least 52 bits, and what the lesser one rounds has at most 53.
    have hv : v ≠ 0 := by
      rintro rfl
      have hzero : Nat.log2 0 = 0 := by decide
      omega
    have hupper : u / 2 ^ max (u.log2 - 52) 1074 < 2 ^ 53 := by
      rw [Nat.div_lt_iff_lt_mul (Nat.two_pow_pos _), ← Nat.pow_add]
      exact Nat.lt_of_lt_of_le Nat.lt_log2_self (Nat.pow_le_pow_right (by decide) (by omega))
    have hlower : 2 ^ 52 ≤ v / 2 ^ max (v.log2 - 52) 1074 := by
      rw [Nat.le_div_iff_mul_le (Nat.two_pow_pos _), ← Nat.pow_add]
      exact (Nat.pow_le_pow_right (by decide) (by omega)).trans (Nat.log2_self_le hv)
    have hu := (roundDiv_bounds u (2 ^ max (u.log2 - 52) 1074)).2
    have hv := (roundDiv_bounds v (2 ^ max (v.log2 - 52) 1074)).1
    omega

def units (m : Nat) (e : Int) : Nat :=
  m * 2 ^ (e + 1074).toNat

theorem Canonical.units_le {m n : Nat} {d e : Int} (hm : Canonical m d) (hn : Canonical n e)
    (h : place m d ≤ place n e) : units m d ≤ units n e := by
  unfold units
  obtain hlt | ⟨rfl, hle⟩ := (hm.place_le_iff hn).mp h
  · have hnormal : 2 ^ 52 ≤ n := by
      have := hm.least_le
      have := hn.normal
      omega
    have hexponent : (d + 1074).toNat + 1 ≤ (e + 1074).toNat := by
      have := hm.least_le
      omega
    calc m * 2 ^ (d + 1074).toNat
        ≤ 2 ^ 53 * 2 ^ (d + 1074).toNat := Nat.mul_le_mul_right _ hm.lt.le
      _ = 2 ^ 52 * 2 ^ ((d + 1074).toNat + 1) := by
        rw [← Nat.pow_add, ← Nat.pow_add, ← Nat.add_assoc, Nat.add_right_comm]
      _ ≤ n * 2 ^ (e + 1074).toNat :=
        Nat.mul_le_mul hnormal (Nat.pow_le_pow_right (by decide) hexponent)
  · exact Nat.mul_le_mul_right _ hle

/-- Where multiplication by a positive number of so many units takes a place, signs aside. -/
inductive Scaled (u : Nat) : Nat → Nat → Prop
  | finite {n : Nat} {e : Int} : Canonical n e → e ≤ 971 →
      Scaled u (place n e) (min (roundedPlace (u * units n e)) infinitePlace)
  | infinite : Scaled u infinitePlace infinitePlace

namespace Scaled

variable {u p p' q q' : Nat}

theorem zero : Scaled u 0 0 := by
  have hzero : roundedPlace (u * units 0 (-1074)) = 0 := by
    have hunits : u * units 0 (-1074) = 0 := by simp [units]
    rw [hunits, roundedPlace, roundDiv_zero]
    rfl
  have h := finite (u := u) (n := 0) (e := -1074) ⟨by decide, le_rfl, .inr rfl⟩ (by decide)
  rw [hzero] at h
  exact h

theorem mono (hp : Scaled u p p') (hq : Scaled u q q') (h : p ≤ q) : p' ≤ q' := by
  cases hp with
  | finite hn he =>
    cases hq with
    | finite hn' he' =>
      have hunits := Nat.mul_le_mul_left u (hn.units_le hn' h)
      exact min_le_min_right _ (roundedPlace_mono hunits)
    | infinite => exact min_le_right _ _
  | infinite =>
    cases hq with
    | finite hn' he' => exact absurd (hn'.place_lt_iff.mpr he') h.not_gt
    | infinite => exact le_rfl

theorem apply_mono {s t : Sign} (hp : Scaled u p p') (hq : Scaled u q q')
    (h : s.apply p ≤ t.apply q) : s.apply p' ≤ t.apply q' := by
  have hpq := hp.mono hq
  have hqp := hq.mono hp
  have hp0 := hp.mono zero
  have hq0 := hq.mono zero
  cases s <;> cases t <;> simp only [Sign.apply] at h ⊢ <;> omega

end Scaled

section Products

variable {m : Nat} {d : Int} {hm : 0 < m}

theorem le_targetExponent_mul {n : Nat} {e : Int} (hmn : m * n ≠ 0) (h : Canonical m d)
    (k : Canonical n e) : d + e ≤ targetExponent (m * n) (d + e) := by
  unfold targetExponent
  obtain ⟨hm0, hn0⟩ := Nat.mul_ne_zero_iff.mp hmn
  by_cases hnormal : 2 ^ 52 ≤ m ∨ 2 ^ 52 ≤ n
  · have hle : 2 ^ 52 ≤ m * n := by
      obtain hle | hle := hnormal
      · exact hle.trans (Nat.le_mul_of_pos_right m (Nat.pos_of_ne_zero hn0))
      · exact hle.trans (Nat.le_mul_of_pos_left n (Nat.pos_of_ne_zero hm0))
    have hlog : 52 ≤ (m * n).log2 := (Nat.le_log2 hmn).mpr hle
    omega
  · have hd := h.normal
    have he := k.normal
    omega

theorem ordinal_mul {b : UnpackedFloat} {i : Int} (ha : Fits (.finite .positive m d hm))
    (hb : Fits b) (hi : ordinal b = some i) :
    ∃ (s : Sign) (p p' : Nat), i = s.apply p ∧ Scaled (units m d) p p' ∧
      ordinal (Float.Model.pack (.mul .binary64 (.finite .positive m d hm) b)).unpack =
        some (s.apply p') := by
  have hsign (s : Sign) : Sign.positive * s = s := by cases s <;> rfl
  cases b with
  | notANumber => cases hi
  | infinity s =>
    cases hi
    refine ⟨s, _, _, rfl, .infinite, ?_⟩
    change ordinal (Float.Model.pack (.infinity (.positive * s))).unpack = _
    rw [hsign]
    cases s <;> rfl
  | zero s =>
    cases hi
    refine ⟨.positive, 0, 0, rfl, .zero, ?_⟩
    change ordinal (Float.Model.pack (.zero (.positive * s))).unpack = _
    rw [hsign]
    cases s <;> rfl
  | finite s n e hn =>
    cases hi
    have hmn : m * n ≠ 0 := Nat.mul_ne_zero hm.ne' hn.ne'
    have hd := ha.1.least_le
    have he := hb.1.least_le
    have htarget := le_targetExponent_mul hmn ha.1 hb.1
    have hunits : m * n * 2 ^ (d + e + 2148).toNat = units m d * units n e := by
      have hexponent : (d + e + 2148).toNat = (d + 1074).toNat + (e + 1074).toNat := by omega
      unfold units
      rw [hexponent, Nat.pow_add]
      ring
    refine ⟨s, _, _, rfl, .finite hb.1 hb.2, ?_⟩
    change ordinal (Float.Model.pack
      (roundWithAccuracy .binary64 (.positive * s) (m * n) (d + e) .exact)).unpack = _
    rw [hsign, ordinal_round hmn htarget, place_rounded hmn (by omega) htarget, hunits]

end Products

theorem float_le_iff {x y : Float} :
    x ≤ y ↔ ∃ i ∈ ordinal x.toModel.unpack, ∃ j ∈ ordinal y.toModel.unpack, i ≤ j := by
  have hle : x ≤ y ↔ x.toModel.unpack.le y.toModel.unpack = true := decide_eq_true_iff
  rw [hle, le_iff (unpack_fits _) (unpack_fits _)]

theorem float_le_trans {x y z : Float} (hxy : x ≤ y) (hyz : y ≤ z) : x ≤ z := by
  obtain ⟨i, hi, j, hj, hij⟩ := float_le_iff.mp hxy
  obtain ⟨j', hj', k, hk, hjk⟩ := float_le_iff.mp hyz
  obtain rfl : j = j' := Option.mem_unique hj hj'
  exact float_le_iff.mpr ⟨i, hi, k, hk, hij.trans hjk⟩

def IsPositive (x : Float) : Prop :=
  ∃ m e hm, x.toModel.unpack = .finite .positive m e hm

theorem IsPositive.mul_le_mul {x y z : Float} (hx : IsPositive x) (h : y ≤ z) :
    x * y ≤ x * z := by
  obtain ⟨m, d, hm, hx⟩ := hx
  have hfits : Fits (.finite .positive m d hm) := hx ▸ unpack_fits x.toModel
  obtain ⟨i, hi, j, hj, hij⟩ := float_le_iff.mp h
  obtain ⟨s, p, p', rfl, hp, hy⟩ := ordinal_mul hfits (unpack_fits _) hi
  obtain ⟨t, q, q', rfl, hq, hz⟩ := ordinal_mul hfits (unpack_fits _) hj
  have hproduct (w : Float) : (x * w).toModel.unpack =
      (Float.Model.pack (.mul .binary64 (.finite .positive m d hm) w.toModel.unpack)).unpack := by
    rw [← hx]
    rfl
  apply float_le_iff.mpr
  rw [hproduct, hproduct, hy, hz]
  exact ⟨_, rfl, _, rfl, hp.apply_mono hq hij⟩

theorem unpack_abs (x : Float) : x.abs.toModel.unpack = x.toModel.unpack.abs := by
  have hfits : Fits x.toModel.unpack.abs := by
    have h := unpack_fits x.toModel
    cases hx : x.toModel.unpack with
    | finite s m e hm =>
      rw [hx] at h
      exact h
    | _ => trivial
  exact unpack_pack hfits

theorem isPositive_abs_or_zero {x : Float} (hx : x.isFinite = true) :
    IsPositive x.abs ∨ ∃ s, x.toModel.unpack = .zero s := by
  have hx : x.toModel.unpack.isFinite = true := hx
  have habs := unpack_abs x
  cases hu : x.toModel.unpack with
  | notANumber => simp [hu, UnpackedFloat.isFinite] at hx
  | infinity s => simp [hu, UnpackedFloat.isFinite] at hx
  | zero s => exact .inr ⟨s, rfl⟩
  | finite s m e hm =>
    rw [hu] at habs
    exact .inl ⟨m, e, hm, habs⟩

theorem float_lt_iff {x y : Float} : x < y ↔ x.toModel.unpack.lt y.toModel.unpack = true :=
  decide_eq_true_iff

def greaterMagnitude (x y : Float) : Float :=
  if x.abs < y.abs then y.abs else x.abs

theorem isPositive_greaterMagnitude {x y : Float} (hne : ¬(x == y) = true)
    (hx : x.isFinite = true) (hy : y.isFinite = true) : IsPositive (greaterMagnitude x y) := by
  unfold greaterMagnitude
  obtain hxpos | ⟨s, hs⟩ := isPositive_abs_or_zero hx
  · obtain hypos | ⟨t, ht⟩ := isPositive_abs_or_zero hy
    · split
      · exact hypos
      · exact hxpos
    · obtain ⟨m, e, hm, hxabs⟩ := hxpos
      have hge : ¬x.abs < y.abs := by
        rw [float_lt_iff, hxabs, unpack_abs, ht]
        exact Bool.false_ne_true
      rw [if_neg hge]
      exact ⟨m, e, hm, hxabs⟩
  · obtain ⟨n, e, hn, hyabs⟩ | ⟨t, ht⟩ := isPositive_abs_or_zero hy
    · have hlt : x.abs < y.abs := by
        rw [float_lt_iff, unpack_abs, hs, hyabs]
        rfl
      rw [if_pos hlt]
      exact ⟨n, e, hn, hyabs⟩
    · have heq : (x == y) = true := by
        change x.toModel.unpack.beq y.toModel.unpack = true
        rw [hs, ht]
        rfl
      exact absurd heq hne

theorem isNaN_eq_false_of_gap_le {x y z : Float} (h : (x - y).abs ≤ z) :
    x.isNaN = false ∧ y.isNaN = false := by
  obtain ⟨i, hi, -⟩ := float_le_iff.mp h
  have hgap : (x - y).abs.toModel.unpack =
      (Float.Model.pack (.sub .binary64 x.toModel.unpack y.toModel.unpack)).unpack.abs :=
    unpack_abs (x - y)
  have hnone : ordinal (Float.Model.pack .notANumber).unpack.abs = none := rfl
  have hleft (b : UnpackedFloat) : UnpackedFloat.sub .binary64 .notANumber b = .notANumber := by
    cases b <;> rfl
  have hright (a : UnpackedFloat) : UnpackedFloat.sub .binary64 a .notANumber = .notANumber := by
    cases a <;> rfl
  change x.toModel.unpack.isNaN = false ∧ y.toModel.unpack.isNaN = false
  rw [hgap] at hi
  constructor
  · cases hx : x.toModel.unpack with
    | notANumber =>
      rw [hx, hleft, hnone] at hi
      cases hi
    | _ => rfl
  · cases hy : y.toModel.unpack with
    | notANumber =>
      rw [hy, hright, hnone] at hi
      cases hi
    | _ => rfl

theorem isFinite_eq_true_iff {x : Float} :
    x.isFinite = true ↔ x.isNaN = false ∧ x.isInf = false := by
  change x.toModel.unpack.isFinite = true ↔
    x.toModel.unpack.isNaN = false ∧ x.toModel.unpack.isInf = false
  cases x.toModel.unpack <;>
    simp [UnpackedFloat.isFinite, UnpackedFloat.isNaN, UnpackedFloat.isInf]

theorem agreeWithin_iff_of_ne {tolerance x y : Float} (hne : ¬(x == y) = true) :
    agreeWithin tolerance x y = true ↔ x.isInf = false ∧ y.isInf = false ∧
      ((x - y).abs ≤ indistinctGap ∨ (x - y).abs ≤ greaterMagnitude x y * tolerance) := by
  simp only [agreeWithin, hne, greaterMagnitude]
  cases x.isInf <;> cases y.isInf <;> simp

/-- Two doubles that agree within a tolerance agree within any larger one. -/
theorem agreeWithin_mono {tolerance larger x y : Float} (h : tolerance ≤ larger)
    (hxy : agreeWithin tolerance x y = true) : agreeWithin larger x y = true := by
  by_cases heq : (x == y) = true
  · simp [agreeWithin, heq]
  · rw [agreeWithin_iff_of_ne heq] at hxy ⊢
    obtain ⟨hx, hy, hgap⟩ := hxy
    refine ⟨hx, hy, ?_⟩
    obtain hgap | hgap := hgap
    · exact .inl hgap
    · right
      have hnumbers := isNaN_eq_false_of_gap_le hgap
      have hpositive : IsPositive (greaterMagnitude x y) := isPositive_greaterMagnitude heq
        (isFinite_eq_true_iff.mpr ⟨hnumbers.1, hx⟩) (isFinite_eq_true_iff.mpr ⟨hnumbers.2, hy⟩)
      exact float_le_trans hgap (hpositive.mul_le_mul h)

end Double
end GeoConformance
