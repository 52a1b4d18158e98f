import GeoConformance.Proofs.DoubleRounding

/-! Doubles in another unit. A power of two times a number is rounded to that power times the
rounded number, as long as neither overflows or underflows. So a computation with lengths then gives
the same lengths in any unit that is a power of two of the first, and comparisons of lengths and
quotients of lengths have no unit at all. -/
namespace GeoConformance
namespace Double

open Float.Model (UnpackedFloat)
open Float.Model.UnpackedFloat (Sign)

/-- The number is below all doubles that have 53 bits, and loses some of its own. -/
def Underflows (q : ℚ) : Prop :=
  |q| < 2 ^ (-1022 : ℤ) ∧ nearest q ≠ q

/-- Rounding neither overflows nor underflows, for the number and for `2 ^ k` times it. -/
structure KeepsRange (k : ℤ) (q : ℚ) : Prop where
  small : ¬Overflows q
  small_scaled : ¬Overflows (2 ^ k * q)
  large : ¬Underflows q
  large_scaled : ¬Underflows (2 ^ k * q)

section Rounding

variable {q : ℚ} {k : ℤ}

theorem nearest_eq_self_iff : nearest q = q ↔ (significand |q| : ℚ) * 2 ^ exponent |q| = |q| := by
  unfold nearest
  split
  · rename_i hneg
    rw [abs_of_neg hneg, neg_eq_iff_eq_neg]
  · rename_i hnonneg
    rw [abs_of_nonneg (not_lt.mp hnonneg)]

theorem nearest_eq_self {m : ℕ} {e : ℤ} (hm : m < 2 ^ 53) (he : -1074 ≤ e)
    (hq : |q| = m * 2 ^ e) : nearest q = q := by
  rw [nearest_eq_self_iff, hq]
  obtain rfl | hm0 := eq_or_ne m 0
  · simp [significand_zero]
  have hexponent := exponent_dyadic hm0 (e := e)
  generalize hj : (e - targetExponent m e).toNat = j
  have htarget : (e : ℤ) = targetExponent m e + j := by
    have hlog : m.log2 < 53 := (Nat.log2_lt hm0).mpr hm
    unfold targetExponent at *
    omega
  have hnumber : (m : ℚ) * 2 ^ e = (m * 2 ^ j : ℕ) * 2 ^ targetExponent m e := by
    nth_rewrite 1 [htarget]
    rw [zpow_add₀ (by decide), zpow_natCast]
    push_cast
    ring
  have hsignificand : significand (m * 2 ^ e) = m * 2 ^ j := by
    have hwhole : (m : ℚ) * 2 ^ e / 2 ^ exponent (m * 2 ^ e) = (m * 2 ^ j : ℕ) / (1 : ℕ) := by
      rw [hexponent, hnumber, mul_div_cancel_right₀ _ (two_zpow_pos _).ne', Nat.cast_one, div_one]
    rw [significand_eq Nat.one_pos hwhole]
    simp [roundDiv, Nat.mod_one]
  rw [hsignificand, hexponent, ← hnumber]

theorem nearest_of_tiny (htiny : |q| < 2 ^ (-1022 : ℤ)) (hq : ¬Underflows q) : nearest q = q := by
  by_contra hne
  exact hq ⟨htiny, hne⟩

theorem exists_units_of_tiny (htiny : |q| < 2 ^ (-1022 : ℤ)) (hq : ¬Underflows q) :
    ∃ n : ℕ, n < 2 ^ 53 ∧ |q| = n * 2 ^ (-1074 : ℤ) := by
  have hself := nearest_eq_self_iff.mp (nearest_of_tiny htiny hq)
  obtain rfl | hne := eq_or_ne q 0
  · exact ⟨0, by decide, by simp⟩
  have hlog : Int.log 2 |q| < -1022 :=
    (Int.lt_zpow_iff_log_lt (by decide) (abs_pos.mpr hne)).mp (by exact_mod_cast htiny)
  have hexponent : exponent |q| = -1074 := by
    unfold exponent
    omega
  rw [hexponent] at hself
  refine ⟨significand |q|, ?_, hself.symm⟩
  by_contra hlarge
  have hle : (2 : ℚ) ^ (-1022 : ℤ) ≤ |q| := by
    rw [← hself]
    calc (2 : ℚ) ^ (-1022 : ℤ)
        = (2 ^ 52 : ℕ) * 2 ^ (-1074 : ℤ) := by
          rw [Nat.cast_pow, Nat.cast_ofNat, ← zpow_natCast, ← zpow_add₀ (by decide)]
          rfl
      _ ≤ significand |q| * 2 ^ (-1074 : ℤ) := by
          refine mul_le_mul_of_nonneg_right ?_ (two_zpow_pos _).le
          exact_mod_cast (show 2 ^ 52 ≤ significand |q| by omega)
  exact absurd htiny hle.not_gt

theorem nearest_two_zpow_mul_of_normal (hq : 2 ^ (-1022 : ℤ) ≤ |q|)
    (hkq : 2 ^ (-1022 : ℤ) ≤ |2 ^ k * q|) : nearest (2 ^ k * q) = 2 ^ k * nearest q := by
  have hpow := two_zpow_pos k
  rw [abs_mul, abs_of_pos hpow] at hkq
  have hq0 : 0 < |q| := (two_zpow_pos _).trans_le hq
  have hlog := log_mul_two_zpow hq0 k
  have hle : -1022 ≤ Int.log 2 |q| :=
    (Int.zpow_le_iff_le_log (by decide) hq0).mp (by exact_mod_cast hq)
  have hle' : -1022 ≤ Int.log 2 (2 ^ k * |q|) :=
    (Int.zpow_le_iff_le_log (by decide) (mul_pos hpow hq0)).mp (by exact_mod_cast hkq)
  have hexponent : exponent (2 ^ k * |q|) = exponent |q| + k := by
    unfold exponent
    omega
  have hsame : 2 ^ k * |q| / 2 ^ (exponent |q| + k) = |q| / 2 ^ exponent |q| := by
    rw [zpow_add₀ (by decide)]
    field_simp
  have hsignificand : significand (2 ^ k * |q|) = significand |q| := by
    simp only [significand, hexponent, hsame]
  have hsign : 2 ^ k * q < 0 ↔ q < 0 :=
    ⟨fun h => neg_of_mul_neg_right h hpow.le, mul_neg_of_pos_of_neg hpow⟩
  unfold nearest
  simp only [abs_mul, abs_of_pos hpow, hsignificand, hexponent, hsign, zpow_add₀ (two_ne_zero' ℚ)]
  split <;> ring

theorem nearest_two_zpow_mul_of_tiny (htiny : |q| < 2 ^ (-1022 : ℤ)) (hq : ¬Underflows q)
    (hkq : ¬Underflows (2 ^ k * q)) : nearest (2 ^ k * q) = 2 ^ k * nearest q := by
  have hpow := two_zpow_pos k
  rw [nearest_of_tiny htiny hq]
  by_cases hk : 0 ≤ k
  · obtain ⟨n, hn, hunits⟩ := exists_units_of_tiny htiny hq
    refine nearest_eq_self hn (e := k - 1074) (by omega) ?_
    rw [abs_mul, abs_of_pos hpow, hunits, sub_eq_add_neg, zpow_add₀ (by decide)]
    ring
  · refine nearest_of_tiny (lt_of_le_of_lt ?_ htiny) hkq
    rw [abs_mul, abs_of_pos hpow]
    exact mul_le_of_le_one_left (abs_nonneg q) (zpow_le_one_of_nonpos₀ (by decide) (by omega))

/-- Rounding goes with the change of unit, unless one of the two underflows. -/
theorem nearest_two_zpow_mul (hq : ¬Underflows q) (hkq : ¬Underflows (2 ^ k * q)) :
    nearest (2 ^ k * q) = 2 ^ k * nearest q := by
  by_cases htiny : |q| < 2 ^ (-1022 : ℤ)
  · exact nearest_two_zpow_mul_of_tiny htiny hq hkq
  by_cases htiny' : |2 ^ k * q| < 2 ^ (-1022 : ℤ)
  · -- Here the change of unit back is the one that starts below the normal doubles.
    have hback : 2 ^ (-k) * (2 ^ k * q) = q := by
      rw [← mul_assoc, ← zpow_add₀ (by decide), neg_add_cancel, zpow_zero, one_mul]
    have h := nearest_two_zpow_mul_of_tiny (k := -k) htiny' hkq (hback.symm ▸ hq)
    rw [hback] at h
    rw [h, ← mul_assoc, ← zpow_add₀ (by decide), add_neg_cancel, zpow_zero, one_mul]
  · exact nearest_two_zpow_mul_of_normal (not_lt.mp htiny) (not_lt.mp htiny')

theorem nearest_ne_zero (hq : ¬Underflows q) (hne : q ≠ 0) : nearest q ≠ 0 := by
  have hpos := abs_pos.mpr hne
  by_cases htiny : |q| < 2 ^ (-1022 : ℤ)
  · rwa [nearest_of_tiny htiny hq]
  · have hlog : -1022 ≤ Int.log 2 |q| :=
      (Int.zpow_le_iff_le_log (by decide) hpos).mp (by exact_mod_cast not_lt.mp htiny)
    have hsignificand := le_significand hpos hlog
    rw [← abs_pos, abs_nearest]
    exact magnitude_pos (by omega) _

theorem nearest_value {x : Float} (hx : x.isFinite = true) : nearest (value x) = value x := by
  have hfits := unpack_fits x.toModel
  have hfinite : x.toModel.unpack.isFinite = true := hx
  unfold value
  obtain ⟨s, hs⟩ | ⟨s, m, e, hm, hs⟩ := zero_or_finite hfinite
  · rw [hs, number_zero, nearest_zero]
  · rw [hs] at hfits ⊢
    refine nearest_eq_self hfits.1.lt hfits.1.least_le ?_
    have hpos := magnitude_pos hm e
    cases s <;> simp [number_eq, Sign.apply, abs_of_pos hpos]

theorem isFinite_of_value_ne_zero {x : Float} (hx : value x ≠ 0) : x.isFinite = true := by
  change x.toModel.unpack.isFinite = true
  unfold value at hx
  cases h : x.toModel.unpack <;> simp_all [number, UnpackedFloat.isFinite]

theorem isFinite_of_isFinite_mul {x y : Float} (h : (x * y).isFinite = true) :
    y.isFinite = true := by
  by_contra hy
  change ¬y.toModel.unpack.isFinite = true at hy
  change (Float.Model.pack
    (.mul .binary64 x.toModel.unpack y.toModel.unpack)).unpack.isFinite = true at h
  generalize y.toModel.unpack = b at *
  generalize x.toModel.unpack = a at *
  have hproduct : UnpackedFloat.mul .binary64 a b = .notANumber ∨
      ∃ t, UnpackedFloat.mul .binary64 a b = .infinity t := by
    cases a <;> cases b <;> simp_all [UnpackedFloat.mul, UnpackedFloat.isFinite]
  obtain hproduct | ⟨t, hproduct⟩ := hproduct
  · rw [hproduct, unpack_pack (a := .notANumber) trivial] at h
    cases h
  · rw [hproduct, unpack_pack (a := .infinity t) trivial] at h
    cases h

theorem IsRounded.unique {a b : UnpackedFloat} (ha : IsRounded a q) (hb : IsRounded b q)
    (hq : q ≠ 0) : a = b := by
  obtain ⟨s, rfl, hs⟩ := ha
  obtain ⟨t, rfl, ht⟩ := hb
  have hsign : (s.apply 1 : ℚ) = t.apply 1 :=
    mul_right_cancel₀ (abs_pos.mpr hq).ne' (hs.trans ht.symm)
  cases s <;> cases t <;> first | rfl | (norm_num [Sign.apply] at hsign)

theorem keepsRange_of_normal (hq : 2 ^ (-1022 : ℤ) ≤ |q| ∧ |q| < 2 ^ (1023 : ℤ))
    (hkq : 2 ^ (-1022 : ℤ) ≤ |2 ^ k * q| ∧ |2 ^ k * q| < 2 ^ (1023 : ℤ)) : KeepsRange k q :=
  ⟨not_overflows hq.2, not_overflows hkq.2, fun h => absurd h.1 hq.1.not_gt,
    fun h => absurd h.1 hkq.1.not_gt⟩

end Rounding

structure IsScaled (k : ℤ) (x x' : Float) : Prop where
  finite : x.isFinite = true
  finite_scaled : x'.isFinite = true
  value_eq : value x' = 2 ^ k * value x

namespace IsScaled

variable {k : ℤ} {x x' y y' : Float}

theorem of_value_eq_two_zpow {s : Float} (hs : value s = 2 ^ k) (hx : x.isFinite = true)
    (h : KeepsRange k (value x)) : IsScaled k x (s * x) := by
  have hfinite : s.isFinite = true := isFinite_of_value_ne_zero (hs ▸ (two_zpow_pos k).ne')
  obtain ⟨hproduct, hvalue⟩ := value_mul hfinite hx (hs ▸ h.small_scaled)
  refine ⟨hx, hproduct, ?_⟩
  rw [hvalue, hs, nearest_two_zpow_mul h.large h.large_scaled, nearest_value hx]

theorem mul_right (h : IsScaled k x x') (hy : y.isFinite = true)
    (hrange : KeepsRange k (value x * value y)) : IsScaled k (x * y) (x' * y) := by
  have hproduct : value x' * value y = 2 ^ k * (value x * value y) := by
    rw [h.value_eq, mul_assoc]
  obtain ⟨hfinite, hvalue⟩ := value_mul h.finite hy hrange.small
  obtain ⟨hfinite', hvalue'⟩ := value_mul h.finite_scaled hy (hproduct ▸ hrange.small_scaled)
  refine ⟨hfinite, hfinite', ?_⟩
  rw [hvalue', hvalue, hproduct, nearest_two_zpow_mul hrange.large hrange.large_scaled]

theorem sub (hx : IsScaled k x x') (hy : IsScaled k y y')
    (hrange : KeepsRange k (value x - value y)) : IsScaled k (x - y) (x' - y') := by
  have hdifference : value x' - value y' = 2 ^ k * (value x - value y) := by
    rw [hx.value_eq, hy.value_eq, mul_sub]
  obtain ⟨hfinite, hvalue⟩ := value_sub hx.finite hy.finite hrange.small
  obtain ⟨hfinite', hvalue'⟩ := value_sub hx.finite_scaled hy.finite_scaled
    (hdifference ▸ hrange.small_scaled)
  refine ⟨hfinite, hfinite', ?_⟩
  rw [hvalue', hvalue, hdifference, nearest_two_zpow_mul hrange.large hrange.large_scaled]

theorem abs (h : IsScaled k x x') : IsScaled k x.abs x'.abs := by
  refine ⟨isFinite_abs x ▸ h.finite, isFinite_abs x' ▸ h.finite_scaled, ?_⟩
  rw [value_abs, value_abs, h.value_eq, abs_mul, abs_of_pos (two_zpow_pos k)]

theorem le_iff (hx : IsScaled k x x') (hy : IsScaled k y y') : x' ≤ y' ↔ x ≤ y := by
  rw [le_iff_value hx.finite_scaled hy.finite_scaled, le_iff_value hx.finite hy.finite,
    hx.value_eq, hy.value_eq, mul_le_mul_iff_of_pos_left (two_zpow_pos k)]

theorem lt_iff (hx : IsScaled k x x') (hy : IsScaled k y y') : x' < y' ↔ x < y := by
  rw [lt_iff_value hx.finite_scaled hy.finite_scaled, lt_iff_value hx.finite hy.finite,
    hx.value_eq, hy.value_eq, mul_lt_mul_iff_of_pos_left (two_zpow_pos k)]

theorem beq_eq (hx : IsScaled k x x') (hy : IsScaled k y y') : (x' == y') = (x == y) := by
  rw [Bool.eq_iff_iff, beq_iff_value hx.finite_scaled hy.finite_scaled,
    beq_iff_value hx.finite hy.finite, hx.value_eq, hy.value_eq,
    mul_right_inj' (two_zpow_pos k).ne']

theorem greaterMagnitude (hx : IsScaled k x x') (hy : IsScaled k y y') :
    IsScaled k (greaterMagnitude x y) (greaterMagnitude x' y') := by
  unfold Double.greaterMagnitude
  simp only [hx.abs.lt_iff hy.abs]
  split
  · exact hy.abs
  · exact hx.abs

theorem zero_lt_iff (h : IsScaled k x x') : 0 < x' ↔ 0 < x := by
  rw [zero_lt_iff_value h.finite_scaled, zero_lt_iff_value h.finite, h.value_eq,
    mul_pos_iff_of_pos_left (two_zpow_pos k)]

/-- Quotients have no unit. -/
theorem div_eq (hx : IsScaled k x x') (hy : IsScaled k y y') (hx0 : value x ≠ 0)
    (hy0 : value y ≠ 0) : x' / y' = x / y := by
  have hpow : (2 : ℚ) ^ k ≠ 0 := (two_zpow_pos k).ne'
  have h := isRounded_div (unpack_fits x.toModel) (unpack_fits y.toModel) hx.finite hy.finite hy0
  have hy0' : value y' ≠ 0 := hy.value_eq ▸ mul_ne_zero hpow hy0
  have h' := isRounded_div (unpack_fits x'.toModel) (unpack_fits y'.toModel) hx.finite_scaled
    hy.finite_scaled hy0'
  have hquotient : value x' / value y' = value x / value y := by
    rw [hx.value_eq, hy.value_eq, mul_div_mul_left _ _ hpow]
  change IsRounded _ (value x' / value y') at h'
  rw [hquotient] at h'
  have hsame := h'.unique h (div_ne_zero hx0 hy0)
  exact congrArg (fun a => Float.ofModel (Float.Model.pack a)) hsame

end IsScaled

end Double
end GeoConformance
