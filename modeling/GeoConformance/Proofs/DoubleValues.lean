import GeoConformance.Proofs.DoubleProducts

/-! The numbers that doubles stand for, as rationals. The order of doubles is the order of their
numbers. -/
namespace GeoConformance
namespace Double

open Float.Model (UnpackedFloat)
open Float.Model.UnpackedFloat (Sign)

/-- The number that the parts of a double stand for; zero for what is not a number or not finite. -/
def number : UnpackedFloat → ℚ
  | .finite s m e _ => s.apply m * 2 ^ e
  | _ => 0

def value (x : Float) : ℚ :=
  number x.toModel.unpack

section Magnitudes

variable {m n : Nat} {d e : Int}

theorem two_zpow_pos (e : Int) : (0 : ℚ) < 2 ^ e :=
  zpow_pos (by decide) e

theorem Canonical.lt_of_place_lt (hm : Canonical m d) (hn : Canonical n e)
    (h : place m d < place n e) : d < e ∨ d = e ∧ m < n := by
  have hnot : ¬(e < d ∨ e = d ∧ n ≤ m) := fun hle => absurd ((hn.place_le_iff hm).mpr hle) h.not_ge
  omega

theorem Canonical.magnitude_lt_of_place_lt (hm : Canonical m d) (hn : Canonical n e)
    (h : place m d < place n e) : (m : ℚ) * 2 ^ d < n * 2 ^ e := by
  obtain hlt | ⟨rfl, hlt⟩ := hm.lt_of_place_lt hn h
  · -- The greater exponent is not the least one, so its significand has all of its bits.
    have hnormal : 2 ^ 52 ≤ n := by
      have := hm.least_le
      have := hn.normal
      omega
    calc (m : ℚ) * 2 ^ d
        < 2 ^ 53 * 2 ^ d := mul_lt_mul_of_pos_right (by exact_mod_cast hm.lt) (two_zpow_pos d)
      _ = 2 ^ 52 * 2 ^ (d + 1) := by rw [zpow_add_one₀ (by decide)]; ring
      _ ≤ n * 2 ^ e := by
        have hpow : (2 : ℚ) ^ (d + 1) ≤ 2 ^ e := zpow_le_zpow_right₀ (by decide) hlt
        exact mul_le_mul (by exact_mod_cast hnormal) hpow (two_zpow_pos _).le (Nat.cast_nonneg n)
  · exact mul_lt_mul_of_pos_right (by exact_mod_cast hlt) (two_zpow_pos d)

theorem Canonical.place_inj (hm : Canonical m d) (hn : Canonical n e)
    (h : place m d = place n e) : m = n ∧ d = e := by
  have hle := (hm.place_le_iff hn).mp h.le
  have hge := (hn.place_le_iff hm).mp h.ge
  omega

theorem Canonical.compare_magnitude (hm : Canonical m d) (hn : Canonical n e) :
    compare ((m : ℚ) * 2 ^ d) (n * 2 ^ e) = (compare d e).then (compare m n) := by
  obtain hlt | heq | hgt := lt_trichotomy (place m d) (place n e)
  · rw [compare_lt_iff_lt.mpr (hm.magnitude_lt_of_place_lt hn hlt)]
    obtain hd | ⟨rfl, hmn⟩ := hm.lt_of_place_lt hn hlt
    · rw [compare_lt_iff_lt.mpr hd]
      rfl
    · rw [compare_eq_iff_eq.mpr rfl, compare_lt_iff_lt.mpr hmn]
      rfl
  · obtain ⟨rfl, rfl⟩ := hm.place_inj hn heq
    simp
  · rw [compare_gt_iff_gt.mpr (hn.magnitude_lt_of_place_lt hm hgt)]
    obtain hd | ⟨rfl, hmn⟩ := hn.lt_of_place_lt hm hgt
    · rw [compare_gt_iff_gt.mpr hd]
      rfl
    · rw [compare_eq_iff_eq.mpr rfl, compare_gt_iff_gt.mpr hmn]
      rfl

end Magnitudes

section Numbers

variable {m : Nat} {e : Int}

theorem magnitude_pos (hm : 0 < m) (e : Int) : (0 : ℚ) < m * 2 ^ e :=
  mul_pos (by exact_mod_cast hm) (two_zpow_pos e)

theorem zero_or_finite {a : UnpackedFloat} (h : a.isFinite = true) :
    (∃ s, a = .zero s) ∨ ∃ s m e hm, a = .finite s m e hm := by
  cases a with
  | notANumber => simp [UnpackedFloat.isFinite] at h
  | infinity s => simp [UnpackedFloat.isFinite] at h
  | zero s => exact .inl ⟨s, rfl⟩
  | finite s m e hm => exact .inr ⟨s, m, e, hm, rfl⟩

theorem number_zero (s : Sign) : number (.zero s) = 0 := by
  simp [number]

theorem number_eq {s : Sign} {hm : 0 < m} :
    number (.finite s m e hm) = s.apply 1 * (m * 2 ^ e) := by
  cases s <;> simp [number, Sign.apply]

theorem number_negative_lt {hm : 0 < m} : number (.finite .negative m e hm) < 0 := by
  simpa [number_eq, Sign.apply] using magnitude_pos hm e

theorem number_positive_pos {hm : 0 < m} : 0 < number (.finite .positive m e hm) := by
  simpa [number_eq, Sign.apply] using magnitude_pos hm e

end Numbers

theorem compare_neg (p q : ℚ) : compare (-p) (-q) = (compare p q).swap := by
  obtain h | rfl | h := lt_trichotomy p q
  · rw [compare_lt_iff_lt.mpr h, compare_gt_iff_gt.mpr (neg_lt_neg h)]
    rfl
  · simp
  · rw [compare_gt_iff_gt.mpr h, compare_lt_iff_lt.mpr (neg_lt_neg h)]
    rfl

/-- Comparison of finite doubles is comparison of their numbers. -/
theorem compare_eq {a b : UnpackedFloat} (ha : Fits a) (hb : Fits b) (hfinite : a.isFinite = true)
    (hfinite' : b.isFinite = true) : a.compare b = some (compare (number a) (number b)) := by
  obtain ⟨s, rfl⟩ | ⟨s, m, d, hm, rfl⟩ := zero_or_finite hfinite
  · rw [number_zero]
    obtain ⟨t, rfl⟩ | ⟨t, n, e, hn, rfl⟩ := zero_or_finite hfinite'
    · rw [number_zero, compare_eq_iff_eq.mpr rfl]
      rfl
    · cases t with
      | negative =>
        rw [compare_gt_iff_gt.mpr number_negative_lt]
        rfl
      | positive =>
        rw [compare_lt_iff_lt.mpr number_positive_pos]
        rfl
  · obtain ⟨t, rfl⟩ | ⟨t, n, e, hn, rfl⟩ := zero_or_finite hfinite'
    · rw [number_zero]
      cases s with
      | negative =>
        rw [compare_lt_iff_lt.mpr number_negative_lt]
        rfl
      | positive =>
        rw [compare_gt_iff_gt.mpr number_positive_pos]
        rfl
    · have hmagnitude := ha.1.compare_magnitude hb.1
      cases s with
      | negative =>
        cases t with
        | negative =>
          simp [UnpackedFloat.compare, number_eq, Sign.apply, compare_neg, hmagnitude]
        | positive =>
          rw [compare_lt_iff_lt.mpr (number_negative_lt.trans number_positive_pos)]
          rfl
      | positive =>
        cases t with
        | negative =>
          rw [compare_gt_iff_gt.mpr (number_negative_lt.trans number_positive_pos)]
          rfl
        | positive => simp [UnpackedFloat.compare, number_eq, Sign.apply, hmagnitude]

section Floats

variable {x y : Float}

theorem le_iff_value (hx : x.isFinite = true) (hy : y.isFinite = true) :
    x ≤ y ↔ value x ≤ value y := by
  have hle : x ≤ y ↔ x.toModel.unpack.le y.toModel.unpack = true := decide_eq_true_iff
  rw [hle, UnpackedFloat.le, compare_eq (unpack_fits _) (unpack_fits _) hx hy, Option.any_some,
    Ordering.isLE_iff_ne_gt, compare_gt_iff_gt, not_lt]
  rfl

theorem lt_iff_value (hx : x.isFinite = true) (hy : y.isFinite = true) :
    x < y ↔ value x < value y := by
  rw [float_lt_iff, UnpackedFloat.lt, compare_eq (unpack_fits _) (unpack_fits _) hx hy]
  simp [compare_lt_iff_lt, value]

theorem zero_lt_iff_value (hx : x.isFinite = true) : 0 < x ↔ 0 < value x := by
  have hzero : value 0 = 0 := by decide +kernel
  rw [lt_iff_value (by decide) hx, hzero]

theorem beq_iff_value (hx : x.isFinite = true) (hy : y.isFinite = true) :
    (x == y) = true ↔ value x = value y := by
  have hbeq : (x == y) = true ↔ x.toModel.unpack.beq y.toModel.unpack = true := Iff.rfl
  rw [hbeq, UnpackedFloat.beq, compare_eq (unpack_fits _) (unpack_fits _) hx hy]
  simp [value]

theorem value_abs (x : Float) : value x.abs = |value x| := by
  rw [value, unpack_abs, value]
  cases x.toModel.unpack with
  | finite s m e hm =>
    have hpos := magnitude_pos hm e
    cases s <;> simp [UnpackedFloat.abs, number_eq, Sign.apply, abs_of_pos hpos]
  | _ => simp [UnpackedFloat.abs, number]

theorem isFinite_abs (x : Float) : x.abs.isFinite = x.isFinite := by
  change x.abs.toModel.unpack.isFinite = x.toModel.unpack.isFinite
  rw [unpack_abs]
  cases x.toModel.unpack <;> rfl

end Floats

end Double
end GeoConformance
