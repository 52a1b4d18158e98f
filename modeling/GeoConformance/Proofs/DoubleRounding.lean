import GeoConformance.Proofs.DoubleValues

/-! Arithmetic of doubles is exact arithmetic with a rounded result. A product, a difference and a
quotient of doubles are the doubles nearest to the product, the difference and the quotient of their
numbers. -/
namespace GeoConformance
namespace Double

open Float.Model (UnpackedFloat Format totalExponent)
open Float.Model.UnpackedFloat (Accuracy ExtendedMantissa Sign roundWithAccuracy decreaseExponent)

def exponent (q : ℚ) : ℤ :=
  max (Int.log 2 q - 52) (-1074)

def significand (q : ℚ) : ℕ :=
  let x := q / 2 ^ exponent q
  roundDiv x.num.toNat x.den

/-- The double nearest to a positive number, with no bound above on its exponent. -/
def roundedTo (s : Sign) (q : ℚ) : UnpackedFloat :=
  if h : significand q = 0 then .zero s
  else if significand q < 2 ^ 53 then
    .finite s (significand q) (exponent q) (Nat.pos_of_ne_zero h)
  else .finite s (2 ^ 52) (exponent q + 1) (by decide)

theorem log_eq {q : ℚ} {n : ℤ} (hle : 2 ^ n ≤ q) (hlt : q < 2 ^ (n + 1)) : Int.log 2 q = n := by
  have hq : 0 < q := (two_zpow_pos n).trans_le hle
  have hn : n ≤ Int.log 2 q := (Int.zpow_le_iff_le_log (by decide) hq).mp (by exact_mod_cast hle)
  have hn' : Int.log 2 q < n + 1 :=
    (Int.lt_zpow_iff_log_lt (by decide) hq).mp (by exact_mod_cast hlt)
  omega

theorem two_zpow_log_le {q : ℚ} (hq : 0 < q) : 2 ^ Int.log 2 q ≤ q := by
  exact_mod_cast Int.zpow_log_le_self (R := ℚ) (by decide : 1 < 2) hq

theorem lt_two_zpow_log (q : ℚ) : q < 2 ^ (Int.log 2 q + 1) := by
  exact_mod_cast Int.lt_zpow_succ_log_self (by decide : 1 < 2) q

theorem log_mul_two_zpow {q : ℚ} (hq : 0 < q) (k : ℤ) :
    Int.log 2 (2 ^ k * q) = Int.log 2 q + k := by
  apply log_eq
  · rw [zpow_add₀ (by decide), mul_comm]
    exact mul_le_mul_of_nonneg_left (two_zpow_log_le hq) (two_zpow_pos k).le
  · rw [add_right_comm, zpow_add₀ (by decide), mul_comm]
    exact mul_lt_mul_of_pos_right (lt_two_zpow_log q) (two_zpow_pos k)

theorem significand_eq {q : ℚ} {num den : ℕ} (hden : 0 < den)
    (h : q / 2 ^ exponent q = num / den) : significand q = roundDiv num den := by
  obtain ⟨c, hnum, hdenom⟩ := Rat.exists_eq_mul_div_num_and_eq_mul_div_den (num : ℤ)
    (by exact_mod_cast hden.ne' : (den : ℤ) ≠ 0)
  simp only [Int.cast_natCast, ← h] at hnum hdenom
  unfold significand
  generalize q / 2 ^ exponent q = x at *
  have hx : (0 : ℤ) < x.den := by exact_mod_cast x.den_pos
  have hc : 0 < c := by
    by_contra hc
    have := mul_nonpos_of_nonpos_of_nonneg (Int.not_lt.mp hc) hx.le
    omega
  lift c to ℕ using hc.le
  have hnonneg : 0 ≤ x.num := by
    by_contra hneg
    have := mul_neg_of_pos_of_neg hc (Int.not_le.mp hneg)
    omega
  lift x.num to ℕ using hnonneg with n hn
  have hnum' : num = n * c := by rw [mul_comm]; exact_mod_cast hnum
  have hden' : den = x.den * c := by rw [mul_comm]; exact_mod_cast hdenom
  rw [hnum', hden', roundDiv_mul_right (by exact_mod_cast hc), Int.toNat_natCast]

section Dyadic

variable {m : ℕ} {e : ℤ}

theorem exponent_dyadic (hm : m ≠ 0) : exponent (m * 2 ^ e) = targetExponent m e := by
  have hlog : Int.log 2 ((m : ℚ) * 2 ^ e) = m.log2 + e := by
    rw [mul_comm, log_mul_two_zpow (by exact_mod_cast Nat.pos_of_ne_zero hm), Int.log_natCast,
      Nat.log2_eq_log_two]
  rw [exponent, hlog, targetExponent]

theorem significand_dyadic (hm : m ≠ 0) (he : e ≤ targetExponent m e) :
    significand (m * 2 ^ e) = rounded m e := by
  apply significand_eq (Nat.two_pow_pos _)
  have hshift : ((targetExponent m e - e).toNat : ℤ) = targetExponent m e - e := by omega
  rw [exponent_dyadic hm, Nat.cast_pow, Nat.cast_ofNat, ← zpow_natCast, hshift,
    zpow_sub₀ (by decide), div_div_eq_mul_div]

theorem round_exact (s : Sign) (hm : m ≠ 0) (he : e ≤ targetExponent m e) :
    roundWithAccuracy .binary64 s m e .exact = roundedTo s (m * 2 ^ e) := by
  rw [round_eq he]
  simp only [roundedTo, significand_dyadic hm he, exponent_dyadic hm]

theorem round_dyadic (s : Sign) (hm : m ≠ 0) :
    UnpackedFloat.round .binary64 s m e = roundedTo s (m * 2 ^ e) := by
  generalize hj : (e - targetExponent m e).toNat = j
  have hM : m * 2 ^ j ≠ 0 := Nat.mul_ne_zero hm (Nat.two_pow_pos j).ne'
  have htarget : targetExponent (m * 2 ^ j) (e - j) = targetExponent m e := by
    rw [targetExponent, log2_mul_two_pow hm, targetExponent]
    push_cast
    ring_nf
  have hnumber : ((m * 2 ^ j : ℕ) : ℚ) * 2 ^ (e - j) = m * 2 ^ e := by
    rw [zpow_sub₀ (by decide), zpow_natCast]
    push_cast
    field_simp
  have hround : UnpackedFloat.round .binary64 s m e =
      roundWithAccuracy .binary64 s (m * 2 ^ j) (e - j) .exact := by
    simp only [UnpackedFloat.round, decreaseExponent, targetExponent_eq, hj, Nat.shiftLeft_eq]
  rw [hround, round_exact s hM (by omega), hnumber]

/-- What is known of a quotient beside its bits, in quarters of the last one. -/
def quarters : Accuracy → ℕ
  | .exact => 0
  | .inexact .lt => 1
  | .inexact .eq => 2
  | .inexact .gt => 3

theorem quarters_lt (a : Accuracy) : quarters a < 4 := by
  obtain _ | _ | _ | _ := a <;> decide

theorem ofMantissaAndAccuracy_eq (m : ℕ) (a : Accuracy) :
    ExtendedMantissa.ofMantissaAndAccuracy m a =
      ExtendedMantissa.ofMantissaAndAccuracy (4 * m + quarters a) .exact >>> 2 := by
  change _ = ExtendedMantissa.shiftRightOne (ExtendedMantissa.shiftRightOne
    (ExtendedMantissa.ofMantissaAndAccuracy (4 * m + quarters a) .exact))
  obtain _ | _ | _ | _ := a <;>
    simp [ExtendedMantissa.ofMantissaAndAccuracy, ExtendedMantissa.shiftRightOne, quarters] <;>
    omega

theorem shiftRight_shiftRight (x : ExtendedMantissa) (i j : ℕ) : x >>> i >>> j = x >>> (i + j) := by
  induction j with
  | zero => rfl
  | succ j ih => exact congrArg ExtendedMantissa.shiftRightOne ih

theorem targetExponent_quarters (h : m ≠ 0 ∨ e ≤ -1074) (a : Accuracy) :
    targetExponent (4 * m + quarters a) (e - 2) = targetExponent m e := by
  have hlt := quarters_lt a
  by_cases hm : m = 0
  · subst hm
    have he : e ≤ -1074 := h.resolve_left (by simp)
    have hlog : (4 * 0 + quarters a).log2 ≤ 1 := by
      obtain _ | _ | _ | _ := a <;> decide
    have hzero : Nat.log2 0 = 0 := by decide
    rw [targetExponent, targetExponent, hzero]
    omega
  · have hle := Nat.log2_self_le hm
    have hgt := @Nat.lt_log2_self m
    have hlog : (4 * m + quarters a).log2 = m.log2 + 2 := by
      rw [Nat.log2_eq_iff (by omega)]
      constructor
      · rw [Nat.pow_add]
        omega
      · rw [Nat.add_right_comm, Nat.pow_add]
        omega
    rw [targetExponent, targetExponent, hlog]
    push_cast
    ring_nf

/-- A number with some accuracy is rounded as the one with two more bits that is exact. -/
theorem round_quarters (s : Sign) (a : Accuracy) (h : m ≠ 0 ∨ e ≤ -1074)
    (he : e ≤ targetExponent m e) :
    roundWithAccuracy .binary64 s m e a =
      roundWithAccuracy .binary64 s (4 * m + quarters a) (e - 2) .exact := by
  have hfirst : UnpackedFloat.shiftToTargetExponent .binary64 m e a =
      UnpackedFloat.shiftToTargetExponent .binary64 (4 * m + quarters a) (e - 2) .exact := by
    have hshift : (targetExponent m e - (e - 2)).toNat = 2 + (targetExponent m e - e).toNat := by
      omega
    unfold UnpackedFloat.shiftToTargetExponent UnpackedFloat.shiftToExponent
    rw [targetExponent_eq, targetExponent_eq, targetExponent_quarters h]
    simp only [hshift, ← shiftRight_shiftRight, ← ofMantissaAndAccuracy_eq]
    refine Prod.ext rfl ?_
    dsimp only
    omega
  unfold roundWithAccuracy
  rw [hfirst]

end Dyadic

theorem mul_add_lt_mul_iff {den r x k : ℕ} (hx : x < den) : den * r + x < den * k ↔ r < k := by
  constructor
  · intro h
    exact Nat.lt_of_mul_lt_mul_left (Nat.lt_of_le_of_lt (Nat.le_add_right _ x) h)
  · intro h
    have := Nat.mul_le_mul_left den (Nat.succ_le_of_lt h)
    rw [Nat.mul_succ] at this
    omega

theorem mul_lt_mul_add_iff {den r x k : ℕ} (hx : x < den) :
    den * k < den * r + x ↔ k < r ∨ k = r ∧ 0 < x := by
  obtain hlt | rfl | hgt := Nat.lt_trichotomy k r
  · have := Nat.mul_lt_mul_of_pos_left hlt (Nat.zero_lt_of_lt hx)
    omega
  · omega
  · have := (mul_add_lt_mul_iff hx).mpr hgt
    omega

theorem exists_half_of_lt {r den : ℕ} (hr : r < den) :
    ∃ h x, 2 * r = den * h + x ∧ x < den ∧
      quarters (UnpackedFloat.accuracyOfFraction r den) = 2 * h + if x = 0 then 0 else 1 := by
  unfold UnpackedFloat.accuracyOfFraction
  split
  · exact ⟨0, 0, by omega, by omega, rfl⟩
  · obtain hlt | heq | hgt := Nat.lt_trichotomy (2 * r) den
    · refine ⟨0, 2 * r, by omega, hlt, ?_⟩
      rw [Nat.compare_eq_lt.mpr hlt, if_neg (by omega)]
      rfl
    · refine ⟨1, 0, by omega, by omega, ?_⟩
      rw [Nat.compare_eq_eq.mpr heq]
      rfl
    · refine ⟨1, 2 * r - den, by omega, by omega, ?_⟩
      rw [Nat.compare_eq_gt.mpr hgt, if_neg (by omega)]
      rfl

/-- Rounding needs only the quarter of the last bit that a remainder is in. -/
theorem roundDiv_quarters {num den : ℕ} (hden : 0 < den) (k : ℕ) :
    roundDiv (4 * (num / den) +
      quarters (UnpackedFloat.accuracyOfFraction (num % den) den)) (4 * k) =
        roundDiv num (den * k) := by
  have hrest : num % den < den := Nat.mod_lt num hden
  have hc := quarters_lt (UnpackedFloat.accuracyOfFraction (num % den) den)
  obtain ⟨h, x, hx, hlt, hquarters⟩ := exists_half_of_lt hrest
  generalize quarters (UnpackedFloat.accuracyOfFraction (num % den) den) = c at *
  have hdiv : (4 * (num / den) + c) / (4 * k) = num / (den * k) := by
    rw [← Nat.div_div_eq_div_mul, ← Nat.div_div_eq_div_mul]
    congr 1
    omega
  have hmod : (4 * (num / den) + c) % (4 * k) = c + 4 * (num / den % k) := by
    rw [Nat.mod_mul]
    congr 2
    · omega
    · congr 1
      omega
  have htwice : 2 * (num % den + den * (num / den % k)) = den * (2 * (num / den % k) + h) + x := by
    rw [Nat.mul_add 2, hx]
    ring
  simp only [roundDiv, hdiv, hmod, Nat.mod_mul, htwice, mul_add_lt_mul_iff hlt,
    mul_lt_mul_add_iff hlt]
  subst hquarters
  split_ifs <;> omega

theorem exponent_of_floor {q : ℚ} {m : ℕ} {e : ℤ} (hle : m * 2 ^ e ≤ q) (hlt : q < (m + 1) * 2 ^ e)
    (hq : 0 < q) (h : m ≠ 0 ∨ e ≤ -1074) : exponent q = targetExponent m e := by
  by_cases hm : m = 0
  · subst hm
    have he : e ≤ -1074 := h.resolve_left (by simp)
    have hlog : Int.log 2 q < e := by
      apply (Int.lt_zpow_iff_log_lt (by decide) hq).mp
      simpa using hlt
    have hzero : Nat.log2 0 = 0 := by decide
    rw [exponent, targetExponent, hzero]
    omega
  · rw [exponent, targetExponent, log_eq]
    · refine le_trans ?_ hle
      rw [zpow_add₀ (by decide), zpow_natCast]
      exact mul_le_mul_of_nonneg_right (by exact_mod_cast Nat.log2_self_le hm) (two_zpow_pos e).le
    · refine lt_of_lt_of_le hlt ?_
      rw [add_right_comm, zpow_add₀ (by decide)]
      refine mul_le_mul_of_nonneg_right ?_ (two_zpow_pos e).le
      exact_mod_cast Nat.succ_le_of_lt (@Nat.lt_log2_self m)

theorem roundedTo_congr {q q' : ℚ} (s : Sign) (hexponent : exponent q = exponent q')
    (hsignificand : significand q = significand q') : roundedTo s q = roundedTo s q' := by
  simp only [roundedTo, hexponent, hsignificand]

theorem quarters_ne_zero {r den : ℕ} (hr : r ≠ 0) :
    quarters (UnpackedFloat.accuracyOfFraction r den) ≠ 0 := by
  rw [UnpackedFloat.accuracyOfFraction, if_neg hr]
  cases compare (2 * r) den <;> decide

/-- A quotient of naturals is rounded by its whole part and the quarters of the rest. -/
theorem round_quotient (s : Sign) {num den : ℕ} {e : ℤ} (hnum : 0 < num) (hden : 0 < den)
    (he : e ≤ targetExponent (num / den) e) (h : num / den ≠ 0 ∨ e ≤ -1074) :
    roundWithAccuracy .binary64 s (num / den) e
        (UnpackedFloat.accuracyOfFraction (num % den) den) =
      roundedTo s (num / den * 2 ^ e) := by
  have htarget := targetExponent_quarters h (UnpackedFloat.accuracyOfFraction (num % den) den)
  have hsome :
      4 * (num / den) + quarters (UnpackedFloat.accuracyOfFraction (num % den) den) ≠ 0 := by
    by_cases hrest : num % den = 0
    · have := Nat.div_add_mod num den
      have : num / den ≠ 0 := by
        intro hzero
        rw [hzero, hrest] at this
        omega
      omega
    · have := @quarters_ne_zero _ den hrest
      omega
  have hdiv : (num / den : ℚ) < (num / den : ℕ) + 1 := by
    rw [div_lt_iff₀ (by exact_mod_cast hden), mul_comm]
    exact_mod_cast Nat.lt_mul_div_succ num hden
  have hq : (0 : ℚ) < num / den := div_pos (by exact_mod_cast hnum) (by exact_mod_cast hden)
  have hexponent : exponent (num / den * 2 ^ e) = targetExponent (num / den) e :=
    exponent_of_floor (mul_le_mul_of_nonneg_right Nat.cast_div_le (two_zpow_pos e).le)
      (mul_lt_mul_of_pos_right hdiv (two_zpow_pos e)) (mul_pos hq (two_zpow_pos e)) h
  generalize hk : (targetExponent (num / den) e - e).toNat = k
  have hsignificand : significand (num / den * 2 ^ e) = roundDiv num (den * 2 ^ k) := by
    have hshift : (k : ℤ) = targetExponent (num / den) e - e := by omega
    apply significand_eq (Nat.mul_pos hden (Nat.two_pow_pos k))
    rw [hexponent, Nat.cast_mul, Nat.cast_pow, Nat.cast_ofNat, ← zpow_natCast, hshift,
      zpow_sub₀ (by decide)]
    field_simp
  rw [round_quarters s _ h he, round_exact s hsome (by omega)]
  apply roundedTo_congr
  · rw [exponent_dyadic hsome, htarget, hexponent]
  · have hshift : (targetExponent (num / den) e - (e - 2)).toNat = k + 2 := by omega
    rw [significand_dyadic hsome (by omega), hsignificand, ← roundDiv_quarters hden, rounded,
      htarget, hshift, Nat.pow_add, Nat.mul_comm (2 ^ k)]

section Operations

variable {s t : Sign} {m n : ℕ} {d e : ℤ} {hm : 0 < m} {hn : 0 < n}

theorem mul_finite (ha : Canonical m d) (hb : Canonical n e) :
    UnpackedFloat.mul .binary64 (.finite s m d hm) (.finite t n e hn) =
      roundedTo (s * t) (m * 2 ^ d * (n * 2 ^ e)) := by
  have hmn : m * n ≠ 0 := Nat.mul_ne_zero hm.ne' hn.ne'
  have hnumber : ((m * n : ℕ) : ℚ) * 2 ^ (d + e) = m * 2 ^ d * (n * 2 ^ e) := by
    rw [zpow_add₀ (by decide)]
    push_cast
    ring
  simp only [UnpackedFloat.mul]
  rw [round_exact _ hmn (le_targetExponent_mul hmn ha hb), hnumber]

/-- The significand of a quotient is found in so many bits that rounding leaves none of them out. -/
theorem exists_divCore (hm : 0 < m) (hn : 0 < n) :
    ∃ (j : ℕ) (b : ℤ), UnpackedFloat.divCore .binary64 m d n e =
        (m * 2 ^ j / n, b, UnpackedFloat.accuracyOfFraction (m * 2 ^ j % n) n) ∧
      d - e = j + b ∧ b ≤ targetExponent (m * 2 ^ j / n) b ∧
      (m * 2 ^ j / n ≠ 0 ∨ b ≤ -1074) := by
  generalize hb : min (d - e)
    (Format.binary64.targetExponent (totalExponent m d - totalExponent n e)) = b
  generalize hj : (d - e - b).toNat = j
  have hcore : UnpackedFloat.divCore .binary64 m d n e =
      (m * 2 ^ j / n, b, UnpackedFloat.accuracyOfFraction (m * 2 ^ j % n) n) := by
    simp only [UnpackedFloat.divCore, hb, hj, Nat.shiftLeft_eq]
  have hb : min (d - e) (max (((m.log2 : ℤ) + 1 + d - (n.log2 + 1 + e)) - 53) (-1074)) = b := hb
  have hleast : -1074 ≤ targetExponent (m * 2 ^ j / n) b := le_max_right _ _
  refine ⟨j, b, hcore, by omega, ?_⟩
  by_cases hsmall : b ≤ -1074
  · exact ⟨by omega, .inr hsmall⟩
  · -- Above the least exponent the quotient has 53 bits or more.
    have hle : 2 ^ 52 ≤ m * 2 ^ j / n := by
      rw [Nat.le_div_iff_mul_le hn]
      calc 2 ^ 52 * n
          ≤ 2 ^ 52 * 2 ^ (n.log2 + 1) := Nat.mul_le_mul_left _ Nat.lt_log2_self.le
        _ ≤ 2 ^ m.log2 * 2 ^ j := by
          rw [← Nat.pow_add, ← Nat.pow_add]
          exact Nat.pow_le_pow_right (by decide) (by omega)
        _ ≤ m * 2 ^ j := Nat.mul_le_mul_right _ (Nat.log2_self_le hm.ne')
    have hlog : 52 ≤ (m * 2 ^ j / n).log2 := (Nat.le_log2 (by omega)).mpr hle
    exact ⟨le_max_of_le_left (by omega), .inl (by omega)⟩

theorem div_finite :
    UnpackedFloat.div .binary64 (.finite s m d hm) (.finite t n e hn) =
      roundedTo (s / t) (m * 2 ^ d / (n * 2 ^ e)) := by
  obtain ⟨j, b, hcore, hexponent, htarget, hsome⟩ := exists_divCore (d := d) (e := e) hm hn
  have hnumber : ((m * 2 ^ j : ℕ) : ℚ) / n * 2 ^ b = m * 2 ^ d / (n * 2 ^ e) := by
    have hd : d = j + b + e := by omega
    rw [hd, zpow_add₀ (by decide), zpow_add₀ (by decide), zpow_natCast]
    push_cast
    field_simp
  have hpos : 0 < m * 2 ^ j := Nat.mul_pos hm (Nat.two_pow_pos j)
  simp only [UnpackedFloat.div, hcore]
  rw [round_quotient _ hpos hn htarget hsome, hnumber]

end Operations

/-- The nearest double to a number, as if exponents had no bound above. -/
def nearest (q : ℚ) : ℚ :=
  if q < 0 then -(significand |q| * 2 ^ exponent |q|) else significand |q| * 2 ^ exponent |q|

/-- Rounded as a number of its sign; as zero of either sign if it is zero. -/
def IsRounded (a : UnpackedFloat) (q : ℚ) : Prop :=
  ∃ s : Sign, a = roundedTo s |q| ∧ s.apply 1 * |q| = q

theorem significand_zero : significand 0 = 0 := by
  simp [significand, roundDiv_zero]

theorem isRounded_zero (s : Sign) : IsRounded (.zero s) 0 :=
  ⟨s, by simp [roundedTo, significand_zero], by simp⟩

theorem isRounded_roundedTo (s : Sign) {q : ℚ} (hq : 0 < q) :
    IsRounded (roundedTo s q) (s.apply 1 * q) := by
  refine ⟨s, ?_, ?_⟩ <;> cases s <;> simp [Sign.apply, abs_of_pos hq]

section Canonical

variable {m : ℕ} {e : ℤ}

theorem Canonical.targetExponent_eq (h : Canonical m e) (hm : 0 < m) : targetExponent m e = e := by
  obtain ⟨hlt, hleast, hnormal⟩ := h
  have hlog : m.log2 < 53 := (Nat.log2_lt hm.ne').mpr hlt
  unfold targetExponent
  obtain hnormal | rfl := hnormal
  · have hlog' : 52 ≤ m.log2 := (Nat.le_log2 hm.ne').mpr hnormal
    omega
  · omega

theorem Canonical.roundedTo_eq (h : Canonical m e) (hm : 0 < m) (s : Sign) :
    roundedTo s (m * 2 ^ e) = .finite s m e hm := by
  have htarget := h.targetExponent_eq hm
  have hsignificand : significand (m * 2 ^ e) = m := by
    rw [significand_dyadic hm.ne' htarget.ge, rounded, htarget]
    simp [roundDiv, Nat.mod_one]
  simp only [roundedTo, hsignificand, exponent_dyadic hm.ne', htarget, dif_neg hm.ne', if_pos h.lt]

end Canonical

theorem apply_mul (s t : Sign) : ((s * t).apply 1 : ℚ) = s.apply 1 * t.apply 1 := by
  have h : (s * t).apply 1 = s.apply 1 * t.apply 1 := by cases s <;> cases t <;> decide
  exact_mod_cast h

theorem apply_div (s t : Sign) : ((s / t).apply 1 : ℚ) = s.apply 1 / t.apply 1 := by
  have h : s / t = s * t := by cases s <;> cases t <;> rfl
  have hunit : (t.apply 1 : ℚ) * t.apply 1 = 1 := by cases t <;> norm_num [Sign.apply]
  rw [h, apply_mul, eq_div_iff (left_ne_zero_of_mul_eq_one hunit), mul_assoc, hunit, mul_one]

theorem apply_neg (s : Sign) : ((-s).apply 1 : ℚ) = -s.apply 1 := by
  have h : (-s).apply 1 = -s.apply 1 := by cases s <;> decide
  exact_mod_cast h

theorem apply_eq_mul (s : Sign) (z : ℤ) : s.apply z = s.apply 1 * z := by
  cases s <;> simp [Sign.apply]

theorem isRounded_self {a : UnpackedFloat} (ha : Fits a) (hfinite : a.isFinite = true) :
    IsRounded a (number a) := by
  obtain ⟨s, rfl⟩ | ⟨s, m, e, hm, rfl⟩ := zero_or_finite hfinite
  · rw [number_zero]
    exact isRounded_zero s
  · rw [number_eq]
    nth_rewrite 1 [← ha.1.roundedTo_eq hm]
    exact isRounded_roundedTo s (magnitude_pos hm e)

section Arithmetic

variable {a b : UnpackedFloat}

theorem isRounded_mul (ha : Fits a) (hb : Fits b) (hfinite : a.isFinite = true)
    (hfinite' : b.isFinite = true) :
    IsRounded (.mul .binary64 a b) (number a * number b) := by
  obtain ⟨s, rfl⟩ | ⟨s, m, d, hm, rfl⟩ := zero_or_finite hfinite
  · rw [number_zero, zero_mul]
    obtain ⟨t, rfl⟩ | ⟨t, n, e, hn, rfl⟩ := zero_or_finite hfinite'
    · exact isRounded_zero _
    · exact isRounded_zero _
  · obtain ⟨t, rfl⟩ | ⟨t, n, e, hn, rfl⟩ := zero_or_finite hfinite'
    · rw [number_zero, mul_zero]
      exact isRounded_zero _
    · have h := isRounded_roundedTo (s * t) (mul_pos (magnitude_pos hm d) (magnitude_pos hn e))
      rw [mul_finite ha.1 hb.1, number_eq, number_eq,
        mul_mul_mul_comm (s.apply 1 : ℚ), ← apply_mul]
      exact h

theorem isRounded_div (ha : Fits a) (hb : Fits b) (hfinite : a.isFinite = true)
    (hfinite' : b.isFinite = true) (hne : number b ≠ 0) :
    IsRounded (.div .binary64 a b) (number a / number b) := by
  obtain ⟨t, rfl⟩ | ⟨t, n, e, hn, rfl⟩ := zero_or_finite hfinite'
  · exact absurd (number_zero t) hne
  obtain ⟨s, rfl⟩ | ⟨s, m, d, hm, rfl⟩ := zero_or_finite hfinite
  · rw [number_zero, zero_div]
    exact isRounded_zero _
  · have h := isRounded_roundedTo (s / t) (div_pos (magnitude_pos hm d) (magnitude_pos hn e))
    rw [div_finite, number_eq, number_eq, mul_div_mul_comm (s.apply 1 : ℚ), ← apply_div]
    exact h

theorem isRounded_normalize (z : ℤ) (e : ℤ) :
    IsRounded (.normalize .binary64 z e .positive) (z * 2 ^ e) := by
  unfold UnpackedFloat.normalize
  obtain hneg | rfl | hpos := lt_trichotomy z 0
  · obtain ⟨n, rfl⟩ : ∃ n : ℕ, z = -n := ⟨(-z).toNat, by omega⟩
    have hn : 0 < n := by omega
    rw [Int.compare_eq_lt.mpr hneg, neg_neg, Int.toNat_natCast]
    dsimp only
    rw [round_dyadic .negative hn.ne']
    simpa [Sign.apply] using isRounded_roundedTo .negative (magnitude_pos hn e)
  · simpa using isRounded_zero .positive
  · obtain ⟨n, rfl⟩ : ∃ n : ℕ, z = n := ⟨z.toNat, by omega⟩
    have hn : 0 < n := by omega
    rw [Int.compare_eq_gt.mpr hpos, Int.toNat_natCast]
    dsimp only
    rw [round_dyadic .positive hn.ne']
    simpa [Sign.apply] using isRounded_roundedTo .positive (magnitude_pos hn e)

theorem two_zpow_eq_shift {d e : ℤ} (h : e ≤ d) : (2 : ℚ) ^ d = 2 ^ (d - e).toNat * 2 ^ e := by
  rw [← zpow_natCast, ← zpow_add₀ (by decide), Int.toNat_of_nonneg (by omega), sub_add_cancel]

theorem isRounded_sub (ha : Fits a) (hb : Fits b) (hfinite : a.isFinite = true)
    (hfinite' : b.isFinite = true) :
    IsRounded (.sub .binary64 a b) (number a - number b) := by
  obtain ⟨s, rfl⟩ | ⟨s, m, d, hm, rfl⟩ := zero_or_finite hfinite
  · obtain ⟨t, rfl⟩ | ⟨t, n, e, hn, rfl⟩ := zero_or_finite hfinite'
    · rw [number_zero, number_zero, sub_zero]
      cases s <;> cases t <;> exact isRounded_zero _
    · have h := isRounded_self (a := .finite (-t) n e hn) hb rfl
      rwa [number_eq, apply_neg, neg_mul, ← @number_eq n e t hn, ← zero_sub, ← number_zero s] at h
  · obtain ⟨t, rfl⟩ | ⟨t, n, e, hn, rfl⟩ := zero_or_finite hfinite'
    · rw [number_zero, sub_zero]
      exact isRounded_self ha rfl
    · have hd := two_zpow_eq_shift (min_le_left d e)
      have he := two_zpow_eq_shift (min_le_right d e)
      have h := isRounded_normalize (s.apply (m * 2 ^ (d - min d e).toNat : ℕ) -
        t.apply (n * 2 ^ (e - min d e).toNat : ℕ)) (min d e)
      simp only [UnpackedFloat.sub, decreaseExponent, Nat.shiftLeft_eq]
      convert h using 1
      rw [number_eq, number_eq, hd, he, apply_eq_mul s (m * _ : ℕ), apply_eq_mul t (n * _ : ℕ)]
      push_cast
      ring

end Arithmetic

def Overflows (q : ℚ) : Prop :=
  2 ^ 1024 ≤ |nearest q|

section Significands

variable {q : ℚ}

theorem div_two_zpow_eq (hq : 0 < q) (e : ℤ) :
    q / 2 ^ e = (q / 2 ^ e).num.toNat / (q / 2 ^ e).den := by
  have hnonneg : 0 ≤ (q / 2 ^ e).num := Rat.num_nonneg.mpr (div_pos hq (two_zpow_pos e)).le
  rw [← Int.cast_natCast, Int.toNat_of_nonneg hnonneg, Rat.num_div_den]

theorem significand_le (hq : 0 < q) : significand q ≤ 2 ^ 53 := by
  have hlt : q / 2 ^ exponent q < 2 ^ 53 := by
    rw [div_lt_iff₀ (two_zpow_pos _), ← zpow_natCast, ← zpow_add₀ (by decide)]
    refine (lt_two_zpow_log q).trans_le (zpow_le_zpow_right₀ (by decide) ?_)
    unfold exponent
    omega
  have hx := div_two_zpow_eq hq (exponent q)
  unfold significand
  generalize q / 2 ^ exponent q = x at *
  have hquotient : x.num.toNat / x.den < 2 ^ 53 := by
    rw [Nat.div_lt_iff_lt_mul x.den_pos]
    rw [hx, div_lt_iff₀ (by exact_mod_cast x.den_pos)] at hlt
    exact_mod_cast hlt
  exact (roundDiv_bounds _ _).2.trans hquotient

theorem le_significand (hq : 0 < q) (hlog : -1022 ≤ Int.log 2 q) : 2 ^ 52 ≤ significand q := by
  have hle : 2 ^ 52 ≤ q / 2 ^ exponent q := by
    rw [le_div_iff₀ (two_zpow_pos _), ← zpow_natCast, ← zpow_add₀ (by decide)]
    refine (zpow_le_zpow_right₀ (by decide) ?_).trans (two_zpow_log_le hq)
    unfold exponent
    omega
  have hx := div_two_zpow_eq hq (exponent q)
  unfold significand
  generalize q / 2 ^ exponent q = x at *
  have hquotient : 2 ^ 52 ≤ x.num.toNat / x.den := by
    rw [Nat.le_div_iff_mul_le x.den_pos]
    rw [hx, le_div_iff₀ (by exact_mod_cast x.den_pos)] at hle
    exact_mod_cast hle
  exact hquotient.trans (roundDiv_bounds _ _).1

theorem abs_nearest (q : ℚ) : |nearest q| = significand |q| * 2 ^ exponent |q| := by
  have hnonneg : (0 : ℚ) ≤ significand |q| * 2 ^ exponent |q| :=
    mul_nonneg (Nat.cast_nonneg _) (two_zpow_pos _).le
  unfold nearest
  split
  · rw [abs_neg, abs_of_nonneg hnonneg]
  · rw [abs_of_nonneg hnonneg]

@[simp] theorem nearest_zero : nearest 0 = 0 := by
  simp [nearest, significand_zero]

theorem nearest_eq {s : Sign} (h : s.apply 1 * |q| = q) :
    nearest q = s.apply 1 * (significand |q| * 2 ^ exponent |q|) := by
  obtain rfl | hq := eq_or_ne q 0
  · simp [significand_zero]
  cases s with
  | negative =>
    have hneg : q < 0 := by
      have hpos := abs_pos.mpr hq
      simp only [Sign.apply, Int.cast_neg, Int.cast_one, neg_mul, one_mul] at h
      rw [← h]
      exact neg_neg_of_pos hpos
    rw [nearest, if_pos hneg]
    simp [Sign.apply]
  | positive =>
    have hnonneg : ¬q < 0 := by
      simp only [Sign.apply, Int.cast_one, one_mul] at h
      rw [← h]
      exact (abs_nonneg q).not_gt
    rw [nearest, if_neg hnonneg]
    simp [Sign.apply]

theorem abs_nearest_le {n : ℤ} (hn : -1021 ≤ n) (h : |q| < 2 ^ n) : |nearest q| ≤ 2 ^ n := by
  obtain rfl | hq := eq_or_ne q 0
  · simpa using (two_zpow_pos n).le
  have hlog : Int.log 2 |q| < n :=
    (Int.lt_zpow_iff_log_lt (by decide) (abs_pos.mpr hq)).mp (by exact_mod_cast h)
  have hexponent : exponent |q| ≤ n - 53 := by
    unfold exponent
    omega
  calc |nearest q|
      = significand |q| * 2 ^ exponent |q| := abs_nearest q
    _ ≤ 2 ^ (53 : ℤ) * 2 ^ (n - 53) := mul_le_mul
        (by exact_mod_cast significand_le (abs_pos.mpr hq))
        (zpow_le_zpow_right₀ (by decide) hexponent) (two_zpow_pos _).le (two_zpow_pos _).le
    _ = 2 ^ n := by rw [← zpow_add₀ (by decide), add_sub_cancel]

theorem not_overflows (h : |q| < 2 ^ (1023 : ℤ)) : ¬Overflows q := by
  have hle := abs_nearest_le (by decide) h
  have hlt : (2 : ℚ) ^ (1023 : ℤ) < 2 ^ (1024 : ℤ) := zpow_lt_zpow_right₀ (by decide) (by decide)
  exact not_le.mpr (hle.trans_lt (by exact_mod_cast hlt))

theorem exponent_le_of_not_overflows {m : ℕ} {e : ℤ} (hm : 2 ^ 52 ≤ m ∨ e = -1074)
    (hq : |nearest q| = m * 2 ^ e) (hsmall : ¬Overflows q) : e ≤ 971 := by
  by_contra he
  have hm : 2 ^ 52 ≤ m := hm.resolve_right (by omega)
  refine hsmall ?_
  rw [Overflows, hq]
  calc (2 : ℚ) ^ 1024
      = 2 ^ 52 * (2 : ℚ) ^ (972 : ℤ) := by rw [zpow_ofNat, ← pow_add]
    _ ≤ (m : ℚ) * 2 ^ e := mul_le_mul (by exact_mod_cast hm)
        (zpow_le_zpow_right₀ (by decide) (by omega)) (two_zpow_pos _).le (Nat.cast_nonneg m)

end Significands

/-- The rounded result of an operation, when it is a double. -/
theorem IsRounded.unpack_pack {a : UnpackedFloat} {q : ℚ} (h : IsRounded a q)
    (hsmall : ¬Overflows q) :
    (Float.Model.pack a).unpack.isFinite = true ∧
      number (Float.Model.pack a).unpack = nearest q := by
  obtain ⟨s, rfl, hs⟩ := h
  have habs := abs_nearest q
  rw [nearest_eq hs]
  obtain rfl | hq := eq_or_ne q 0
  · simp only [abs_zero, roundedTo, significand_zero, dif_pos]
    rw [Double.unpack_pack (a := .zero s) trivial]
    exact ⟨rfl, by simp [number_zero]⟩
  have hle := significand_le (abs_pos.mpr hq)
  have hnormal : 2 ^ 52 ≤ significand |q| ∨ exponent |q| = -1074 := by
    refine or_iff_not_imp_right.mpr fun hnot => le_significand (abs_pos.mpr hq) ?_
    unfold exponent at hnot
    omega
  have hleast : -1074 ≤ exponent |q| := le_max_right _ _
  unfold roundedTo
  split
  · rename_i hzero
    rw [Double.unpack_pack (a := .zero s) trivial]
    exact ⟨rfl, by simp [number_zero, hzero]⟩
  · split
    · rename_i hlt
      rw [unpack_pack_of_canonical ⟨hlt, hleast, hnormal⟩
        (exponent_le_of_not_overflows hnormal habs hsmall)]
      exact ⟨rfl, number_eq⟩
    · have hcarry : significand |q| = 2 ^ 53 := by omega
      have hnumber : ((2 ^ 53 : ℕ) : ℚ) * 2 ^ exponent |q| =
          (2 ^ 52 : ℕ) * 2 ^ (exponent |q| + 1) := by
        rw [zpow_add_one₀ (by decide)]
        push_cast
        ring
      rw [hcarry, hnumber] at habs
      rw [unpack_pack_of_canonical ⟨by decide, by omega, .inl le_rfl⟩
        (exponent_le_of_not_overflows (.inl le_rfl) habs hsmall), hcarry, hnumber]
      exact ⟨rfl, number_eq⟩

section Floats

variable {x y : Float}

theorem value_mul (hx : x.isFinite = true) (hy : y.isFinite = true)
    (h : ¬Overflows (value x * value y)) :
    (x * y).isFinite = true ∧ value (x * y) = nearest (value x * value y) :=
  (isRounded_mul (unpack_fits _) (unpack_fits _) hx hy).unpack_pack h

theorem value_sub (hx : x.isFinite = true) (hy : y.isFinite = true)
    (h : ¬Overflows (value x - value y)) :
    (x - y).isFinite = true ∧ value (x - y) = nearest (value x - value y) :=
  (isRounded_sub (unpack_fits _) (unpack_fits _) hx hy).unpack_pack h

theorem value_div (hx : x.isFinite = true) (hy : y.isFinite = true) (hne : value y ≠ 0)
    (h : ¬Overflows (value x / value y)) :
    (x / y).isFinite = true ∧ value (x / y) = nearest (value x / value y) :=
  (isRounded_div (unpack_fits _) (unpack_fits _) hx hy hne).unpack_pack h

end Floats

end Double
end GeoConformance
