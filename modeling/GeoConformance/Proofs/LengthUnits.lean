import GeoConformance.Proofs.DoubleScaling
import GeoConformance.Proofs.VisitedGraph

/-! Ellipsoids in another unit of length. The verdict on an ellipsoid whose semi-axes are both
multiplied by a power of two is the same, but for the gap between semi-minor axis and inverse
flattening that agrees at any tolerance: this one is a fixed number of units, whatever the unit. -/
namespace GeoConformance

open Double
open Float.Model (UnpackedFloat)

section Agreement

variable {k : ℤ} {tolerance x x' y y' : Float}

def WithinTolerance (tolerance x y : Float) : Prop :=
  (x == y) = true ∨ (x - y).abs ≤ greaterMagnitude x y * tolerance

theorem agreeWithin_iff (hx : x.isFinite = true) (hy : y.isFinite = true) :
    agreeWithin tolerance x y = true ↔
      WithinTolerance tolerance x y ∨ (x - y).abs ≤ indistinctGap := by
  unfold WithinTolerance
  by_cases heq : (x == y) = true
  · simp [agreeWithin, heq]
  · rw [agreeWithin_iff_of_ne heq, (isFinite_eq_true_iff.mp hx).2, (isFinite_eq_true_iff.mp hy).2]
    simp [heq, or_comm]

theorem unpack_mul_of_not_finite (hx : IsPositive x) (ht : ¬tolerance.isFinite = true) :
    (x * tolerance).toModel.unpack = tolerance.toModel.unpack := by
  obtain ⟨m, e, hm, hx⟩ := hx
  change (Float.Model.pack
    (.mul .binary64 x.toModel.unpack tolerance.toModel.unpack)).unpack = _
  change ¬tolerance.toModel.unpack.isFinite = true at ht
  rw [hx]
  cases h : tolerance.toModel.unpack with
  | notANumber => exact unpack_pack (a := .notANumber) trivial
  | infinity s => cases s <;> exact unpack_pack (a := .infinity _) trivial
  | zero s => simp [h, UnpackedFloat.isFinite] at ht
  | finite s n d hn => simp [h, UnpackedFloat.isFinite] at ht

theorem le_iff_of_not_finite (hx : x.isFinite = true) (hy : ¬y.isFinite = true) :
    x ≤ y ↔ y.toModel.unpack = .infinity .positive := by
  have hle : x ≤ y ↔ x.toModel.unpack.le y.toModel.unpack = true := decide_eq_true_iff
  have hx : x.toModel.unpack.isFinite = true := hx
  have hy : ¬y.toModel.unpack.isFinite = true := hy
  rw [hle]
  cases h : y.toModel.unpack with
  | notANumber =>
    obtain ⟨s, hs⟩ | ⟨s, m, e, hm, hs⟩ := zero_or_finite hx <;>
      simp [hs, UnpackedFloat.le, UnpackedFloat.compare]
  | infinity t =>
    obtain ⟨s, hs⟩ | ⟨s, m, e, hm, hs⟩ := zero_or_finite hx <;>
      cases t <;> simp [hs, UnpackedFloat.le, UnpackedFloat.compare]
  | zero s => simp [h, UnpackedFloat.isFinite] at hy
  | finite s m e hm => simp [h, UnpackedFloat.isFinite] at hy

/-- Agreement up to a tolerance that is only relative has no unit. -/
theorem withinTolerance_iff_of_isScaled (hx : IsScaled k x x') (hy : IsScaled k y y')
    (hgap : ¬(x == y) = true → KeepsRange k (value x - value y))
    (hallowance : ¬(x == y) = true →
      KeepsRange k (value (greaterMagnitude x y) * value tolerance)) :
    WithinTolerance tolerance x' y' ↔ WithinTolerance tolerance x y := by
  unfold WithinTolerance
  by_cases heq : (x == y) = true
  · simp [hx.beq_eq hy, heq]
  have heq' : ¬(x' == y') = true := by rwa [hx.beq_eq hy]
  have hscaled := (hx.sub hy (hgap heq)).abs
  have hgreater := hx.greaterMagnitude hy
  simp only [heq, heq', Bool.false_eq_true, false_or]
  by_cases ht : tolerance.isFinite = true
  · exact hscaled.le_iff (hgreater.mul_right ht (hallowance heq))
  · have hunpack := unpack_mul_of_not_finite
      (isPositive_greaterMagnitude heq hx.finite hy.finite) ht
    have hunpack' := unpack_mul_of_not_finite
      (isPositive_greaterMagnitude heq' hx.finite_scaled hy.finite_scaled) ht
    have hnot : ¬(greaterMagnitude x y * tolerance).isFinite = true := by
      change ¬(greaterMagnitude x y * tolerance).toModel.unpack.isFinite = true
      rwa [hunpack]
    have hnot' : ¬(greaterMagnitude x' y' * tolerance).isFinite = true := by
      change ¬(greaterMagnitude x' y' * tolerance).toModel.unpack.isFinite = true
      rwa [hunpack']
    rw [le_iff_of_not_finite hscaled.finite_scaled hnot', hunpack',
      le_iff_of_not_finite hscaled.finite hnot, hunpack]

end Agreement

namespace Ellipsoid

/-- The same ellipsoid with its semi-axes in a unit of which `s` make the first. It says of itself
that it is a sphere just in case they are equal. -/
def rescaled (s : Float) (x : Ellipsoid) : Ellipsoid :=
  { x with
    semiMajor := s * x.semiMajor
    semiMinor := s * x.semiMinor
    isSphere := s * x.semiMajor == s * x.semiMinor }

/-- The checks come to the comparison of the semi-axes with the inverse flattening. -/
structure ComparesShape (x : Ellipsoid) : Prop where
  semiMajor : x.semiMajor.isFinite = true ∧ 0 < x.semiMajor
  semiMinor : x.semiMinor.isFinite = true ∧ 0 < x.semiMinor
  ordered : x.semiMinor ≤ x.semiMajor
  notSphere : x.isSphere = false
  flattened : x.inverseFlattening.isFinite = true ∧ 1 < x.inverseFlattening

/-- No operation that the checks perform overflows or underflows, in one unit or in the other. -/
structure StaysInRange (k : ℤ) (tolerance : Float) (x : Ellipsoid) : Prop where
  semiMajor : KeepsRange k (value x.semiMajor)
  semiMinor : KeepsRange k (value x.semiMinor)
  difference : x.ComparesShape → x.flatteningDefinitive = false →
    KeepsRange k (value x.semiMajor - value x.semiMinor)
  expected : x.ComparesShape → x.flatteningDefinitive = true →
    KeepsRange k (value x.semiMajor * value (1 - 1 / x.inverseFlattening))
  gap : x.ComparesShape → x.flatteningDefinitive = true →
    ¬(x.semiMinor == x.expectedSemiMinor) = true →
    KeepsRange k (value x.semiMinor - value x.expectedSemiMinor)
  allowance : x.ComparesShape → x.flatteningDefinitive = true →
    ¬(x.semiMinor == x.expectedSemiMinor) = true →
    KeepsRange k (value (greaterMagnitude x.semiMinor x.expectedSemiMinor) * value tolerance)

def gap (x : Ellipsoid) : Float :=
  (x.semiMinor - x.expectedSemiMinor).abs

/-- The ellipsoid conforms when the tolerance for the semi-minor axis is only a relative one. -/
structure ConformsRelatively (c : Config) (x : Ellipsoid) : Prop where
  identity : x.identity.Conforms c
  unit : c.requireMandatory = true → x.unit.isSome = true
  semiMajor : x.semiMajor.isFinite = true ∧ 0 < x.semiMajor
  semiMinor : x.semiMinor.isFinite = true ∧ 0 < x.semiMinor
  ordered : x.semiMinor ≤ x.semiMajor
  sphere : x.isSphere = true → x.inverseFlattening.isInf = true ∧ 0 < x.inverseFlattening
  flattened : x.isSphere = false → x.inverseFlattening.isFinite = true ∧ 1 < x.inverseFlattening
  definitive : x.isSphere = false → x.flatteningDefinitive = true →
    WithinTolerance c.ellipsoidTolerance x.semiMinor x.expectedSemiMinor
  derived : x.isSphere = false → x.flatteningDefinitive = false →
    agreeWithin c.ellipsoidTolerance x.inverseFlattening x.expectedInverseFlattening = true

/-- Nothing but a definitive inverse flattening out of tolerance keeps the ellipsoid from conforming
relatively. -/
structure HangsOnGap (c : Config) (x : Ellipsoid) : Prop where
  identity : x.identity.Conforms c
  unit : c.requireMandatory = true → x.unit.isSome = true
  shape : x.ComparesShape
  definitive : x.flatteningDefinitive = true
  apart : ¬WithinTolerance c.ellipsoidTolerance x.semiMinor x.expectedSemiMinor

variable {c : Config} {x : Ellipsoid} {k : ℤ} {s : Float}

theorem validate_succeeds_iff_conforms :
    ((Node.ellipsoid x).validate c).succeeds = true ↔ x.Conforms c := by
  rw [Node.validate_succeeds_iff_refers]
  constructor
  · exact fun h => h.1
  · intro h
    exact ⟨h, fun m hm => by cases hm⟩

theorem ComparesShape.isFinite_share (h : x.ComparesShape) :
    (1 - 1 / x.inverseFlattening).isFinite = true := by
  have hone : (1 : Float).isFinite = true := by decide
  have hvalue : value 1 = 1 := by decide +kernel
  have hlt : 1 < value x.inverseFlattening := by
    rw [← hvalue]
    exact (lt_iff_value hone h.flattened.1).mp h.flattened.2
  have hpos : 0 < value x.inverseFlattening := one_pos.trans hlt
  have hinverse : |value 1 / value x.inverseFlattening| < 2 ^ (0 : ℤ) := by
    rw [hvalue, abs_of_pos (div_pos one_pos hpos), zpow_zero]
    exact (div_lt_one hpos).mpr hlt
  obtain ⟨hfinite, hquotient⟩ := value_div hone h.flattened.1 hpos.ne'
    (not_overflows (hinverse.trans (zpow_lt_zpow_right₀ (by decide) (by decide))))
  have hle := abs_nearest_le (by decide) hinverse
  rw [← hquotient, zpow_zero] at hle
  refine (value_sub hone hfinite (not_overflows ?_)).1
  calc |value 1 - value (1 / x.inverseFlattening)|
      ≤ |value 1| + |value (1 / x.inverseFlattening)| := abs_sub _ _
    _ ≤ 1 + 1 := add_le_add (by rw [hvalue, abs_one]) hle
    _ = 2 ^ (1 : ℤ) := by norm_num
    _ < 2 ^ (1023 : ℤ) := zpow_lt_zpow_right₀ (by decide) (by decide)

theorem HangsOnGap.not_conformsRelatively (h : x.HangsOnGap c) : ¬x.ConformsRelatively c :=
  fun hx => h.apart (hx.definitive h.shape.notSphere h.definitive)

/-- The absolute gap only accepts what hangs on it. -/
theorem conforms_iff_relatively_or_hangs
    (hexpected : x.ComparesShape → x.flatteningDefinitive = true →
      x.expectedSemiMinor.isFinite = true) :
    x.Conforms c ↔ x.ConformsRelatively c ∨ x.HangsOnGap c ∧ x.gap ≤ indistinctGap := by
  constructor
  · rintro ⟨identity, unit, major, minor, ordered, sphere, flattened, definitive, derived⟩
    by_cases hwithin : x.isSphere = false → x.flatteningDefinitive = true →
        WithinTolerance c.ellipsoidTolerance x.semiMinor x.expectedSemiMinor
    · exact .inl ⟨identity, unit, major, minor, ordered, sphere, flattened, hwithin, derived⟩
    · right
      push Not at hwithin
      obtain ⟨hflat, hdefinitive, hapart⟩ := hwithin
      have hshape : x.ComparesShape := ⟨major, minor, ordered, hflat, flattened hflat⟩
      have hagree := (agreeWithin_iff minor.1 (hexpected hshape hdefinitive)).mp
        (definitive hflat hdefinitive)
      exact ⟨⟨identity, unit, hshape, hdefinitive, hapart⟩, hagree.resolve_left hapart⟩
  · rintro (⟨identity, unit, major, minor, ordered, sphere, flattened, definitive, derived⟩ |
      ⟨⟨identity, unit, shape, hdefinitive, -⟩, hgap⟩)
    · refine ⟨identity, unit, major, minor, ordered, sphere, flattened,
        fun hflat hdefinitive => ?_, derived⟩
      have hshape : x.ComparesShape := ⟨major, minor, ordered, hflat, flattened hflat⟩
      exact (agreeWithin_iff minor.1 (hexpected hshape hdefinitive)).mpr
        (.inl (definitive hflat hdefinitive))
    · have hagree : agreeWithin c.ellipsoidTolerance x.semiMinor x.expectedSemiMinor = true :=
        (agreeWithin_iff shape.semiMinor.1 (hexpected shape hdefinitive)).mpr (.inr hgap)
      refine ⟨identity, unit, shape.semiMajor, shape.semiMinor, shape.ordered, ?_,
        fun _ => shape.flattened, fun _ _ => hagree, ?_⟩
      · simp [shape.notSphere]
      · simp [hdefinitive]

section Scaled

variable (ha : IsScaled k x.semiMajor (s * x.semiMajor))
  (hb : IsScaled k x.semiMinor (s * x.semiMinor))

include ha in
theorem isScaled_expectedSemiMinor (h : x.ComparesShape)
    (hrange : KeepsRange k (value x.semiMajor * value (1 - 1 / x.inverseFlattening))) :
    IsScaled k x.expectedSemiMinor (x.rescaled s).expectedSemiMinor :=
  ha.mul_right h.isFinite_share hrange

include ha hb in
theorem expectedInverseFlattening_rescaled (h : x.ComparesShape)
    (hsphere : x.isSphere = (x.semiMajor == x.semiMinor))
    (hrange : KeepsRange k (value x.semiMajor - value x.semiMinor)) :
    (x.rescaled s).expectedInverseFlattening = x.expectedInverseFlattening := by
  have hmajor : value x.semiMajor ≠ 0 :=
    (zero_lt_iff_value h.semiMajor.1).mp h.semiMajor.2 |>.ne'
  have hne : value x.semiMajor - value x.semiMinor ≠ 0 := by
    intro heq
    have hbeq := (beq_iff_value ha.finite hb.finite).mpr (sub_eq_zero.mp heq)
    rw [← hsphere, h.notSphere] at hbeq
    cases hbeq
  have hdifference : value (x.semiMajor - x.semiMinor) ≠ 0 := by
    rw [(value_sub ha.finite hb.finite hrange.small).2]
    exact nearest_ne_zero hrange.large hne
  exact ha.div_eq (ha.sub hb hrange) hmajor hdifference

include ha hb in
theorem isSphere_rescaled (hsphere : x.isSphere = (x.semiMajor == x.semiMinor)) :
    (x.rescaled s).isSphere = x.isSphere :=
  (ha.beq_eq hb).trans hsphere.symm

include ha hb in
theorem comparesShape_rescaled_iff (hsphere : x.isSphere = (x.semiMajor == x.semiMinor)) :
    (x.rescaled s).ComparesShape ↔ x.ComparesShape := by
  have hsame := isSphere_rescaled ha hb hsphere
  constructor
  · rintro ⟨major, minor, ordered, notSphere, flattened⟩
    exact ⟨⟨ha.finite, ha.zero_lt_iff.mp major.2⟩, ⟨hb.finite, hb.zero_lt_iff.mp minor.2⟩,
      (hb.le_iff ha).mp ordered, hsame ▸ notSphere, flattened⟩
  · rintro ⟨major, minor, ordered, notSphere, flattened⟩
    exact ⟨⟨ha.finite_scaled, ha.zero_lt_iff.mpr major.2⟩,
      ⟨hb.finite_scaled, hb.zero_lt_iff.mpr minor.2⟩,
      (hb.le_iff ha).mpr ordered, hsame.trans notSphere, flattened⟩

variable (hsphere : x.isSphere = (x.semiMajor == x.semiMinor))
  (h : x.StaysInRange k c.ellipsoidTolerance)

include ha hb h in
theorem withinTolerance_rescaled_iff (hshape : x.ComparesShape)
    (hdefinitive : x.flatteningDefinitive = true) :
    WithinTolerance c.ellipsoidTolerance (x.rescaled s).semiMinor
        (x.rescaled s).expectedSemiMinor ↔
      WithinTolerance c.ellipsoidTolerance x.semiMinor x.expectedSemiMinor :=
  withinTolerance_iff_of_isScaled hb
    (isScaled_expectedSemiMinor ha hshape (h.expected hshape hdefinitive))
    (h.gap hshape hdefinitive) (h.allowance hshape hdefinitive)

include ha hb hsphere h in
theorem conformsRelatively_rescaled_iff :
    (x.rescaled s).ConformsRelatively c ↔ x.ConformsRelatively c := by
  have hshapes := comparesShape_rescaled_iff ha hb hsphere
  have hsame := isSphere_rescaled ha hb hsphere
  constructor
  · rintro ⟨identity, unit, major, minor, ordered, sphere, flattened, definitive, derived⟩
    have hshape : x.isSphere = false → x.ComparesShape := fun hflat =>
      hshapes.mp ⟨major, minor, ordered, hsame.trans hflat, flattened (hsame.trans hflat)⟩
    refine ⟨identity, unit, ⟨ha.finite, ha.zero_lt_iff.mp major.2⟩,
      ⟨hb.finite, hb.zero_lt_iff.mp minor.2⟩, (hb.le_iff ha).mp ordered,
      fun hs => sphere (hsame.trans hs), fun hs => flattened (hsame.trans hs),
      fun hflat hd => ?_, fun hflat hd => ?_⟩
    · exact (withinTolerance_rescaled_iff ha hb h (hshape hflat) hd).mp
        (definitive (hsame.trans hflat) hd)
    · rw [← expectedInverseFlattening_rescaled ha hb (hshape hflat) hsphere
        (h.difference (hshape hflat) hd)]
      exact derived (hsame.trans hflat) hd
  · rintro ⟨identity, unit, major, minor, ordered, sphere, flattened, definitive, derived⟩
    have hshape : x.isSphere = false → x.ComparesShape := fun hflat =>
      ⟨major, minor, ordered, hflat, flattened hflat⟩
    refine ⟨identity, unit, ⟨ha.finite_scaled, ha.zero_lt_iff.mpr major.2⟩,
      ⟨hb.finite_scaled, hb.zero_lt_iff.mpr minor.2⟩, (hb.le_iff ha).mpr ordered,
      fun hs => sphere (hsame.symm.trans hs), fun hs => flattened (hsame.symm.trans hs),
      fun hs hd => ?_, fun hs hd => ?_⟩
    · have hflat := hsame.symm.trans hs
      exact (withinTolerance_rescaled_iff ha hb h (hshape hflat) hd).mpr (definitive hflat hd)
    · have hflat := hsame.symm.trans hs
      rw [expectedInverseFlattening_rescaled ha hb (hshape hflat) hsphere
        (h.difference (hshape hflat) hd)]
      exact derived hflat hd

include ha hb hsphere h in
theorem hangsOnGap_rescaled_iff : (x.rescaled s).HangsOnGap c ↔ x.HangsOnGap c := by
  have hshapes := comparesShape_rescaled_iff ha hb hsphere
  constructor
  · rintro ⟨identity, unit, shape, definitive, apart⟩
    exact ⟨identity, unit, hshapes.mp shape, definitive,
      (withinTolerance_rescaled_iff ha hb h (hshapes.mp shape) definitive).not.mp apart⟩
  · rintro ⟨identity, unit, shape, definitive, apart⟩
    exact ⟨identity, unit, hshapes.mpr shape, definitive,
      (withinTolerance_rescaled_iff ha hb h shape definitive).not.mpr apart⟩

end Scaled

end Ellipsoid

/-- In a unit of length that is a power of two of the first the verdict on an ellipsoid is the same,
except when the definitive inverse flattening is not within the relative tolerance of the semi-axes
and the gap is indistinct in one of the units only. -/
theorem verdict_in_other_unit_differs_by_gap_only {c : Config} {x : Ellipsoid} {s : Float} {k : ℤ}
    (hs : value s = 2 ^ k) (hsphere : x.isSphere = (x.semiMajor == x.semiMinor))
    (h : x.StaysInRange k c.ellipsoidTolerance) :
    (((Node.ellipsoid (x.rescaled s)).validate c).succeeds = true ↔
        ((Node.ellipsoid x).validate c).succeeds = true) ↔
      (x.HangsOnGap c → ((x.rescaled s).gap ≤ indistinctGap ↔ x.gap ≤ indistinctGap)) := by
  rw [Ellipsoid.validate_succeeds_iff_conforms, Ellipsoid.validate_succeeds_iff_conforms]
  by_cases hfinite : x.semiMajor.isFinite = true ∧ x.semiMinor.isFinite = true
  · have ha := IsScaled.of_value_eq_two_zpow hs hfinite.1 h.semiMajor
    have hb := IsScaled.of_value_eq_two_zpow hs hfinite.2 h.semiMinor
    have hexpected (hshape : x.ComparesShape) (hd : x.flatteningDefinitive = true) :=
      Ellipsoid.isScaled_expectedSemiMinor ha hshape (h.expected hshape hd)
    have hshapes := Ellipsoid.comparesShape_rescaled_iff ha hb hsphere
    rw [Ellipsoid.conforms_iff_relatively_or_hangs fun hshape hd => (hexpected hshape hd).finite,
      Ellipsoid.conforms_iff_relatively_or_hangs fun hshape hd =>
        (hexpected (hshapes.mp hshape) hd).finite_scaled,
      Ellipsoid.conformsRelatively_rescaled_iff ha hb hsphere h,
      Ellipsoid.hangsOnGap_rescaled_iff ha hb hsphere h]
    by_cases hhangs : x.HangsOnGap c
    · simp [hhangs, hhangs.not_conformsRelatively]
    · simp [hhangs]
  · -- A semi-axis that is not finite is refused in both units.
    have hnot : ¬x.Conforms c := fun hx => hfinite ⟨hx.semiMajor.1, hx.semiMinor.1⟩
    have hnot' : ¬(x.rescaled s).Conforms c := fun hx => hfinite
      ⟨isFinite_of_isFinite_mul hx.semiMajor.1, isFinite_of_isFinite_mul hx.semiMinor.1⟩
    exact iff_of_true (iff_of_false hnot' hnot) fun hhangs =>
      absurd ⟨hhangs.shape.semiMajor.1, hhangs.shape.semiMinor.1⟩ hfinite

section Pebbles

def pebble (semiMajor semiMinor : Float) : Ellipsoid where
  identity := { name := some (.ofCode "Pebble") }
  semiMajor := semiMajor
  semiMinor := semiMinor
  inverseFlattening := 10
  flatteningDefinitive := true
  unit := some "metre"

def cobble : Ellipsoid :=
  pebble 1000 900.00000001

def grain : Ellipsoid :=
  pebble 8.673617379884035e-19 4.336808689942018e-19

theorem pebble_staysInRange {k : ℤ} {tolerance semiMajor semiMinor : Float}
    (hmajor : KeepsRange k (value semiMajor)) (hminor : KeepsRange k (value semiMinor))
    (hexpected : KeepsRange k (value semiMajor * value (1 - 1 / 10)))
    (hgap : KeepsRange k
      (value semiMinor - value (pebble semiMajor semiMinor).expectedSemiMinor))
    (hallowance : KeepsRange k
      (value (greaterMagnitude semiMinor (pebble semiMajor semiMinor).expectedSemiMinor) *
        value tolerance)) :
    (pebble semiMajor semiMinor).StaysInRange k tolerance :=
  ⟨hmajor, hminor, fun _ hd => Bool.noConfusion hd, fun _ _ => hexpected, fun _ _ _ => hgap,
    fun _ _ _ => hallowance⟩

theorem verdict_on_cobble_in_other_unit :
    value 0.0009765625 = 2 ^ (-10 : ℤ) ∧
      cobble.isSphere = (cobble.semiMajor == cobble.semiMinor) ∧
      cobble.StaysInRange (-10) ({} : Config).ellipsoidTolerance ∧
      ((Node.ellipsoid cobble).validate {}).succeeds = true ∧
      ((Node.ellipsoid (cobble.rescaled 0.0009765625)).validate {}).succeeds = true := by
  have hunit : value 0.0009765625 = 2 ^ (-10 : ℤ) := by decide +kernel
  have hrange : cobble.StaysInRange (-10) ({} : Config).ellipsoidTolerance := by
    apply pebble_staysInRange <;> apply keepsRange_of_normal <;> decide +kernel
  have haccepted : ((Node.ellipsoid cobble).validate {}).succeeds = true := by decide +kernel
  have hwithin : WithinTolerance ({} : Config).ellipsoidTolerance cobble.semiMinor
      cobble.expectedSemiMinor := .inr (by decide +kernel)
  have hverdict := (verdict_in_other_unit_differs_by_gap_only hunit rfl hrange).mpr
    fun hhangs => absurd hwithin hhangs.apart
  exact ⟨hunit, rfl, hrange, haccepted, hverdict.mpr haccepted⟩

/-- The grain is accepted, and it is refused in the unit in which it is one unit wide. -/
theorem grain_accepted_by_absolute_gap :
    value 1152921504606846976 = 2 ^ (60 : ℤ) ∧
      grain.isSphere = (grain.semiMajor == grain.semiMinor) ∧
      grain.StaysInRange 60 ({} : Config).ellipsoidTolerance ∧
      ((Node.ellipsoid grain).validate {}).succeeds = true ∧
      grain.rescaled 1152921504606846976 = pebble 1 0.5 ∧
      ((Node.ellipsoid (pebble 1 0.5)).validate {}).succeeds = false := by
  refine ⟨by decide +kernel, rfl, ?_, by decide +kernel, by decide +kernel, by decide +kernel⟩
  apply pebble_staysInRange <;> apply keepsRange_of_normal <;> decide +kernel

end Pebbles

end GeoConformance
