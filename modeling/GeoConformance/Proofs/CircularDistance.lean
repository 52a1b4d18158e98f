import GeoConformance.Perpendicular

/-! Distances on the full turn of sixteen steps. The separation of two orientations is the shorter
way round between their positions, whether or not these stay below the full turn. -/
namespace GeoConformance

def clockwiseSteps (p q : Nat) : Nat :=
  (((q : Int) - p) % 16).toNat

/-- The steps between two positions, going the shorter way round. -/
def circularDistance (p q : Nat) : Nat :=
  min (clockwiseSteps p q) (clockwiseSteps q p)

theorem circularDistance_le (p q : Nat) : circularDistance p q ≤ 8 := by
  simp only [circularDistance, clockwiseSteps]
  omega

theorem circularDistance_mod_four_eq_zero {p q : Nat} :
    circularDistance p q % 4 = 0 ↔ p % 4 = q % 4 := by
  simp only [circularDistance, clockwiseSteps]
  omega

theorem toNat_min (p q : UInt8) : (min p q).toNat = min p.toNat q.toNat := by
  show (if p ≤ q then p else q).toNat = _
  by_cases h : p ≤ q
  · rw [if_pos h, Nat.min_eq_left (UInt8.le_iff_toNat_le.mp h)]
  · rw [if_neg h, Nat.min_eq_right (UInt8.le_iff_toNat_le.mp (UInt8.le_of_lt (UInt8.not_le.mp h)))]

theorem toNat_max (p q : UInt8) : (max p q).toNat = max p.toNat q.toNat := by
  show (if p ≤ q then q else p).toNat = _
  by_cases h : p ≤ q
  · rw [if_pos h, Nat.max_eq_right (UInt8.le_iff_toNat_le.mp h)]
  · rw [if_neg h, Nat.max_eq_left (UInt8.le_iff_toNat_le.mp (UInt8.le_of_lt (UInt8.not_le.mp h)))]

theorem position_min_le_max (p q : UInt8) : min p q ≤ max p q := by
  rw [UInt8.le_iff_toNat_le, toNat_min, toNat_max]
  omega

theorem mod_fullTurn_le (p : UInt8) : p % fullTurn ≤ fullTurn := by
  have hturn : fullTurn.toNat = 16 := rfl
  rw [UInt8.le_iff_toNat_le, UInt8.toNat_mod, hturn]
  omega

/-- The difference of positions, reduced by full turns and then to the shorter way, is their
circular distance: neither subtraction goes below zero. -/
theorem toNat_shorter_way (p q : UInt8) :
    (min ((max p q - min p q) % fullTurn) (fullTurn - (max p q - min p q) % fullTurn)).toNat =
      circularDistance p.toNat q.toNat := by
  have hturn : fullTurn.toNat = 16 := rfl
  have hmod : ((max p q - min p q) % fullTurn).toNat =
      (max p.toNat q.toNat - min p.toNat q.toNat) % 16 := by
    rw [UInt8.toNat_mod, UInt8.toNat_sub_of_le _ _ (position_min_le_max p q), toNat_max, toNat_min,
      hturn]
  rw [toNat_min, UInt8.toNat_sub_of_le _ _ (mod_fullTurn_le _), hmod, hturn]
  simp only [circularDistance, clockwiseSteps]
  omega

theorem Orientation.separation_eq_some_iff {x y : Orientation} {s : UInt8} :
    x.separation y = some s ↔ x.category = y.category ∧
      s.toNat = circularDistance x.position.toNat y.position.toNat := by
  by_cases h : x.category = y.category
  · simp only [separation, h, if_true, true_and, Option.some.injEq]
    rw [← toNat_shorter_way, eq_comm]
    exact UInt8.toNat_inj.symm
  · simp [separation, h]

theorem Orientation.separation_eq_none_iff {x y : Orientation} :
    x.separation y = none ↔ x.category ≠ y.category := by
  rw [← Option.not_isSome_iff_eq_none, separation_isSome]

theorem Orientation.separation_mod_rightAngle {x y : Orientation} {s : UInt8}
    (h : x.separation y = some s) :
    s % rightAngle = 0 ↔ x.position.toNat % 4 = y.position.toNat % 4 := by
  have hs := (separation_eq_some_iff.mp h).2
  rw [← UInt8.toNat_inj, UInt8.toNat_mod, hs]
  exact circularDistance_mod_four_eq_zero

namespace AxisDirection

def catalogEntry (direction : AxisDirection) : Orientation :=
  direction.orientation?.get direction.orientation?_isSome

theorem orientation_eq (direction : AxisDirection) :
    direction.orientation = .ok direction.catalogEntry := by
  have h : direction.orientation? = some direction.catalogEntry := (Option.some_get _).symm
  rw [orientation, h]

def category (direction : AxisDirection) : Category :=
  direction.catalogEntry.category

def position (direction : AxisDirection) : Nat :=
  direction.catalogEntry.position.toNat

/-- Whether two directions are a whole number of right angles apart. -/
def RightAngled (a b : AxisDirection) : Prop :=
  a.position % 4 = b.position % 4

instance (a b : AxisDirection) : Decidable (RightAngled a b) :=
  inferInstanceAs (Decidable (_ = _))

def angleBetween (a b : AxisDirection) : Float :=
  22.5 * (circularDistance a.position b.position).toFloat

theorem angleBetween_of_not_rightAngled {a b : AxisDirection} (h : ¬RightAngled a b) :
    0 < angleBetween a b ∧ angleBetween a b < 180 ∧ angleBetween a b ≠ 90 := by
  have hall : ∀ m : Fin 9, m.val % 4 ≠ 0 →
      (0 : Float) < 22.5 * m.val.toFloat ∧ 22.5 * m.val.toFloat < 180 ∧
        22.5 * m.val.toFloat ≠ 90 := by
    decide +kernel
  have hle := circularDistance_le a.position b.position
  exact hall ⟨circularDistance a.position b.position, by omega⟩
    fun h0 => h (circularDistance_mod_four_eq_zero.mp h0)

/-- Only directions of the compass can be at another angle: the steps of all other categories are
right angles or multiples of them. -/
theorem rightAngled_of_category_ne {a b : AxisDirection} (h : a.category = b.category)
    (hne : a.category ≠ .geographic) : RightAngled a b := by
  have hall : ∀ d ∈ all, d.category ≠ .geographic → d.position % 4 = 0 := by
    decide +kernel
  have ha := hall a (Vocabulary.mem_all a) hne
  have hb := hall b (Vocabulary.mem_all b) (h ▸ hne)
  rw [RightAngled, ha, hb]

theorem toFloat_mul_degreesPerStep {s : UInt8} {n : Nat} (h : s.toNat = n) (hn : n ≤ 8) :
    s.toFloat * degreesPerStep = 22.5 * n.toFloat := by
  have hall : ∀ m : Fin 9, m.val.toUInt8.toFloat * degreesPerStep = 22.5 * m.val.toFloat := by
    decide +kernel
  have hs : s = n.toUInt8 := by
    rw [← h]
    exact UInt8.ofNat_toNat.symm
  rw [hs]
  exact hall ⟨n, by omega⟩

theorem separation_mod_rightAngle {a b : AxisDirection} {s : UInt8}
    (h : a.catalogEntry.separation b.catalogEntry = some s) :
    s % rightAngle = 0 ↔ RightAngled a b :=
  Orientation.separation_mod_rightAngle h

theorem separation_toFloat {a b : AxisDirection} {s : UInt8}
    (h : a.catalogEntry.separation b.catalogEntry = some s) :
    s.toFloat * degreesPerStep = angleBetween a b :=
  toFloat_mul_degreesPerStep (Orientation.separation_eq_some_iff.mp h).2 (circularDistance_le _ _)

end AxisDirection
end GeoConformance
