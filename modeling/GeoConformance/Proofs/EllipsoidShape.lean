import Mathlib
import GeoConformance.Proofs.VisitedGraph

/-! The shape of an accepted ellipsoid. Its semi-axes are positive and in order, and its inverse
flattening is that of a sphere or that of a flattened ellipsoid as the object says of itself. So
shape and inverse flattening agree exactly when what it says is true of its semi-axes, which no
check looks at. -/
namespace GeoConformance

namespace Double

open Float.Model (UnpackedFloat)

theorem eq_of_unpack_eq {x y : Float} (h : x.toModel.unpack = y.toModel.unpack) : x = y := by
  apply Float.toBits_inj.mp
  apply UInt64.toBitVec_inj.mp
  exact (UnpackedFloat.unpack_inj_of_valid x.toModel.valid y.toModel.valid).mp h

theorem eq_infinity_of_isInf {x : Float} (h : x.isInf = true) (hpos : 0 < x) : x = 1 / 0 := by
  apply eq_of_unpack_eq
  have hinf : x.toModel.unpack.isInf = true := h
  have hlt : (Float.toModel 0).unpack.lt x.toModel.unpack = true := of_decide_eq_true hpos
  cases hx : x.toModel.unpack with
  | infinity s =>
    cases s with
    | negative =>
      rw [hx] at hlt
      exact absurd hlt (by decide)
    | positive => rfl
  | _ => simp [hx, UnpackedFloat.isInf] at hinf

theorem eq_of_beq_of_pos {x y : Float} (h : (x == y) = true) (hpos : 0 < x) : x = y := by
  obtain ⟨-, -, rfl | ⟨rfl, -⟩ | ⟨rfl, -⟩⟩ := Float.beq_iff_ne_nan_and_eq.mp h
  · rfl
  · exact absurd hpos (by decide)
  · exact absurd hpos (by decide)

theorem beq_self_of_isFinite {x : Float} (h : x.isFinite = true) : (x == x) = true := by
  apply Float.beq_self_iff.mpr
  rintro rfl
  exact absurd h (by decide)

theorem lt_iff_le_and_not_beq {x y : Float} : x < y ↔ x ≤ y ∧ ¬(x == y) = true := by
  have hlt : x < y ↔ x.toModel.unpack.lt y.toModel.unpack = true := decide_eq_true_iff
  have hle : x ≤ y ↔ x.toModel.unpack.le y.toModel.unpack = true := decide_eq_true_iff
  have hbeq : (x == y) = true ↔ x.toModel.unpack.beq y.toModel.unpack = true := Iff.rfl
  rw [hlt, hle, hbeq, UnpackedFloat.lt, UnpackedFloat.le, UnpackedFloat.beq]
  cases x.toModel.unpack.compare y.toModel.unpack with
  | none => decide
  | some o => cases o <;> decide

end Double

open Double

namespace Ellipsoid

/-- A sphere has an infinite inverse flattening, and a flattened ellipsoid a finite one. -/
def ShapeAgrees (x : Ellipsoid) : Prop :=
  (x.semiMajor = x.semiMinor ∧ x.inverseFlattening = 1 / 0) ∨
    (x.semiMinor < x.semiMajor ∧ x.inverseFlattening.isFinite = true ∧ 1 < x.inverseFlattening)

variable {c : Config} {x : Ellipsoid}

theorem conforms_of_succeeds (h : ((Node.ellipsoid x).validate c).succeeds = true) :
    x.Conforms c :=
  (Node.validate_succeeds_iff_refers.mp h).1

theorem Conforms.isSphere_iff (h : x.Conforms c) :
    x.isSphere = true ↔ x.inverseFlattening = 1 / 0 := by
  constructor
  · intro hs
    exact eq_infinity_of_isInf (h.sphere hs).1 (h.sphere hs).2
  · intro hinf
    by_contra hs
    have hfinite := (h.flattened (Bool.not_eq_true _ ▸ hs)).1
    rw [hinf] at hfinite
    exact absurd hfinite (by decide)

theorem Conforms.semiAxes_cases (h : x.Conforms c) :
    ((x.semiMajor == x.semiMinor) = true ∧ x.semiMajor = x.semiMinor) ∨
      ((x.semiMajor == x.semiMinor) = false ∧ x.semiMinor < x.semiMajor) := by
  cases heq : x.semiMajor == x.semiMinor with
  | true => exact .inl ⟨rfl, eq_of_beq_of_pos heq h.semiMajor.2⟩
  | false =>
    refine .inr ⟨rfl, lt_iff_le_and_not_beq.mpr ⟨h.ordered, fun hbeq => ?_⟩⟩
    rw [BEq.symm hbeq] at heq
    cases heq

theorem Conforms.shapeAgrees_iff (h : x.Conforms c) :
    x.ShapeAgrees ↔ x.isSphere = (x.semiMajor == x.semiMinor) := by
  obtain ⟨hbeq, heq⟩ | ⟨hbeq, hlt⟩ := h.semiAxes_cases
  · have hnot : ¬x.semiMinor < x.semiMajor := fun hlt =>
      (lt_iff_le_and_not_beq.mp hlt).2 (BEq.symm hbeq)
    rw [hbeq, h.isSphere_iff]
    constructor
    · rintro (⟨-, hinf⟩ | ⟨hlt, -⟩)
      · exact hinf
      · exact absurd hlt hnot
    · exact fun hinf => .inl ⟨heq, hinf⟩
  · have hne : x.semiMajor ≠ x.semiMinor := fun heq => by
      rw [heq, beq_self_of_isFinite h.semiMinor.1] at hbeq
      cases hbeq
    rw [hbeq]
    constructor
    · rintro (⟨heq, -⟩ | ⟨-, hfinite, -⟩)
      · exact absurd heq hne
      · by_contra hs
        rw [h.isSphere_iff.mp (Bool.not_eq_false _ ▸ hs)] at hfinite
        exact absurd hfinite (by decide)
    · exact fun hs => .inr ⟨hlt, h.flattened hs⟩

end Ellipsoid

/-- The semi-axes of an accepted ellipsoid are finite, positive and in order, and its inverse
flattening is what it says of itself: infinite for a sphere, finite and above 1 otherwise. The two
agree exactly when it calls itself a sphere just in case its semi-axes are the same, which is what
it says unless it overrides that. -/
theorem accepted_shape_agrees_iff_sphere_by_axes {c : Config} {x : Ellipsoid}
    (h : ((Node.ellipsoid x).validate c).succeeds = true) :
    x.semiMajor.isFinite = true ∧ x.semiMinor.isFinite = true ∧
      0 < x.semiMinor ∧ x.semiMinor ≤ x.semiMajor ∧
      (x.isSphere = true → x.inverseFlattening = 1 / 0) ∧
      (x.isSphere = false → x.inverseFlattening.isFinite = true ∧ 1 < x.inverseFlattening) ∧
      (x.ShapeAgrees ↔ x.isSphere = (x.semiMajor == x.semiMinor)) := by
  have hx : x.Conforms c := Ellipsoid.conforms_of_succeeds h
  exact ⟨hx.semiMajor.1, hx.semiMinor.1, hx.semiMinor.2, hx.ordered, hx.isSphere_iff.mp,
    hx.flattened, hx.shapeAgrees_iff⟩

section Globe

def globe (semiMinor inverseFlattening : Float) (isSphere : Bool) : Ellipsoid where
  identity := { name := some (.ofCode "Globe") }
  semiMajor := 1000
  semiMinor := semiMinor
  inverseFlattening := inverseFlattening
  unit := some "metre"
  isSphere := isSphere

theorem shape_of_globe_agrees :
    ((Node.ellipsoid (globe 500 2 false)).validate {}).succeeds = true ∧
      (globe 500 2 false).ShapeAgrees := by
  have haccepted : ((Node.ellipsoid (globe 500 2 false)).validate {}).succeeds = true := by
    decide +kernel
  obtain ⟨-, -, -, -, -, -, hagrees⟩ := accepted_shape_agrees_iff_sphere_by_axes haccepted
  exact ⟨haccepted, hagrees.mpr (by decide +kernel)⟩

/-- Half as high as it is wide, and accepted with the inverse flattening of a sphere, as it calls
itself one. -/
theorem flattened_globe_accepted_as_sphere :
    (Node.ellipsoid (globe 500 (1 / 0) true)).validate {} = ⟨[], .ok ()⟩ ∧
      ¬(globe 500 (1 / 0) true).ShapeAgrees := by
  have hrun : (Node.ellipsoid (globe 500 (1 / 0) true)).validate {} = ⟨[], .ok ()⟩ := by
    decide +kernel
  have haccepted : ((Node.ellipsoid (globe 500 (1 / 0) true)).validate {}).succeeds = true := by
    rw [hrun]
    rfl
  have hx := Ellipsoid.conforms_of_succeeds haccepted
  refine ⟨hrun, fun hagrees => ?_⟩
  exact absurd (hx.shapeAgrees_iff.mp hagrees) (by decide +kernel)

end Globe
end GeoConformance
