import GeoConformance.Orientation
import GeoConformance.Violation

/-! Perpendicularity of axes. Each direction is paired with the first later one of its category
that is still free, and the two must be a whole number of right angles apart. A paired direction
is compared with no other one, so a good pair can hide a bad one. -/
namespace GeoConformance

def AxisDirection.orientation (direction : AxisDirection) : Except ValidationError Orientation :=
  match direction.orientation? with
  | some orientation => .ok orientation
  | none => .error (.internalCatalogFault direction)

namespace Perpendicular

structure Entry where
  direction : AxisDirection
  orientation : Orientation
  paired : Bool := false
  deriving DecidableEq, Repr

def Entry.ofDirection (direction : AxisDirection) : Except ValidationError Entry := do
  return ⟨direction, ← direction.orientation, false⟩

/-- A partner, the separation from it, and the entries among which it is now paired. -/
structure Pairing where
  partner : AxisDirection
  separation : UInt8
  entries : List Entry
  deriving DecidableEq, Repr

/-- Pairs an orientation with the first free entry of its category. -/
def pair? (orientation : Orientation) : List Entry → Option Pairing
  | [] => none
  | e :: es =>
    let later := (pair? orientation es).map fun p => { p with entries := e :: p.entries }
    if e.paired then later
    else
      match orientation.separation e.orientation with
      | some separation => some ⟨e.direction, separation, { e with paired := true } :: es⟩
      | none => later

theorem length_of_pair? {o : Orientation} {es : List Entry} {p : Pairing}
    (h : pair? o es = some p) : p.entries.length = es.length := by
  induction es generalizing p with
  | nil => simp [pair?] at h
  | cons e es ih =>
    have later {q : Pairing}
        (hq : (pair? o es).map (fun p => { p with entries := e :: p.entries }) = some q) :
        q.entries.length = (e :: es).length := by
      obtain ⟨r, hr, rfl⟩ := Option.map_eq_some_iff.mp hq
      simp [ih hr]
    simp only [pair?] at h
    split at h
    · exact later h
    · split at h
      · cases h; rfl
      · exact later h

def scan : List Entry → Except ValidationError Unit
  | [] => .ok ()
  | e :: es =>
    if e.paired then scan es
    else
      match h : pair? e.orientation es with
      | none => scan es
      | some p =>
        if p.separation % rightAngle = 0 then
          have : p.entries.length = es.length := length_of_pair? h
          scan p.entries
        else
          .error (.inconsistentGeometry e.direction p.partner
            (p.separation.toFloat * degreesPerStep))
termination_by entries => entries.length

end Perpendicular

/-- Fails with the first pair of directions that are not a multiple of 90° apart. -/
def checkPerpendicular (directions : List AxisDirection) : Except ValidationError Unit := do
  Perpendicular.scan (← directions.mapM Perpendicular.Entry.ofDirection)

end GeoConformance
