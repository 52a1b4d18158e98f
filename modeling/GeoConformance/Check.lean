import GeoConformance.Config
import GeoConformance.Perpendicular
import GeoConformance.Run

/-! Single checks, and lists of them run in order up to the first failure. A broken rule of
presence fails the run or is only warned of, as the configuration says; any other broken rule
fails it. -/
namespace GeoConformance

/-- Attribute values that can be absent: nothing, or an empty collection. -/
class Presence (α : Type) where
  isAbsent : α → Bool

instance {α : Type} : Presence (Option α) := ⟨Option.isNone⟩
instance {α : Type} : Presence (List α) := ⟨List.isEmpty⟩
instance {α : Type} : Presence (Array α) := ⟨Array.isEmpty⟩

/-- The difference below which two doubles agree at any tolerance. -/
def indistinctGap : Float := 2.220446049250313e-16

/-- Agreement of two doubles up to a tolerance relative to the greater magnitude. -/
def agreeWithin (tolerance x y : Float) : Bool :=
  if x == y then true
  else if x.isInf || y.isInf then false
  else
    let gap := (x - y).abs
    gap ≤ indistinctGap || gap ≤ (if x.abs < y.abs then y.abs else x.abs) * tolerance

inductive Check
  | mandatory (absent : Bool) (violation : Violation)
  | forbidden (absent : Bool) (violation : Violation)
  | ensure (holds : Bool) (violation : Violation)
  /-- The two doubles agree within the tolerance for ellipsoids. -/
  | agree (x y : Float) (violation : Violation)
  | perpendicular (directions : List AxisDirection)
  deriving DecidableEq, Repr

namespace Check

def require {α : Type} [Presence α] (value : α) (violation : Violation) : Check :=
  mandatory (Presence.isAbsent value) violation

def forbid {α : Type} [Presence α] (value : α) (violation : Violation) : Check :=
  forbidden (Presence.isAbsent value) violation

def run (c : Config) : Check → Run Unit
  | mandatory absent violation =>
    if !absent then pure ()
    else if c.requireMandatory then .fail (.missingRequiredField violation)
    else .warn violation
  | forbidden absent violation =>
    if absent then pure ()
    else if c.enforceForbidden then .fail (.unexpectedField violation)
    else .warn violation
  | ensure holds violation => if holds then pure () else .fail (.invalidValue violation)
  | agree x y violation =>
    if agreeWithin c.ellipsoidTolerance x y then pure () else .fail (.invalidValue violation)
  | perpendicular directions => .ofExcept (checkPerpendicular directions)

def passes (c : Config) (k : Check) : Bool :=
  (k.run c).succeeds

def runAll (c : Config) (checks : List Check) : Run Unit :=
  forM checks (·.run c)

@[simp] theorem runAll_nil (c : Config) : runAll c [] = pure () := rfl

@[simp] theorem runAll_cons (c : Config) (k : Check) (ks : List Check) :
    runAll c (k :: ks) = (do k.run c; runAll c ks) := rfl

@[simp] theorem runAll_append (c : Config) (ks ls : List Check) :
    runAll c (ks ++ ls) = (do runAll c ks; runAll c ls) :=
  List.forM_append

/-- The elements of a collection that a run of their checks comes to: those that pass, and the
first that fails. -/
def reached {α : Type} (c : Config) (checks : α → List Check) : List α → List α
  | [] => []
  | a :: as => a :: if (runAll c (checks a)).succeeds then reached c checks as else []

theorem runAll_succeeds {c : Config} {ks : List Check} :
    (runAll c ks).succeeds = true ↔ ∀ k ∈ ks, k.passes c = true := by
  induction ks with
  | nil => simp [Run.succeeds, Except.toBool]
  | cons k ks ih =>
    cases h : (k.run c).result with
    | ok u =>
      rw [runAll_cons, Run.bind_of_ok h]
      simpa [Run.succeeds, passes, h, Except.toBool] using ih
    | error e =>
      rw [runAll_cons, Run.bind_of_error h]
      simp [Run.succeeds, passes, h, Except.toBool]

/-- The checks of every element of a collection, then that there is one where there has to be. -/
def forEvery {α : Type} (property : String) (items : List α) (nonEmpty : Bool)
    (checks : α → List Check) : List Check :=
  items.flatMap checks ++ if nonEmpty then [require items (.emptyCollection property)] else []

/-- The text is more than white space. -/
def notBlank (property text : String) : Check :=
  ensure (!isBlank text) (.blankText property)

end Check
end GeoConformance
