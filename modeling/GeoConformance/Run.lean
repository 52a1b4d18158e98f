import GeoConformance.Violation

/-! Runs of a validation: what it logged, and whether it succeeded. A failing run keeps what was
logged before the failure, and nothing runs after it. -/
namespace GeoConformance

inductive LogLine
  | warn (violation : Violation)
  /-- An object passed the checks of the roles that it plays. -/
  | validatedAs (name : String) (roles : List Role)
  /-- An object plays no role, so the checks of any object are run. -/
  | withoutRole (name : String)
  deriving DecidableEq, Repr

namespace LogLine

def level : LogLine → String
  | warn _ => "WARN"
  | validatedAs .. | withoutRole _ => "DEBUG"

def text : LogLine → String
  | warn violation => violation.text
  | validatedAs name roles =>
    "Object " ++ name ++ " validated as [" ++ ", ".intercalate (roles.map (·.name)) ++ "]"
  | withoutRole name =>
    "Object " ++ name ++ " plays no specialized role, running identified object checks"

def violation? : LogLine → Option Violation
  | warn violation => some violation
  | _ => none

end LogLine

structure Run (α : Type) where
  log : List LogLine
  result : Except ValidationError α

namespace Run

variable {α β : Type}

@[ext] theorem ext {r s : Run α} (hl : r.log = s.log) (hr : r.result = s.result) : r = s := by
  cases r; cases s; simp_all

instance [DecidableEq α] : DecidableEq (Run α)
  | ⟨l, .ok a⟩, ⟨m, .ok b⟩ => decidable_of_iff (l = m ∧ a = b) (by simp)
  | ⟨l, .error d⟩, ⟨m, .error e⟩ => decidable_of_iff (l = m ∧ d = e) (by simp)
  | ⟨_, .ok _⟩, ⟨_, .error _⟩ => isFalse (by simp)
  | ⟨_, .error _⟩, ⟨_, .ok _⟩ => isFalse (by simp)

def fail (e : ValidationError) : Run α :=
  ⟨[], .error e⟩

def ofExcept (result : Except ValidationError α) : Run α :=
  ⟨[], result⟩

def tell (line : LogLine) : Run Unit :=
  ⟨[line], .ok ()⟩

def warn (violation : Violation) : Run Unit :=
  tell (.warn violation)

/-- The violations that were let pass, in order. -/
def warnings (r : Run α) : List Violation :=
  r.log.filterMap (·.violation?)

def succeeds (r : Run α) : Bool :=
  r.result.toBool

protected def bind (r : Run α) (f : α → Run β) : Run β :=
  match r.result with
  | .ok a => ⟨r.log ++ (f a).log, (f a).result⟩
  | .error e => ⟨r.log, .error e⟩

instance : Monad Run where
  pure a := ⟨[], .ok a⟩
  bind := Run.bind

@[simp] theorem pure_log (a : α) : (pure a : Run α).log = [] := rfl
@[simp] theorem pure_result (a : α) : (pure a : Run α).result = .ok a := rfl

theorem bind_of_ok {r : Run α} {a : α} (h : r.result = .ok a) (f : α → Run β) :
    r >>= f = ⟨r.log ++ (f a).log, (f a).result⟩ := by
  simp only [bind, Run.bind, h]

theorem bind_of_error {r : Run α} {e : ValidationError} (h : r.result = .error e)
    (f : α → Run β) : r >>= f = ⟨r.log, .error e⟩ := by
  simp only [bind, Run.bind, h]

instance : LawfulMonad Run := .mk' Run
  (fun r => by
    cases h : r.result with
    | ok a => simp [Functor.map, Run.bind, h, Run.ext_iff]
    | error e => simp [Functor.map, Run.bind, h, Run.ext_iff])
  (fun _ _ => rfl)
  (fun r f g => by
    cases h : r.result with
    | error e => simp [bind, Run.bind, h]
    | ok a =>
      cases h' : (f a).result with
      | ok b => simp [bind, Run.bind, h, h']
      | error e => simp [bind, Run.bind, h, h'])

end Run
end GeoConformance
