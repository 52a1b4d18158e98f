import GeoConformance.Validation

/-! Dispatch of an object to the checks of every role that it plays. An object that plays none has
the checks of any object; no object at all is accepted unseen. -/
namespace GeoConformance

/-- An object, seen in each of the roles that it plays. All views share the object's identity. -/
structure Subject where
  identity : Identity
  crs : Option Crs := none
  coordinateSystem : Option CoordinateSystem := none
  axis : Option Axis := none
  datum : Option Datum := none
  ellipsoid : Option Ellipsoid := none
  primeMeridian : Option PrimeMeridian := none
  parameter : Option Parameter := none
  operation : Option Operation := none
  method : Option OperationMethod := none

namespace Subject

def view (x : Subject) : Role → Option Node
  | .coordinateReferenceSystem => x.crs.map fun y => .crs { y with identity := x.identity }
  | .coordinateSystem =>
    x.coordinateSystem.map fun y => .coordinateSystem { y with identity := x.identity }
  | .coordinateSystemAxis => x.axis.map fun y => .axis { y with identity := x.identity }
  | .datum => x.datum.map fun y => .datum { y with identity := x.identity }
  | .ellipsoid => x.ellipsoid.map fun y => .ellipsoid { y with identity := x.identity }
  | .primeMeridian => x.primeMeridian.map fun y => .primeMeridian { y with identity := x.identity }
  | .parameterDescriptor => x.parameter.map fun y => .parameter { y with identity := x.identity }
  | .coordinateOperation => x.operation.map fun y => .operation { y with identity := x.identity }
  | .operationMethod => x.method.map fun y => .method { y with identity := x.identity }

/-- Whether the object has a view in a role. -/
def plays (x : Subject) : Role → Bool
  | .coordinateReferenceSystem => x.crs.isSome
  | .coordinateSystem => x.coordinateSystem.isSome
  | .coordinateSystemAxis => x.axis.isSome
  | .datum => x.datum.isSome
  | .ellipsoid => x.ellipsoid.isSome
  | .primeMeridian => x.primeMeridian.isSome
  | .parameterDescriptor => x.parameter.isSome
  | .coordinateOperation => x.operation.isSome
  | .operationMethod => x.method.isSome

theorem isSome_view (x : Subject) (r : Role) : (x.view r).isSome = x.plays r := by
  cases r <;> simp [view, plays]

def roles (x : Subject) : List Role :=
  Role.all.filter x.plays

def views (x : Subject) : List Node :=
  Role.all.filterMap x.view

theorem role_of_view {x : Subject} {r : Role} {n : Node} (h : x.view r = some n) : n.role = r := by
  cases r <;>
    (obtain ⟨y, _, rfl⟩ := Option.map_eq_some_iff.mp h
     rfl)

theorem identity_of_view {x : Subject} {r : Role} {n : Node} (h : x.view r = some n) :
    n.identity = x.identity := by
  cases r <;>
    (obtain ⟨y, _, rfl⟩ := Option.map_eq_some_iff.mp h
     rfl)

theorem map_role_views (x : Subject) : x.views.map (·.role) = x.roles := by
  simp only [views, roles]
  induction Role.all with
  | nil => rfl
  | cons r rs ih =>
    have hp := x.isSome_view r
    cases h : x.view r with
    | none => simp_all
    | some n => simp_all [role_of_view h]

/-- Validates the object in those of the listed roles that it plays, in their order, and answers
with the roles that it was validated in. -/
def validateIn (c : Config) (x : Subject) : List Role → Run (List Role)
  | [] => pure []
  | role :: rest =>
    match x.view role with
    | none => x.validateIn c rest
    | some n => do
      n.validate c
      return role :: (← x.validateIn c rest)

end Subject

inductive Dispatch
  /-- There was no object. -/
  | skipped
  /-- The object plays no role and passed the checks of any object. -/
  | generic
  /-- The object passed the checks of these roles. -/
  | specialized (roles : List Role)
  deriving DecidableEq, Repr

def dispatch (c : Config) : Option Subject → Run Dispatch
  | none => pure .skipped
  | some x => do
    let played ← x.validateIn c Role.all
    if played.isEmpty then
      .tell (.withoutRole x.identity.displayName)
      Check.runAll c x.identity.checks
      return .generic
    else
      .tell (.validatedAs x.identity.displayName played)
      return .specialized played

end GeoConformance
