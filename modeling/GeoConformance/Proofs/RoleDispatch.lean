import GeoConformance.Dispatch
import GeoConformance.Proofs.RunLaws

/-! Dispatch by roles. An object is validated once in each role that it plays, in the order of the
roles, up to the first failure; the checks that every object is subject to come first in each role,
so that an object that breaks one of them is refused in the same way whatever it plays. -/
namespace GeoConformance

theorem Identity.checks_obligations (x : Identity) :
    x.obligations.flatMap (·.checks) = x.checks := by
  simp only [obligations, List.flatMap_map]
  exact List.flatMap_singleton' x.checks

namespace Node

theorem identity_obligations_prefix (n : Node) : n.identity.obligations <+: n.obligations := by
  cases n with
  | crs x => exact ⟨_, rfl⟩
  | coordinateSystem x =>
    simp only [obligations, CoordinateSystem.obligations, List.append_assoc]
    exact ⟨_, rfl⟩
  | axis x => exact ⟨_, rfl⟩
  | datum x =>
    simp only [obligations, Datum.obligations, List.append_assoc]
    exact ⟨_, rfl⟩
  | ellipsoid x => exact ⟨_, rfl⟩
  | primeMeridian x => exact ⟨_, rfl⟩
  | parameter x =>
    simp only [obligations, Parameter.obligations, List.append_assoc]
    exact ⟨_, rfl⟩
  | operation x =>
    simp only [obligations, Operation.obligations, List.append_assoc]
    exact ⟨_, rfl⟩
  | method x => exact ⟨_, rfl⟩

theorem identity_checks_prefix (n : Node) : n.identity.checks <+: n.checks := by
  obtain ⟨os, h⟩ := n.identity_obligations_prefix
  refine ⟨os.flatMap (·.checks), ?_⟩
  rw [checks_eq, ← h, List.flatMap_append, Identity.checks_obligations]

theorem validate_of_identity_error {c : Config} {n : Node} {e : ValidationError}
    (h : ((Target.identity n.identity).validate c).result = .error e) :
    (n.validate c).result = .error e := by
  obtain ⟨ks, hk⟩ := n.identity_checks_prefix
  rw [validate, ← hk, Check.runAll_append]
  exact congrArg Run.result (Run.bind_of_error h _)

end Node

namespace Subject

theorem validateIn_eq (c : Config) (x : Subject) (rs : List Role) :
    x.validateIn c rs =
      (do forM (rs.filterMap x.view) (·.validate c); return rs.filter x.plays) := by
  induction rs with
  | nil => rfl
  | cons r rs ih =>
    have hp := x.isSome_view r
    cases h : x.view r with
    | none =>
      have hn : x.plays r = false := by simpa [h] using hp.symm
      simp [validateIn, h, hn, ih]
    | some n =>
      have hs : x.plays r = true := by simpa [h] using hp.symm
      simp [validateIn, h, hs, ih]

theorem validateIn_all (c : Config) (x : Subject) :
    x.validateIn c Role.all = (do forM x.views (·.validate c); return x.roles) :=
  validateIn_eq c x Role.all

theorem views_eq (x : Subject) : x.views =
    [x.crs.map fun y => .crs { y with identity := x.identity },
      x.coordinateSystem.map fun y => .coordinateSystem { y with identity := x.identity },
      x.axis.map fun y => .axis { y with identity := x.identity },
      x.datum.map fun y => .datum { y with identity := x.identity },
      x.ellipsoid.map fun y => .ellipsoid { y with identity := x.identity },
      x.primeMeridian.map fun y => .primeMeridian { y with identity := x.identity },
      x.parameter.map fun y => .parameter { y with identity := x.identity },
      x.operation.map fun y => .operation { y with identity := x.identity },
      x.method.map fun y => .method { y with identity := x.identity }].filterMap id := by
  have hmap : x.views = (Role.all.map x.view).filterMap id := by
    rw [views, List.filterMap_map]
    rfl
  exact hmap

theorem views_eq_nil_iff {x : Subject} : x.views = [] ↔ x.roles = [] := by
  rw [← map_role_views, List.map_eq_nil_iff]

theorem identity_of_mem_views {x : Subject} {n : Node} (h : n ∈ x.views) :
    n.identity = x.identity := by
  obtain ⟨r, _, hr⟩ := List.mem_filterMap.mp h
  exact identity_of_view hr

end Subject

/-! Two runs of dispatch are related as the validations that they are made of. -/
namespace Run.Congruence

variable {R : ∀ {γ : Type}, Run γ → Run γ → Prop} {c c' : Config} (hR : Congruence R)
  (h : ∀ t : Target, R (t.validate c) (t.validate c'))
include hR h

theorem validateIn (x : Subject) (rs : List Role) :
    R (x.validateIn c rs) (x.validateIn c' rs) := by
  induction rs with
  | nil => exact hR.pure []
  | cons r rs ih =>
    simp only [Subject.validateIn]
    cases x.view r with
    | none => exact ih
    | some n => exact hR.bind (h (.node n)) fun _ => hR.bind ih fun _ => hR.pure _

theorem dispatch (x : Option Subject) : R (dispatch c x) (dispatch c' x) := by
  cases x with
  | none => exact hR.pure _
  | some x =>
    refine hR.bind (hR.validateIn h x Role.all) fun played => ?_
    split
    · have hidentity := h (.identity x.identity)
      exact hR.bind (hR.tell rfl) fun _ => hR.bind hidentity fun _ => hR.pure _
    · exact hR.bind (hR.tell rfl) fun _ => hR.pure _

end Run.Congruence

variable {c : Config} {x : Subject}

theorem dispatch_of_no_role (h : x.roles = []) :
    dispatch c (some x) =
      ⟨.withoutRole x.identity.displayName :: ((Target.identity x.identity).validate c).log,
        ((Target.identity x.identity).validate c).result.map fun _ => .generic⟩ := by
  have hp : x.validateIn c Role.all = pure [] := by
    rw [Subject.validateIn_all, Subject.views_eq_nil_iff.mpr h, h]
    rfl
  simp only [dispatch, hp, pure_bind, List.isEmpty_nil, if_true]
  rw [Run.bind_of_ok (Run.tell_result _)]
  have hi : Check.runAll c x.identity.checks = (Target.identity x.identity).validate c := rfl
  rw [hi]
  cases hx : ((Target.identity x.identity).validate c).result with
  | ok u => simp [Run.bind_of_ok hx, Except.map]
  | error e => simp [Run.bind_of_error hx, Except.map]

theorem dispatch_of_succeeds (h : x.roles ≠ [])
    (hv : ∀ n ∈ x.views, (n.validate c).succeeds = true) :
    dispatch c (some x) =
      ⟨(x.views.flatMap fun n => (n.validate c).log) ++
        [.validatedAs x.identity.displayName x.roles], .ok (.specialized x.roles)⟩ := by
  have hp : x.validateIn c Role.all =
      ⟨x.views.flatMap fun n => (n.validate c).log, .ok x.roles⟩ := by
    rw [Subject.validateIn_all, Run.forM_of_succeeds hv, Run.bind_of_ok rfl]
    simp
  have hr : x.roles.isEmpty = false := by simpa using h
  simp only [dispatch, hp]
  rw [Run.bind_of_ok rfl]
  simp only [hr, Bool.false_eq_true, if_false]
  rw [Run.bind_of_ok (Run.tell_result _)]
  simp

theorem dispatch_of_error {before after : List Node} {n : Node} {e : ValidationError}
    (hx : x.views = before ++ n :: after) (hb : ∀ m ∈ before, (m.validate c).succeeds = true)
    (he : (n.validate c).result = .error e) :
    dispatch c (some x) = ⟨(before ++ [n]).flatMap fun m => (m.validate c).log, .error e⟩ := by
  have hp : x.validateIn c Role.all =
      ⟨(before ++ [n]).flatMap fun m => (m.validate c).log, .error e⟩ := by
    rw [Subject.validateIn_all, hx, Run.forM_of_error hb he, Run.bind_of_error rfl]
  simp only [dispatch, hp]
  exact Run.bind_of_error rfl _

/-- When dispatch accepts an object, and with which answer. -/
theorem dispatch_eq_ok_iff {d : Dispatch} :
    (dispatch c (some x)).result = .ok d ↔
      (x.roles = [] ∧ ((Target.identity x.identity).validate c).succeeds = true ∧ d = .generic) ∨
      (x.roles ≠ [] ∧ (∀ n ∈ x.views, (n.validate c).succeeds = true) ∧
        d = .specialized x.roles) := by
  by_cases hr : x.roles = []
  · have hanswer : ((Target.identity x.identity).validate c).result.map (fun _ => .generic) =
        Except.ok d ↔ ((Target.identity x.identity).validate c).succeeds = true ∧ d = .generic := by
      rw [Run.succeeds_iff]
      cases ((Target.identity x.identity).validate c).result with
      | ok u => simp [Except.map, eq_comm]
      | error e => simp [Except.map]
    simp only [dispatch_of_no_role hr, hanswer, hr, ne_eq, not_true_eq_false, true_and, false_and,
      or_false]
  · obtain hv | ⟨before, n, after, e, hx, hb, he⟩ :=
      Run.forall_succeeds_or_first_error (·.validate c) x.views
    · have hanswer : (.ok (.specialized x.roles) : Except ValidationError Dispatch) = .ok d ↔
          d = .specialized x.roles := by
        rw [Except.ok.injEq, eq_comm]
      rw [dispatch_of_succeeds hr hv]
      simpa only [hr, ne_eq, not_false_eq_true, true_and, false_and, false_or, hanswer] using
        ⟨fun h => ⟨hv, h⟩, fun h => h.2⟩
    · have hn : ¬(n.validate c).succeeds = true := Run.not_succeeds_iff.mpr ⟨e, he⟩
      have hnot : ¬∀ m ∈ x.views, (m.validate c).succeeds = true := fun h =>
        hn (h n (by simp [hx]))
      simp [dispatch_of_error hx hb he, hr, hnot]

theorem dispatch_of_identity_error {e : ValidationError}
    (h : ((Target.identity x.identity).validate c).result = .error e) :
    (dispatch c (some x)).result = .error e := by
  cases hv : x.views with
  | nil =>
    rw [dispatch_of_no_role (Subject.views_eq_nil_iff.mp hv), h]
    rfl
  | cons n ns =>
    have hn : n.identity = x.identity := Subject.identity_of_mem_views (by simp [hv])
    have he : (n.validate c).result = .error e :=
      Node.validate_of_identity_error (by rw [hn]; exact h)
    have hsplit : x.views = [] ++ n :: ns := hv
    rw [dispatch_of_error hsplit (by simp) he]

theorem level_of_mem_runAll_log {ks : List Check} {l : LogLine}
    (h : l ∈ (Check.runAll c ks).log) : l.level = "WARN" := by
  obtain ⟨v, rfl⟩ := Check.eq_warn_of_mem_runAll_log h
  rfl

/-- Dispatch is exact. The views of an object are the parts that it has, role after role, each with
the identity of the object. With no role played dispatch announces the checks of any object and
answers as they do. Otherwise the validators of the played roles run once each, in order: either all
of them succeed and the roles are announced last, or the first failure is answered unchanged and
nothing is announced. Validators only warn, and only dispatch announces. A failure of the checks of
any object is answered in either case. -/
theorem dispatch_runs_played_roles_in_order (c : Config) (x : Subject) :
    (x.views =
        [x.crs.map fun y => .crs { y with identity := x.identity },
          x.coordinateSystem.map fun y => .coordinateSystem { y with identity := x.identity },
          x.axis.map fun y => .axis { y with identity := x.identity },
          x.datum.map fun y => .datum { y with identity := x.identity },
          x.ellipsoid.map fun y => .ellipsoid { y with identity := x.identity },
          x.primeMeridian.map fun y => .primeMeridian { y with identity := x.identity },
          x.parameter.map fun y => .parameter { y with identity := x.identity },
          x.operation.map fun y => .operation { y with identity := x.identity },
          x.method.map fun y => .method { y with identity := x.identity }].filterMap id ∧
      x.views.map (·.role) = Role.all.filter x.plays ∧ ∀ n ∈ x.views, n.identity = x.identity) ∧
    (Role.all.filter x.plays = [] →
      dispatch c (some x) =
        ⟨.withoutRole x.identity.displayName :: ((Target.identity x.identity).validate c).log,
          ((Target.identity x.identity).validate c).result.map fun _ => .generic⟩) ∧
    (Role.all.filter x.plays ≠ [] →
      ((∀ n ∈ x.views, (n.validate c).succeeds = true) ∧
        dispatch c (some x) =
          ⟨(x.views.flatMap fun n => (n.validate c).log) ++
            [.validatedAs x.identity.displayName (Role.all.filter x.plays)],
            .ok (.specialized (Role.all.filter x.plays))⟩) ∨
      ∃ before n after e, x.views = before ++ n :: after ∧
        (∀ m ∈ before, (m.validate c).succeeds = true) ∧ (n.validate c).result = .error e ∧
        dispatch c (some x) =
          ⟨(before ++ [n]).flatMap fun m => (m.validate c).log, .error e⟩) ∧
    ((∀ n ∈ x.views, ∀ l ∈ (n.validate c).log, l.level = "WARN") ∧
      (∀ l ∈ ((Target.identity x.identity).validate c).log, l.level = "WARN") ∧
      ∀ name roles, (LogLine.withoutRole name).level = "DEBUG" ∧
        (LogLine.validatedAs name roles).level = "DEBUG") ∧
    ∀ e, ((Target.identity x.identity).validate c).result = .error e →
      (dispatch c (some x)).result = .error e := by
  refine ⟨⟨x.views_eq, x.map_role_views, fun n => Subject.identity_of_mem_views⟩,
    dispatch_of_no_role, ?_, ⟨fun n _ l => level_of_mem_runAll_log,
    fun l => level_of_mem_runAll_log, fun _ _ => ⟨rfl, rfl⟩⟩, fun e => dispatch_of_identity_error⟩
  intro h
  obtain hv | ⟨before, n, after, e, hx, hb, he⟩ :=
    Run.forall_succeeds_or_first_error (·.validate c) x.views
  · exact .inl ⟨hv, dispatch_of_succeeds h hv⟩
  · exact .inr ⟨before, n, after, e, hx, hb, he, dispatch_of_error hx hb he⟩

end GeoConformance
