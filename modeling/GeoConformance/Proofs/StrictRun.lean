import GeoConformance.Proofs.RoleDispatch

/-! The strict run of any validation, compared with a run at the same tolerance that lets some
broken rules of presence pass: it is the same run when nothing was let pass, and otherwise that run
cut before its first warning, which becomes the failure. -/
namespace GeoConformance
namespace Run

variable {α β : Type}

def logBeforeWarning (r : Run α) : List LogLine :=
  r.log.takeWhile fun l => l.violation?.isNone

/-- The first run is the second, cut before its first warning if there is one. -/
structure CutsAtWarning (s r : Run α) : Prop where
  same : r.warnings = [] → s = r
  cut : ∀ v, r.warnings.head? = some v → s.log = r.logBeforeWarning ∧
    (s.result = .error (.missingRequiredField v) ∨ s.result = .error (.unexpectedField v))

theorem warnings_bind_of_ok {r : Run α} {a : α} (h : r.result = .ok a) (f : α → Run β) :
    (r >>= f).warnings = r.warnings ++ (f a).warnings := by
  simp [bind_of_ok h, warnings]

theorem logBeforeWarning_bind_of_ok {r : Run α} {a : α} (h : r.result = .ok a)
    (hw : r.warnings = []) (f : α → Run β) :
    (r >>= f).logBeforeWarning = r.log ++ (f a).logBeforeWarning := by
  have hn : ∀ l ∈ r.log, l.violation?.isNone = true := by
    intro l hl
    simpa using List.filterMap_eq_nil_iff.mp hw l hl
  simp only [bind_of_ok h, logBeforeWarning]
  exact List.takeWhile_append_of_pos hn

theorem logBeforeWarning_bind_of_warning {r : Run α} {v : Violation}
    (hw : r.warnings.head? = some v) (f : α → Run β) :
    (r >>= f).warnings.head? = some v ∧ (r >>= f).logBeforeWarning = r.logBeforeWarning := by
  cases h : r.result with
  | error e => simpa [bind_of_error h, warnings, logBeforeWarning] using hw
  | ok a =>
    refine ⟨by simp [warnings_bind_of_ok h, hw], ?_⟩
    obtain ⟨l, hl, hv⟩ : ∃ l ∈ r.log, l.violation? = some v :=
      List.mem_filterMap.mp (List.mem_of_head? hw)
    have hne : ¬(r.log.takeWhile fun l => l.violation?.isNone).length = r.log.length := by
      intro hlen
      have hall := List.all_takeWhile (p := fun l => l.violation?.isNone) (l := r.log)
      rw [(List.takeWhile_prefix _).eq_of_length hlen, List.all_eq_true] at hall
      simpa [hv] using hall l hl
    simp only [bind_of_ok h, logBeforeWarning, List.takeWhile_append, hne, if_false]

namespace CutsAtWarning

theorem refl_of_warnings_eq_nil {r : Run α} (h : r.warnings = []) : r.CutsAtWarning r where
  same _ := rfl
  cut v hv := by simp [h] at hv

theorem fail_of_warn {e : ValidationError} {v : Violation}
    (he : e = .missingRequiredField v ∨ e = .unexpectedField v) :
    (fail e : Run Unit).CutsAtWarning (warn v) where
  same h := by simp [warnings, warn, LogLine.violation?] at h
  cut u hu := by
    obtain rfl : v = u := by simpa [warnings, warn, LogLine.violation?] using hu
    refine ⟨rfl, ?_⟩
    obtain rfl | rfl := he
    · exact .inl rfl
    · exact .inr rfl

theorem bind_of_no_warning {r : Run α} {g f : α → Run β} (hw : r.warnings = [])
    (hf : ∀ a, (g a).CutsAtWarning (f a)) : (r >>= g).CutsAtWarning (r >>= f) := by
  cases hr : r.result with
  | error e =>
    rw [bind_of_error hr, bind_of_error hr]
    exact refl_of_warnings_eq_nil hw
  | ok a =>
    have hwf := warnings_bind_of_ok hr f
    rw [hw, List.nil_append] at hwf
    constructor
    · intro hn
      rw [bind_of_ok hr, bind_of_ok hr, (hf a).same (hwf ▸ hn)]
    · intro v hv
      obtain ⟨hl, he⟩ := (hf a).cut v (hwf ▸ hv)
      rw [logBeforeWarning_bind_of_ok hr hw, ← hl, bind_of_ok hr]
      exact ⟨rfl, he⟩

theorem bind_of_warning {s r : Run α} {g f : α → Run β} {v : Violation} (h : s.CutsAtWarning r)
    (hw : r.warnings.head? = some v) : (s >>= g).CutsAtWarning (r >>= f) := by
  obtain ⟨hv, hb⟩ := logBeforeWarning_bind_of_warning hw f
  obtain ⟨hl, he⟩ := h.cut v hw
  constructor
  · intro hn
    simp [hn] at hv
  · intro u hu
    obtain rfl : v = u := by simpa [hv] using hu
    obtain he | he := he
    · rw [bind_of_error he]
      exact ⟨hl.trans hb.symm, .inl rfl⟩
    · rw [bind_of_error he]
      exact ⟨hl.trans hb.symm, .inr rfl⟩

theorem bind {s r : Run α} {g f : α → Run β} (h : s.CutsAtWarning r)
    (hf : ∀ a, (g a).CutsAtWarning (f a)) : (s >>= g).CutsAtWarning (r >>= f) := by
  cases hw : r.warnings with
  | nil =>
    rw [h.same hw]
    exact bind_of_no_warning hw hf
  | cons v vs => exact h.bind_of_warning (v := v) (by simp [hw])

theorem congruence : Congruence @CutsAtWarning where
  pure _ := refl_of_warnings_eq_nil rfl
  tell hline := refl_of_warnings_eq_nil (by simp [warnings, hline])
  bind := bind

end CutsAtWarning
end Run

namespace Check

/-- The one place where a run depends on how strict it is: a single check. -/
theorem strict_run_cutsAtWarning (c : Config) (k : Check) :
    (k.run c.strict).CutsAtWarning (k.run c) := by
  cases k with
  | mandatory absent v =>
    cases absent with
    | false => exact .refl_of_warnings_eq_nil rfl
    | true =>
      cases hc : c.requireMandatory with
      | true => simpa [run, hc, Config.strict] using .refl_of_warnings_eq_nil rfl
      | false => simpa [run, hc, Config.strict] using .fail_of_warn (.inl rfl)
  | forbidden absent v =>
    cases absent with
    | true => exact .refl_of_warnings_eq_nil rfl
    | false =>
      cases hc : c.enforceForbidden with
      | true => simpa [run, hc, Config.strict] using .refl_of_warnings_eq_nil rfl
      | false => simpa [run, hc, Config.strict] using .fail_of_warn (.inr rfl)
  | ensure holds v => cases holds <;> exact .refl_of_warnings_eq_nil rfl
  | agree x y v =>
    have ht : c.strict.ellipsoidTolerance = c.ellipsoidTolerance := rfl
    simp only [run, ht]
    split <;> exact .refl_of_warnings_eq_nil rfl
  | perpendicular directions => exact .refl_of_warnings_eq_nil rfl

theorem strict_runAll_cutsAtWarning (c : Config) (ks : List Check) :
    (runAll c.strict ks).CutsAtWarning (runAll c ks) :=
  Run.CutsAtWarning.congruence.forM fun k _ => strict_run_cutsAtWarning c k

end Check

theorem strict_dispatch_cutsAtWarning (c : Config) (x : Option Subject) :
    (dispatch c.strict x).CutsAtWarning (dispatch c x) :=
  Run.CutsAtWarning.congruence.dispatch
    (fun t => Check.strict_runAll_cutsAtWarning c t.checks) x

/-- Strictness only decides where a run stops. Without a warning the strict run is the same run;
otherwise it fails with the violation of the first warning, after the part of the log before it. -/
theorem strict_run_cuts_at_first_warning (c : Config) :
    (∀ t : Target, (t.validate c.strict).CutsAtWarning (t.validate c)) ∧
      ∀ x : Option Subject, (dispatch c.strict x).CutsAtWarning (dispatch c x) :=
  ⟨fun t => Check.strict_runAll_cutsAtWarning c t.checks, strict_dispatch_cutsAtWarning c⟩

end GeoConformance
