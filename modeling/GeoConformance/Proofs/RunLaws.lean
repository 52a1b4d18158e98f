import GeoConformance.Validation

/-! Laws of runs. A sequence of runs ends at the first one that fails, with the logs of all that
came before it; runs of checks write nothing but warnings. -/
namespace GeoConformance
namespace Run

variable {α β : Type}

theorem succeeds_iff {r : Run Unit} : r.succeeds = true ↔ r.result = .ok () := by
  cases h : r.result with
  | ok u => simp [succeeds, h, Except.toBool]
  | error e => simp [succeeds, h, Except.toBool]

theorem not_succeeds_iff {r : Run α} : ¬r.succeeds = true ↔ ∃ e, r.result = .error e := by
  cases h : r.result with
  | ok a => simp [succeeds, h, Except.toBool]
  | error e => simp [succeeds, h, Except.toBool]

@[simp] theorem tell_log (line : LogLine) : (tell line).log = [line] := rfl
@[simp] theorem tell_result (line : LogLine) : (tell line).result = .ok () := rfl
@[simp] theorem warn_result (v : Violation) : (warn v).result = .ok () := rfl
@[simp] theorem fail_result (e : ValidationError) : (fail e : Run α).result = .error e := rfl

theorem forM_of_succeeds {f : α → Run Unit} {as : List α} (h : ∀ a ∈ as, (f a).succeeds = true) :
    forM as f = ⟨as.flatMap fun a => (f a).log, .ok ()⟩ := by
  induction as with
  | nil => rfl
  | cons a as ih =>
    have ha : (f a).result = .ok () := succeeds_iff.mp (h a (by simp))
    have has := ih fun b hb => h b (by simp [hb])
    rw [List.forM_cons, bind_of_ok ha, has]
    simp

theorem forM_of_error {f : α → Run Unit} {before after : List α} {a : α} {e : ValidationError}
    (hb : ∀ b ∈ before, (f b).succeeds = true) (ha : (f a).result = .error e) :
    forM (before ++ a :: after) f = ⟨(before ++ [a]).flatMap fun b => (f b).log, .error e⟩ := by
  rw [List.forM_append, forM_of_succeeds hb, bind_of_ok rfl, List.forM_cons, bind_of_error ha]
  simp

/-- Either all steps succeed, or there is a first one that does not. -/
theorem forall_succeeds_or_first_error (f : α → Run Unit) (as : List α) :
    (∀ a ∈ as, (f a).succeeds = true) ∨ ∃ before a after e, as = before ++ a :: after ∧
      (∀ b ∈ before, (f b).succeeds = true) ∧ (f a).result = .error e := by
  induction as with
  | nil => simp
  | cons a as ih =>
    by_cases ha : (f a).succeeds = true
    · obtain has | ⟨before, b, after, e, rfl, hb, he⟩ := ih
      · exact .inl (by simpa [ha] using has)
      · refine .inr ⟨a :: before, b, after, e, rfl, ?_, he⟩
        simpa [ha] using hb
    · obtain ⟨e, he⟩ := not_succeeds_iff.mp ha
      exact .inr ⟨[], a, as, e, rfl, by simp, he⟩

theorem forM_succeeds_iff {f : α → Run Unit} {as : List α} :
    (forM as f).succeeds = true ↔ ∀ a ∈ as, (f a).succeeds = true := by
  constructor
  · intro h
    obtain hs | ⟨before, a, after, e, rfl, hb, ha⟩ := forall_succeeds_or_first_error f as
    · exact hs
    · rw [succeeds_iff, forM_of_error hb ha] at h
      cases h
  · intro h
    rw [forM_of_succeeds h]
    rfl

/-- A relation of two runs that holds of the whole when it holds of the parts, and of a part that
is the same in both and warns of nothing. -/
structure Congruence (R : ∀ {γ : Type}, Run γ → Run γ → Prop) : Prop where
  pure {γ : Type} (a : γ) : R (Pure.pure a : Run γ) (Pure.pure a)
  tell {line : LogLine} : line.violation? = none → R (tell line) (tell line)
  bind {γ δ : Type} {r r' : Run γ} {f f' : γ → Run δ} :
    R r r' → (∀ a, R (f a) (f' a)) → R (r >>= f) (r' >>= f')

theorem Congruence.forM {R : ∀ {γ : Type}, Run γ → Run γ → Prop} (hR : Congruence R)
    {f f' : α → Run Unit} {as : List α} (h : ∀ a ∈ as, R (f a) (f' a)) :
    R (forM as f) (forM as f') := by
  induction as with
  | nil => exact hR.pure ()
  | cons a as ih =>
    have ha : R (f a) (f' a) := h a (by simp)
    have has := ih fun b hb => h b (by simp [hb])
    rw [List.forM_cons, List.forM_cons]
    exact hR.bind ha fun _ => has

theorem congruence_eq : Congruence fun r r' => r = r' where
  pure _ := rfl
  tell _ := rfl
  bind h hf := by rw [h, funext hf]

theorem result_forM_append_of_succeeds {f : α → Run Unit} {as bs : List α}
    (h : ∀ b ∈ bs, (f b).succeeds = true) : (forM (as ++ bs) f).result = (forM as f).result := by
  rw [List.forM_append]
  cases has : (forM as f).result with
  | ok u => rw [bind_of_ok has, forM_of_succeeds h]
  | error e => rw [bind_of_error has]

theorem exists_of_forM_error {f : α → Run Unit} {as : List α} {e : ValidationError}
    (h : (forM as f).result = .error e) : ∃ a ∈ as, (f a).result = .error e := by
  obtain hs | ⟨before, a, after, d, rfl, hb, ha⟩ := forall_succeeds_or_first_error f as
  · rw [forM_of_succeeds hs] at h
    cases h
  · rw [forM_of_error hb ha] at h
    cases h
    exact ⟨a, by simp, ha⟩

end Run

def valueVerdict : Option Violation → Except ValidationError Unit
  | none => .ok ()
  | some violation => .error (.invalidValue violation)

@[simp] theorem valueVerdict_eq_ok_iff {v : Option Violation} :
    valueVerdict v = .ok () ↔ v = none := by
  cases v <;> simp [valueVerdict]

namespace Check

/-- A check logs nothing, or a single warning. -/
theorem log_run (c : Config) (k : Check) :
    (k.run c).log = [] ∨ ∃ v, (k.run c).log = [.warn v] := by
  cases k with
  | mandatory absent v =>
    cases absent with
    | false => exact .inl rfl
    | true =>
      cases hc : c.requireMandatory with
      | true => exact .inl (by simp [run, hc, Run.fail])
      | false => exact .inr ⟨v, by simp [run, hc, Run.warn]⟩
  | forbidden absent v =>
    cases absent with
    | true => exact .inl rfl
    | false =>
      cases hc : c.enforceForbidden with
      | true => exact .inl (by simp [run, hc, Run.fail])
      | false => exact .inr ⟨v, by simp [run, hc, Run.warn]⟩
  | ensure holds v => cases holds <;> exact .inl rfl
  | agree x y v =>
    simp only [run]
    split <;> exact .inl rfl
  | perpendicular directions => exact .inl rfl

theorem eq_warn_of_mem_log {c : Config} {k : Check} {l : LogLine} (h : l ∈ (k.run c).log) :
    ∃ v, l = .warn v := by
  obtain hn | ⟨v, hv⟩ := log_run c k
  · simp [hn] at h
  · exact ⟨v, by simpa [hv] using h⟩

theorem eq_warn_of_mem_runAll_log {c : Config} {ks : List Check} {l : LogLine}
    (h : l ∈ (runAll c ks).log) : ∃ v, l = .warn v := by
  induction ks with
  | nil => simp at h
  | cons k ks ih =>
    cases hr : (k.run c).result with
    | ok u =>
      rw [runAll_cons, Run.bind_of_ok hr] at h
      obtain h | h := List.mem_append.mp h
      · exact eq_warn_of_mem_log h
      · exact ih h
    | error e =>
      rw [runAll_cons, Run.bind_of_error hr] at h
      exact eq_warn_of_mem_log h

end Check

theorem Identity.obligations_succeed {own c : Config} {x : Identity}
    (h : ((Target.identity x).validate c).succeeds = true) :
    ∀ o ∈ x.obligations, (o.run own c).succeeds = true := by
  intro o ho
  obtain ⟨k, hk, rfl⟩ := List.mem_map.mp ho
  exact Check.runAll_succeeds.mp h k hk

/-- Obligations that are met leave the answer to those that come after them. -/
theorem Node.validate_result_of_met {c : Config} {n : Node} {met rest : List Obligation}
    (hn : n.obligations = met ++ rest) (h : ∀ o ∈ met, (o.run c c).succeeds = true) :
    (n.validate c).result = (forM rest (Obligation.run c c)).result := by
  rw [← validateWith_self, validateWith, hn, List.forM_append, Run.forM_of_succeeds h,
    Run.bind_of_ok rfl]

end GeoConformance
