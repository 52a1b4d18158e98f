import GeoConformance.Proofs.DoubleProducts
import GeoConformance.Proofs.FailureCauses

/-! The tolerance for ellipsoids. It decides whether an ellipsoid passes for consistent and nothing
else: a run that does not fail for an inconsistent ellipsoid is the same run at any larger
tolerance, with the same log and the same answer, errors included. -/
namespace GeoConformance

def ValidationError.IsInconsistency : ValidationError → Prop
  | invalidValue violation => violation.IsInconsistency
  | _ => False

namespace Run

variable {α β : Type}

def FindsInconsistency (r : Run α) : Prop :=
  ∃ e, r.result = .error e ∧ e.IsInconsistency

/-- The second run is the first, unless that one ends at an inconsistency, up to which they go
together. -/
def LoosensTo (r r' : Run α) : Prop :=
  r' = r ∨ (r.FindsInconsistency ∧ r.log <+: r'.log)

namespace LoosensTo

theorem refl (r : Run α) : r.LoosensTo r :=
  .inl rfl

theorem log_prefix_bind (r : Run α) (f : α → Run β) : r.log <+: (r >>= f).log := by
  cases h : r.result with
  | ok a =>
    rw [bind_of_ok h]
    exact List.prefix_append _ _
  | error e => exact ⟨[], by rw [bind_of_error h, List.append_nil]⟩

theorem bind {r r' : Run α} {f f' : α → Run β} (h : r.LoosensTo r')
    (hf : ∀ a, (f a).LoosensTo (f' a)) : (r >>= f).LoosensTo (r' >>= f') := by
  obtain rfl | ⟨⟨e, he, hinconsistent⟩, hlog⟩ := h
  · cases hr : r'.result with
    | error e =>
      rw [bind_of_error hr, bind_of_error hr]
      exact .refl _
    | ok a =>
      rw [bind_of_ok hr, bind_of_ok hr]
      obtain hsame | ⟨⟨e, he, hinconsistent⟩, hlog⟩ := hf a
      · rw [hsame]
        exact .refl _
      · exact .inr ⟨⟨e, he, hinconsistent⟩, (List.prefix_append_right_inj _).mpr hlog⟩
  · rw [bind_of_error he]
    exact .inr ⟨⟨e, rfl, hinconsistent⟩, hlog.trans (log_prefix_bind r' f')⟩

theorem congruence : Congruence @LoosensTo where
  pure _ := refl _
  tell _ := refl _
  bind := bind

theorem eq_of_succeeds {r r' : Run α} (h : r.LoosensTo r') (hs : r.succeeds = true) : r' = r := by
  obtain hsame | ⟨⟨e, he, -⟩, -⟩ := h
  · exact hsame
  · simp [succeeds, he, Except.toBool] at hs

theorem eq_of_not_findsInconsistency {r r' : Run α} (h : r.LoosensTo r')
    (hr : ¬r.FindsInconsistency) : r' = r := by
  obtain hsame | ⟨hinconsistent, -⟩ := h
  · exact hsame
  · exact absurd hinconsistent hr

theorem log_prefix {r r' : Run α} (h : r.LoosensTo r') : r.log <+: r'.log := by
  obtain rfl | ⟨-, hlog⟩ := h
  · exact List.prefix_rfl
  · exact hlog

end LoosensTo
end Run

/-- The second configuration is as strict as the first, but tolerates more of an ellipsoid. -/
structure Config.LoosensTo (c c' : Config) : Prop where
  requireMandatory : c'.requireMandatory = c.requireMandatory
  enforceForbidden : c'.enforceForbidden = c.enforceForbidden
  ellipsoidTolerance : c.ellipsoidTolerance ≤ c'.ellipsoidTolerance

theorem Target.isInconsistency_of_agree_mem {t : Target} {x y : Float} {violation : Violation}
    (h : .agree x y violation ∈ t.checks) : violation.IsInconsistency := by
  cases t with
  | node n =>
    obtain ⟨m, -, hfits⟩ := Node.exists_fits_of_mem_checks h
    exact hfits
  | identity z => exact (z.plain_of_mem_checks _ h).elim
  | domain z => exact (z.plain_of_mem_checks _ h).elim
  | identifier z => exact (z.plain_of_mem_checks _ h).elim
  | extent z => exact (z.plain_of_mem_checks _ h).elim

section Loosening

variable {c c' : Config} (h : c.LoosensTo c')
include h

/-- The one place where two runs can part: a comparison that only the larger tolerance lets pass. -/
theorem Check.run_loosensTo {k : Check}
    (hk : ∀ x y violation, k = agree x y violation → violation.IsInconsistency) :
    (k.run c).LoosensTo (k.run c') := by
  cases k with
  | mandatory absent violation =>
    simp only [run, h.requireMandatory]
    exact .refl _
  | forbidden absent violation =>
    simp only [run, h.enforceForbidden]
    exact .refl _
  | ensure holds violation => exact .refl _
  | agree x y violation =>
    cases htight : agreeWithin c.ellipsoidTolerance x y with
    | true =>
      have hloose := Double.agreeWithin_mono h.ellipsoidTolerance htight
      simp only [run, htight, hloose]
      exact .refl _
    | false =>
      simp only [run, htight]
      exact .inr ⟨⟨.invalidValue violation, rfl, hk x y violation rfl⟩, List.nil_prefix⟩
  | perpendicular directions => exact .refl _

theorem Target.validate_loosensTo (t : Target) : (t.validate c).LoosensTo (t.validate c') := by
  apply Run.LoosensTo.congruence.forM
  intro k hk
  apply Check.run_loosensTo h
  rintro x y violation rfl
  exact isInconsistency_of_agree_mem hk

end Loosening

/-- The tolerance interferes with nothing but the consistency of ellipsoids. At a larger one, and
with the same strictness, what was accepted is accepted with the same log and the same answer, and a
run that did not end at an inconsistent ellipsoid is the same run, whatever it ended with. One that
did goes on as before up to there. -/
theorem larger_tolerance_keeps_runs {c c' : Config} (h : c.LoosensTo c') :
    (∀ t : Target,
      ((t.validate c).succeeds = true → t.validate c' = t.validate c) ∧
      (¬(t.validate c).FindsInconsistency → t.validate c' = t.validate c) ∧
      (t.validate c).log <+: (t.validate c').log) ∧
    ∀ x : Option Subject,
      ((dispatch c x).succeeds = true → dispatch c' x = dispatch c x) ∧
      (¬(dispatch c x).FindsInconsistency → dispatch c' x = dispatch c x) ∧
      (dispatch c x).log <+: (dispatch c' x).log := by
  constructor
  · intro t
    have ht := Target.validate_loosensTo h t
    exact ⟨ht.eq_of_succeeds, ht.eq_of_not_findsInconsistency, ht.log_prefix⟩
  · intro x
    have hx := Run.LoosensTo.congruence.dispatch (Target.validate_loosensTo h) x
    exact ⟨hx.eq_of_succeeds, hx.eq_of_not_findsInconsistency, hx.log_prefix⟩

section Earth

def earth (inverseFlattening : Float) : Ellipsoid where
  identity := { name := some (.ofCode "Earth") }
  semiMajor := 6378137
  semiMinor := 6356752.314245179
  inverseFlattening := inverseFlattening
  unit := some "metre"

def Config.coarse : Config :=
  { ellipsoidTolerance := 1e-3 }

/-- Given to nine places, the inverse flattening passes at either tolerance; given to one place,
only at the larger one. -/
theorem larger_tolerance_keeps_run_of_earth :
    Config.LoosensTo {} .coarse ∧
      ((Target.node (.ellipsoid (earth 298.257223563))).validate {}).succeeds = true ∧
      (Target.node (.ellipsoid (earth 298.257223563))).validate .coarse =
        (Target.node (.ellipsoid (earth 298.257223563))).validate {} ∧
      ((Target.node (.ellipsoid (earth 298.3))).validate {}).FindsInconsistency ∧
      ((Target.node (.ellipsoid (earth 298.3))).validate .coarse).succeeds = true := by
  have hloosens : Config.LoosensTo {} .coarse := ⟨rfl, rfl, by decide +kernel⟩
  have hprecise :
      ((Target.node (.ellipsoid (earth 298.257223563))).validate {}).succeeds = true := by
    decide +kernel
  have hrough : ((Target.node (.ellipsoid (earth 298.3))).validate .coarse).succeeds = true := by
    decide +kernel
  have hfails : ¬((Target.node (.ellipsoid (earth 298.3))).validate {}).succeeds = true := by
    decide +kernel
  refine ⟨hloosens, hprecise, ((larger_tolerance_keeps_runs hloosens).1 _).1 hprecise, ?_, hrough⟩
  -- Were the two runs the same, the rough shape would pass at the smaller tolerance too.
  obtain hsame | ⟨hinconsistent, -⟩ :=
    Target.validate_loosensTo hloosens (.node (.ellipsoid (earth 298.3)))
  · exact absurd (hsame ▸ hrough) hfails
  · exact hinconsistent

end Earth
end GeoConformance
