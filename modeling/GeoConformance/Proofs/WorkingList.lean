import GeoConformance.Proofs.CircularDistance

/-! The check of perpendicularity as it is specified: on a list of directions to be worked through,
from which the first one is taken away together with its partner. Marking the paired entries of a
list that is only read comes to the same. -/
namespace GeoConformance
namespace Perpendicular

/-- Takes the first direction away, and the first other one of its category with it. -/
def workThrough : List AxisDirection → Except ValidationError Unit
  | [] => .ok ()
  | d :: ds =>
    match ds.find? (·.category = d.category) with
    | none => workThrough ds
    | some b =>
      if AxisDirection.RightAngled d b then
        workThrough (ds.eraseP (·.category = d.category))
      else .error (.inconsistentGeometry d b (AxisDirection.angleBetween d b))
termination_by ds => ds.length
decreasing_by
  · exact Nat.lt_succ_self _
  · exact Nat.lt_succ_of_le List.length_eraseP_le

def unpaired (es : List Entry) : List AxisDirection :=
  (es.filter fun e => !e.paired).map (·.direction)

def Catalogued (es : List Entry) : Prop :=
  ∀ e ∈ es, e.orientation = e.direction.catalogEntry

theorem catalogued_cons {e : Entry} {es : List Entry} :
    Catalogued (e :: es) ↔ e.orientation = e.direction.catalogEntry ∧ Catalogued es :=
  List.forall_mem_cons

@[simp] theorem unpaired_nil : unpaired [] = [] := rfl

theorem unpaired_cons_of_paired {e : Entry} {es : List Entry} (h : e.paired = true) :
    unpaired (e :: es) = unpaired es := by
  simp [unpaired, h]

theorem unpaired_cons_of_not_paired {e : Entry} {es : List Entry} (h : e.paired = false) :
    unpaired (e :: es) = e.direction :: unpaired es := by
  simp [unpaired, h]

/-- The entries that a direction passes over in the search for its partner. -/
def PassedOver (d : AxisDirection) (e : Entry) : Prop :=
  e.paired = true ∨ e.direction.category ≠ d.category

theorem not_passedOver_iff {d : AxisDirection} {e : Entry} :
    ¬PassedOver d e ↔ e.paired = false ∧ e.direction.category = d.category := by
  simp [PassedOver]

section

variable {d : AxisDirection} {e : Entry} {es : List Entry}

theorem pair?_cons_of_passedOver (he : e.orientation = e.direction.catalogEntry)
    (h : PassedOver d e) :
    pair? d.catalogEntry (e :: es) =
      (pair? d.catalogEntry es).map fun p => { p with entries := e :: p.entries } := by
  obtain hp | hne := h
  · simp [pair?, hp]
  · have hs : d.catalogEntry.separation e.orientation = none := by
      rw [he]
      exact Orientation.separation_eq_none_iff.mpr fun heq => hne heq.symm
    simp [pair?, hs]

theorem pair?_cons_of_not_passedOver (he : e.orientation = e.direction.catalogEntry)
    (h : ¬PassedOver d e) (es : List Entry) :
    ∃ s, d.catalogEntry.separation e.direction.catalogEntry = some s ∧
      pair? d.catalogEntry (e :: es) = some ⟨e.direction, s, { e with paired := true } :: es⟩ := by
  obtain ⟨hp, hc⟩ := not_passedOver_iff.mp h
  cases hs : d.catalogEntry.separation e.direction.catalogEntry with
  | none => exact absurd hc.symm (Orientation.separation_eq_none_iff.mp hs)
  | some s => exact ⟨s, rfl, by simp [pair?, hp, he, hs]⟩

theorem find?_unpaired_cons_of_passedOver (h : PassedOver d e) :
    (unpaired (e :: es)).find? (·.category = d.category) =
      (unpaired es).find? (·.category = d.category) := by
  by_cases hp : e.paired = true
  · rw [unpaired_cons_of_paired hp]
  · have hne : e.direction.category ≠ d.category := h.resolve_left hp
    rw [Bool.not_eq_true] at hp
    rw [unpaired_cons_of_not_paired hp, List.find?_cons_of_neg (by simpa using hne)]

theorem eraseP_unpaired_cons_of_passedOver (h : PassedOver d e) {fs : List Entry}
    (hfs : unpaired fs = (unpaired es).eraseP (·.category = d.category)) :
    unpaired (e :: fs) = (unpaired (e :: es)).eraseP (·.category = d.category) := by
  by_cases hp : e.paired = true
  · rw [unpaired_cons_of_paired hp, unpaired_cons_of_paired hp, hfs]
  · have hne : e.direction.category ≠ d.category := h.resolve_left hp
    rw [Bool.not_eq_true] at hp
    rw [unpaired_cons_of_not_paired hp, unpaired_cons_of_not_paired hp, hfs,
      List.eraseP_cons_of_neg (by simpa using hne)]

end

theorem find?_of_pair?_eq_none {d : AxisDirection} {es : List Entry} (hc : Catalogued es)
    (h : pair? d.catalogEntry es = none) :
    (unpaired es).find? (·.category = d.category) = none := by
  induction es with
  | nil => rfl
  | cons e es ih =>
    obtain ⟨he, hes⟩ := catalogued_cons.mp hc
    by_cases hd : PassedOver d e
    · rw [pair?_cons_of_passedOver he hd, Option.map_eq_none_iff] at h
      rw [find?_unpaired_cons_of_passedOver hd]
      exact ih hes h
    · obtain ⟨s, -, hs⟩ := pair?_cons_of_not_passedOver he hd es
      rw [hs] at h
      cases h

/-- An entry is paired with the first unpaired direction of its category, which is unpaired no
longer; nothing else changes. -/
theorem find?_of_pair?_eq_some {d : AxisDirection} {es : List Entry} {p : Pairing}
    (hc : Catalogued es) (h : pair? d.catalogEntry es = some p) :
    (unpaired es).find? (·.category = d.category) = some p.partner ∧
      unpaired p.entries = (unpaired es).eraseP (·.category = d.category) ∧
      d.catalogEntry.separation p.partner.catalogEntry = some p.separation ∧
      Catalogued p.entries := by
  induction es generalizing p with
  | nil => simp [pair?] at h
  | cons e es ih =>
    obtain ⟨he, hes⟩ := catalogued_cons.mp hc
    by_cases hd : PassedOver d e
    · rw [pair?_cons_of_passedOver he hd, Option.map_eq_some_iff] at h
      obtain ⟨q, hq, rfl⟩ := h
      obtain ⟨hfind, herase, hsep, hcat⟩ := ih hes hq
      rw [find?_unpaired_cons_of_passedOver hd]
      exact ⟨hfind, eraseP_unpaired_cons_of_passedOver hd herase, hsep,
        catalogued_cons.mpr ⟨he, hcat⟩⟩
    · obtain ⟨hp, heq⟩ := not_passedOver_iff.mp hd
      obtain ⟨s, hsep, hs⟩ := pair?_cons_of_not_passedOver he hd es
      obtain rfl : (⟨e.direction, s, { e with paired := true } :: es⟩ : Pairing) = p := by
        simpa [hs] using h
      rw [unpaired_cons_of_not_paired hp, List.find?_cons_of_pos (by simpa using heq),
        List.eraseP_cons_of_pos (by simpa using heq)]
      exact ⟨rfl, unpaired_cons_of_paired rfl, hsep, catalogued_cons.mpr ⟨he, hes⟩⟩

/-- Scanning marked entries is working through the directions that are left. -/
theorem scan_eq_workThrough (es : List Entry) (hc : Catalogued es) :
    scan es = workThrough (unpaired es) := by
  fun_induction scan es with
  | case1 => rw [unpaired_nil, workThrough]
  | case2 e es hp ih =>
    rw [unpaired_cons_of_paired hp]
    exact ih (catalogued_cons.mp hc).2
  | case3 e es hp hn ih =>
    rw [Bool.not_eq_true] at hp
    obtain ⟨he, hes⟩ := catalogued_cons.mp hc
    rw [he] at hn
    rw [unpaired_cons_of_not_paired hp, workThrough, find?_of_pair?_eq_none hes hn]
    exact ih hes
  | case4 e es hp p hs hm hlen ih =>
    rw [Bool.not_eq_true] at hp
    obtain ⟨he, hes⟩ := catalogued_cons.mp hc
    rw [he] at hs
    obtain ⟨hfind, herase, hsep, hcat⟩ := find?_of_pair?_eq_some hes hs
    rw [unpaired_cons_of_not_paired hp, workThrough, hfind]
    simp only [(AxisDirection.separation_mod_rightAngle hsep).mp hm, if_true, ← herase]
    exact ih hcat
  | case5 e es hp p hs hm =>
    rw [Bool.not_eq_true] at hp
    obtain ⟨he, hes⟩ := catalogued_cons.mp hc
    rw [he] at hs
    obtain ⟨hfind, herase, hsep, hcat⟩ := find?_of_pair?_eq_some hes hs
    have hm' : ¬AxisDirection.RightAngled e.direction p.partner := fun h =>
      hm ((AxisDirection.separation_mod_rightAngle hsep).mpr h)
    rw [unpaired_cons_of_not_paired hp, workThrough, hfind]
    simp only [hm', if_false, AxisDirection.separation_toFloat hsep]

theorem mapM_ofDirection (ds : List AxisDirection) :
    ds.mapM Entry.ofDirection = .ok (ds.map fun d => ⟨d, d.catalogEntry, false⟩) := by
  induction ds with
  | nil => rfl
  | cons d ds ih =>
    have hd : Entry.ofDirection d = .ok ⟨d, d.catalogEntry, false⟩ := by
      rw [Entry.ofDirection, AxisDirection.orientation_eq]
      rfl
    rw [List.mapM_cons, hd, ih]
    rfl

end Perpendicular

open Perpendicular in
theorem checkPerpendicular_eq_workThrough (ds : List AxisDirection) :
    checkPerpendicular ds = workThrough ds := by
  have hunpaired : unpaired (ds.map fun d => ⟨d, d.catalogEntry, false⟩) = ds := by
    induction ds with
    | nil => rfl
    | cons d ds ih => rw [List.map_cons, unpaired_cons_of_not_paired rfl, ih]
  have hcat : Catalogued (ds.map fun d => ⟨d, d.catalogEntry, false⟩) := by
    intro e he
    obtain ⟨d, _, rfl⟩ := List.mem_map.mp he
    rfl
  rw [checkPerpendicular, mapM_ofDirection]
  exact (scan_eq_workThrough _ hcat).trans (congrArg workThrough hunpaired)

end GeoConformance
