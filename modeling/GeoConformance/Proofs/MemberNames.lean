import Mathlib.Data.List.Nodup
import GeoConformance.Proofs.RunLaws

/-! The names of the members of a group of parameters. When all else about a group is in order, it
is accepted exactly when its members have different names in lower case, and otherwise refused for
the first member that has the name of one before it. No other name has a say. -/
namespace GeoConformance
namespace Parameter

/-- The first code that is, in lower case, among `seen` or the codes before it. -/
def repeatedCode? (seen : List String) : List String → Option String
  | [] => none
  | code :: codes =>
    if lowercaseText code ∈ seen then some code
    else repeatedCode? (lowercaseText code :: seen) codes

def repetitionVerdict (code : Option String) : Except ValidationError Unit :=
  valueVerdict (code.map .parameterRepeated)

variable {c : Config} {seen : List String}

theorem repetitionVerdict_eq_ok_iff {code : Option String} :
    repetitionVerdict code = .ok () ↔ code = none := by
  simp [repetitionVerdict]

theorem repeatedCode?_eq_none_iff {codes : List String} :
    repeatedCode? seen codes = none ↔
      (codes.map lowercaseText).Nodup ∧ ∀ key ∈ codes.map lowercaseText, key ∉ seen := by
  induction codes generalizing seen with
  | nil => simp [repeatedCode?]
  | cons code codes ih =>
    by_cases h : lowercaseText code ∈ seen
    · simp [repeatedCode?, h]
    · rw [repeatedCode?, if_neg h, ih, List.map_cons, List.nodup_cons]
      constructor
      · rintro ⟨hnodup, hrest⟩
        refine ⟨⟨fun hm => ?_, hnodup⟩, ?_⟩
        · exact hrest _ hm List.mem_cons_self
        · rintro key (_ | ⟨_, hkey⟩)
          · exact h
          · exact List.not_mem_of_not_mem_cons (hrest key hkey)
      · rintro ⟨⟨hfresh, hnodup⟩, hrest⟩
        refine ⟨hnodup, fun key hkey => ?_⟩
        have hne : key ≠ lowercaseText code := fun heq => hfresh (heq ▸ hkey)
        exact List.not_mem_cons_of_ne_of_not_mem hne (hrest key (List.mem_cons_of_mem _ hkey))

theorem exists_of_repeatedCode?_eq_some {codes : List String} {code : String}
    (h : repeatedCode? seen codes = some code) :
    ∃ before after, codes = before ++ code :: after ∧ repeatedCode? seen before = none ∧
      (lowercaseText code ∈ seen ∨ lowercaseText code ∈ before.map lowercaseText) := by
  induction codes generalizing seen with
  | nil => cases h
  | cons first codes ih =>
    by_cases hs : lowercaseText first ∈ seen
    · rw [repeatedCode?, if_pos hs] at h
      cases h
      exact ⟨[], codes, rfl, rfl, .inl hs⟩
    · rw [repeatedCode?, if_neg hs] at h
      obtain ⟨before, after, rfl, hnone, hmem⟩ := ih h
      refine ⟨first :: before, after, rfl, ?_, ?_⟩
      · rw [repeatedCode?, if_neg hs, hnone]
      · simpa [or_assoc, or_left_comm] using hmem

/-- One pass over members that are accepted on their own: `seen` holds the keys of those before,
and of the rest only the codes matter. -/
theorem result_memberObligations {ys : List Parameter}
    (h : ∀ y ∈ ys, ((Node.parameter y).validate c).succeeds = true) :
    (forM (memberObligations seen ys) (Obligation.run c c)).result =
      repetitionVerdict (repeatedCode? seen (ys.filterMap (·.identity.code))) := by
  induction ys generalizing seen with
  | nil => rfl
  | cons y ys ih =>
    have hy : (Obligation.run c c (.visit (.parameter y))).result = .ok () :=
      Run.succeeds_iff.mp (h y List.mem_cons_self)
    have hys : ∀ z ∈ ys, ((Node.parameter z).validate c).succeeds = true :=
      fun z hz => h z (List.mem_cons_of_mem y hz)
    rw [memberObligations, List.forM_cons, Run.bind_of_ok hy]
    cases hcode : y.identity.code with
    | none =>
      simp only [List.filterMap_cons, hcode]
      exact ih hys
    | some code =>
      simp only [List.filterMap_cons, hcode, List.forM_cons]
      by_cases hs : lowercaseText code ∈ seen
      · have herror : (Obligation.run c c (.own (.ensure (!seen.contains (lowercaseText code))
            (.parameterRepeated code)))).result =
              .error (.invalidValue (.parameterRepeated code)) := by
          simp [Obligation.run, Check.run, hs]
        rw [Run.bind_of_error herror, repeatedCode?, if_pos hs]
        rfl
      · have hok : (Obligation.run c c (.own (.ensure (!seen.contains (lowercaseText code))
            (.parameterRepeated code)))).result = .ok () := by
          simp [Obligation.run, Check.run, hs]
        rw [Run.bind_of_ok hok, repeatedCode?, if_neg hs]
        exact ih hys

/-- A group with these members that is in order but for their names: what any object has and the
occurrences of the group are accepted, and so is each member on its own. -/
structure HasAcceptedMembers (c : Config) (x : Parameter) (ys : List Parameter) : Prop where
  descriptors : x.descriptors = some ys
  identity : ((Target.identity x.identity).validate c).succeeds = true
  occurs : x.minimumOccurs ≤ x.maximumOccurs
  members : ∀ y ∈ ys, ((Node.parameter y).validate c).succeeds = true

theorem HasAcceptedMembers.result_eq {x : Parameter} {ys : List Parameter}
    (h : x.HasAcceptedMembers c ys) :
    ((Node.parameter x).validate c).result =
      repetitionVerdict (repeatedCode? [] (ys.filterMap (·.identity.code))) := by
  have hobligations : (Node.parameter x).obligations = (x.identity.obligations ++
      [.own (.ensure (x.minimumOccurs ≤ x.maximumOccurs)
        (.occurrencesCrossed x.minimumOccurs x.maximumOccurs))]) ++ memberObligations [] ys := by
    rw [Node.obligations, obligations, h.descriptors, Option.getD_some]
  have hmet : ∀ o ∈ x.identity.obligations ++
      [Obligation.own (.ensure (x.minimumOccurs ≤ x.maximumOccurs)
        (.occurrencesCrossed x.minimumOccurs x.maximumOccurs))],
      (Obligation.run c c o).succeeds = true := by
    intro o ho
    obtain ho | ho := List.mem_append.mp ho
    · exact Identity.obligations_succeed h.identity o ho
    · obtain rfl := List.mem_singleton.mp ho
      simp [Obligation.run, Check.run, h.occurs, Run.succeeds, Except.toBool]
  rw [Node.validate_result_of_met hobligations hmet, result_memberObligations h.members]

/-- The member at an index has, in lower case, the name of one before it. -/
def RepeatsAt (ys : List Parameter) (j : Nat) : Prop :=
  ∃ i < j, ∃ key, ys[i]?.bind (·.key) = some key ∧ ys[j]?.bind (·.key) = some key

theorem map_lowercaseText_codes (ys : List Parameter) :
    (ys.filterMap (·.identity.code)).map lowercaseText = ys.filterMap (·.key) :=
  List.map_filterMap

theorem nodup_keys_iff {ys : List Parameter} :
    (ys.filterMap (·.key)).Nodup ↔ ∀ j, ¬RepeatsAt ys j := by
  rw [List.Nodup, List.pairwise_filterMap, List.pairwise_iff_getElem]
  constructor
  · rintro h j ⟨i, hij, key, hi, hj⟩
    obtain ⟨y, hy, hykey⟩ := Option.bind_eq_some_iff.mp hi
    obtain ⟨z, hz, hzkey⟩ := Option.bind_eq_some_iff.mp hj
    obtain ⟨hi', rfl⟩ := List.getElem?_eq_some_iff.mp hy
    obtain ⟨hj', rfl⟩ := List.getElem?_eq_some_iff.mp hz
    exact h i j hi' hj' hij key hykey key hzkey rfl
  · rintro h i j hi hj hij key hykey key' hzkey rfl
    refine h j ⟨i, hij, key, ?_, ?_⟩
    · rw [List.getElem?_eq_getElem hi]
      exact hykey
    · rw [List.getElem?_eq_getElem hj]
      exact hzkey

theorem repeatsAt_append_iff {ys zs : List Parameter} {j : Nat} (h : j < ys.length) :
    RepeatsAt (ys ++ zs) j ↔ RepeatsAt ys j := by
  have hget : ∀ i ≤ j, (ys ++ zs)[i]? = ys[i]? :=
    fun i hi => List.getElem?_append_left (by omega)
  refine exists_congr fun i => and_congr_right fun hij => ?_
  rw [hget i (by omega), hget j (by omega)]

theorem exists_of_filterMap_eq_append_cons {α β : Type} {f : α → Option β} {as : List α}
    {before after : List β} {b : β} (h : as.filterMap f = before ++ b :: after) :
    ∃ as₁ a as₂, as = as₁ ++ a :: as₂ ∧ as₁.filterMap f = before ∧ f a = some b := by
  obtain ⟨as₁, rest, rfl, hbefore, hrest⟩ := List.filterMap_eq_append_iff.mp h
  obtain ⟨skipped, a, as₂, rfl, hskipped, ha, -⟩ := List.filterMap_eq_cons_iff.mp hrest
  refine ⟨as₁ ++ skipped, a, as₂, by simp, ?_, ha⟩
  rw [List.filterMap_append, hbefore, List.filterMap_eq_nil_iff.mpr hskipped, List.append_nil]

theorem HasAcceptedMembers.result_eq_ok_iff {x : Parameter} {ys : List Parameter}
    (h : x.HasAcceptedMembers c ys) :
    ((Node.parameter x).validate c).result = .ok () ↔ (ys.filterMap (·.key)).Nodup := by
  rw [h.result_eq, repetitionVerdict_eq_ok_iff, repeatedCode?_eq_none_iff, map_lowercaseText_codes]
  simp

/-- A repeated name is reported as the first member that repeats one spells it. -/
theorem HasAcceptedMembers.exists_first_repetition {x : Parameter} {ys : List Parameter}
    (h : x.HasAcceptedMembers c ys) (hnodup : ¬(ys.filterMap (·.key)).Nodup) :
    ∃ j y code, ys[j]? = some y ∧ y.identity.code = some code ∧
      RepeatsAt ys j ∧ (∀ k < j, ¬RepeatsAt ys k) ∧
      ((Node.parameter x).validate c).result =
        .error (.invalidValue (.parameterRepeated code)) := by
  obtain ⟨code, hcode⟩ : ∃ code, repeatedCode? [] (ys.filterMap (·.identity.code)) = some code := by
    rw [← Option.ne_none_iff_exists', ne_eq, repeatedCode?_eq_none_iff, map_lowercaseText_codes]
    simpa using hnodup
  obtain ⟨before, after, hcodes, hnone, hmem⟩ := exists_of_repeatedCode?_eq_some hcode
  obtain ⟨earlier, y, later, rfl, rfl, hy⟩ := exists_of_filterMap_eq_append_cons hcodes
  have hdistinct : (earlier.filterMap (·.key)).Nodup := by
    rw [← map_lowercaseText_codes]
    exact (repeatedCode?_eq_none_iff.mp hnone).1
  have hrepeats : lowercaseText code ∈ earlier.filterMap (·.key) := by
    rw [← map_lowercaseText_codes]
    simpa using hmem
  refine ⟨earlier.length, y, code, by simp, hy, ?_, fun k hk => ?_, ?_⟩
  · obtain ⟨z, hz, hzkey⟩ := List.mem_filterMap.mp hrepeats
    obtain ⟨i, hi, rfl⟩ := List.mem_iff_getElem.mp hz
    refine ⟨i, hi, lowercaseText code, ?_, ?_⟩
    · rw [List.getElem?_append_left hi, List.getElem?_eq_getElem hi]
      exact hzkey
    · simp [key, hy]
  · rw [repeatsAt_append_iff hk]
    exact nodup_keys_iff.mp hdistinct k
  · rw [h.result_eq, hcode]
    rfl

end Parameter

/-- A group whose members are accepted on their own, and that is in order but for their names, is
accepted exactly when the names of the members that have one are different in lower case; otherwise
it is refused for the first member that has the name of one before it, as that member spells it.
The answer is the same for any other such group whose members spell the same names in the same
order, whatever its own name, members without a name, and the members of its members. -/
theorem group_verdict_hangs_on_member_names {c : Config} {x : Parameter} {ys : List Parameter}
    (h : x.HasAcceptedMembers c ys) :
    (((Node.parameter x).validate c).result = .ok () ↔ (ys.filterMap (·.key)).Nodup) ∧
    (¬(ys.filterMap (·.key)).Nodup → ∃ j y code, ys[j]? = some y ∧ y.identity.code = some code ∧
      Parameter.RepeatsAt ys j ∧ (∀ k < j, ¬Parameter.RepeatsAt ys k) ∧
      ((Node.parameter x).validate c).result =
        .error (.invalidValue (.parameterRepeated code))) ∧
    ∀ (c' : Config) (x' : Parameter) (ys' : List Parameter), x'.HasAcceptedMembers c' ys' →
      ys'.filterMap (·.identity.code) = ys.filterMap (·.identity.code) →
      ((Node.parameter x').validate c').result = ((Node.parameter x).validate c).result := by
  refine ⟨h.result_eq_ok_iff, h.exists_first_repetition, ?_⟩
  intro c' x' ys' h' hcodes
  rw [h'.result_eq, h.result_eq, hcodes]

section Offsets

def Parameter.coded (code : String) (members : Option (List Parameter) := none) : Parameter :=
  { identity := { name := some (.ofCode code) }, descriptors := members }

/-- Members of which the last has the name of the first in capitals. The second has no name, and
the third is a group. -/
def offsets (nested : List Parameter) : List Parameter :=
  [.coded "False easting", { identity := {} }, .coded "Scale" (some nested),
    .coded "FALSE EASTING"]

def eastingGroup : Parameter :=
  .coded "False easting" (some (offsets [.coded "false easting"]))

def plainGroup : Parameter :=
  .coded "Offsets" (some (offsets []))

theorem verdict_on_eastingGroup :
    eastingGroup.HasAcceptedMembers .lenient (offsets [.coded "false easting"]) ∧
      ¬((offsets [.coded "false easting"]).filterMap (·.key)).Nodup ∧
      (∃ j y, (offsets [.coded "false easting"])[j]? = some y ∧
        y.identity.code = some "FALSE EASTING" ∧
        Parameter.RepeatsAt (offsets [.coded "false easting"]) j ∧
        ∀ k < j, ¬Parameter.RepeatsAt (offsets [.coded "false easting"]) k) ∧
      ((Node.parameter eastingGroup).validate .lenient).result =
        .error (.invalidValue (.parameterRepeated "FALSE EASTING")) ∧
      plainGroup.HasAcceptedMembers .lenient (offsets []) ∧
      ((Node.parameter plainGroup).validate .lenient).result =
        ((Node.parameter eastingGroup).validate .lenient).result := by
  have h : eastingGroup.HasAcceptedMembers .lenient (offsets [.coded "false easting"]) :=
    ⟨rfl, by decide +kernel, by decide, by decide +kernel⟩
  have hrepeated : ¬((offsets [.coded "false easting"]).filterMap (·.key)).Nodup := by
    decide +kernel
  have hplain : plainGroup.HasAcceptedMembers .lenient (offsets []) :=
    ⟨rfl, by decide +kernel, by decide, by decide +kernel⟩
  have hblamed : ((Node.parameter eastingGroup).validate .lenient).result =
      .error (.invalidValue (.parameterRepeated "FALSE EASTING")) := by
    decide +kernel
  obtain ⟨-, hfirst, hsame⟩ := group_verdict_hangs_on_member_names h
  obtain ⟨j, y, code, hy, hcode, hrepeats, hleast, hresult⟩ := hfirst hrepeated
  obtain rfl : code = "FALSE EASTING" := by
    simpa [hblamed, eq_comm] using hresult
  exact ⟨h, hrepeated, ⟨j, y, hy, hcode, hrepeats, hleast⟩, hblamed, hplain,
    hsame .lenient _ _ hplain (by decide +kernel)⟩

end Offsets

end GeoConformance
