import Mathlib.Data.List.Forall2
import GeoConformance.Proofs.RunLaws
import GeoConformance.Proofs.VisitedGraph
import GeoConformance.Proofs.WordInitials

/-! Axes that point in a direction which their well-known name does not admit. The names are known
up to capital initials of their words. When all else about a geographic or geocentric system is in
order, it is accepted exactly when it has no such axis, and otherwise refused for the first one. -/
namespace GeoConformance

/-- A run and the form of it with a capital initial, which a run of one character does not have. -/
def capitalizations : List Char → List (List Char)
  | c :: d :: cs => [c :: d :: cs, c.toUpper :: d :: cs]
  | run => [run]

/-- The code is the name but for capital initials of words of two characters or more. -/
def IsCapitalization (code name : String) : Prop :=
  List.Forall₂ (fun run plain => run ∈ capitalizations plain) (runs code.toList) (runs name.toList)

instance (code name : String) : Decidable (IsCapitalization code name) :=
  inferInstanceAs (Decidable (List.Forall₂ _ _ _))

def isPlainRun : List Char → Bool
  | [] => false
  | [_] => true
  | c :: d :: _ => plainLetters.contains c && !isUppercase d

section Words

variable {c d : Char} {cs run : List Char}

theorem uncapitalizeRun_cases (run : List Char) :
    uncapitalizeRun run = run ∨
      ∃ c d cs, run = c :: d :: cs ∧ uncapitalizeRun run = lowercase c ++ d :: cs := by
  by_cases h : run.all isWhiteSpace = true
  · exact .inl (if_pos h)
  · have hrun : uncapitalizeRun run = uncapitalizeWord run := if_neg h
    rw [hrun]
    obtain hsame | ⟨c, d, cs, rfl, -, hword⟩ := uncapitalizeWord_cases run
    · exact .inl hsame
    · exact .inr ⟨c, d, cs, rfl, hword⟩

theorem uncapitalizeRun_eq_singleton_iff : uncapitalizeRun run = [c] ↔ run = [c] := by
  constructor
  · intro h
    obtain hsame | ⟨e, d, cs, rfl, hlower⟩ := uncapitalizeRun_cases run
    · rw [← hsame, h]
    · obtain ⟨f, fs, hfs, -⟩ := exists_lowercase_eq_cons e
      rw [hlower, hfs] at h
      cases fs <;> cases h
  · rintro rfl
    simp [uncapitalizeRun, uncapitalizeWord]

theorem uncapitalizeRun_of_not_isWhiteSpace_of_not_isUppercase (hc : isWhiteSpace c = false)
    (hd : isUppercase d = false) : uncapitalizeRun (c :: d :: cs) = lowercase c ++ d :: cs := by
  simp [uncapitalizeRun, uncapitalizeWord, hc, hd]

theorem uncapitalizeRun_eq_cons_cons_iff (hc : c ∈ plainLetters) (hd : isUppercase d = false) :
    uncapitalizeRun run = c :: d :: cs ↔ run = c :: d :: cs ∨ run = c.toUpper :: d :: cs := by
  obtain ⟨hlower, hupper⟩ := lowercase_of_mem_plainLetters hc
  obtain ⟨hspace, hspaceUpper⟩ := isWhiteSpace_of_mem_plainLetters hc
  constructor
  · intro h
    obtain hsame | ⟨e, f, fs, rfl, hrun⟩ := uncapitalizeRun_cases run
    · exact .inl (by rw [← hsame, h])
    · -- What the initial becomes begins with a plain letter, so it is that letter and no more.
      obtain ⟨g, gs, hgs, -⟩ := exists_lowercase_eq_cons e
      rw [hrun, hgs, List.cons_append] at h
      obtain ⟨rfl, htail⟩ := List.cons.inj h
      obtain ⟨rfl, he⟩ := (lowercase_eq_cons_iff hc).mp hgs
      rw [List.nil_append] at htail
      rw [htail]
      exact he.imp (congrArg (· :: d :: cs)) (congrArg (· :: d :: cs))
  · rintro (rfl | rfl)
    · rw [uncapitalizeRun_of_not_isWhiteSpace_of_not_isUppercase hspace hd, hlower]
      rfl
    · rw [uncapitalizeRun_of_not_isWhiteSpace_of_not_isUppercase hspaceUpper hd, hupper]
      rfl

theorem uncapitalizeRun_eq_iff {plain : List Char} (h : isPlainRun plain = true) :
    uncapitalizeRun run = plain ↔ run ∈ capitalizations plain := by
  match plain with
  | [c] => simp [capitalizations, uncapitalizeRun_eq_singleton_iff]
  | c :: d :: cs =>
    simp only [isPlainRun, Bool.and_eq_true, List.contains_iff_mem, Bool.not_eq_true'] at h
    rw [uncapitalizeRun_eq_cons_cons_iff h.1 h.2, capitalizations]
    simp

end Words

theorem forall₂_congr_of_mem {α β : Type} {R S : α → β → Prop} {as : List α} {bs : List β}
    (h : ∀ b ∈ bs, ∀ a, R a b ↔ S a b) : List.Forall₂ R as bs ↔ List.Forall₂ S as bs := by
  induction bs generalizing as with
  | nil => simp
  | cons b bs ih =>
    cases as with
    | nil => simp
    | cons a as =>
      rw [List.forall₂_cons, List.forall₂_cons, h b List.mem_cons_self,
        ih fun d hd => h d (List.mem_cons_of_mem b hd)]

/-- The codes that become a name of plain runs are its forms with capital initials. -/
theorem uncapitalizeWords_eq_iff {code name : String}
    (h : ∀ plain ∈ runs name.toList, isPlainRun plain = true) :
    uncapitalizeWords code = name ↔ IsCapitalization code name := by
  calc uncapitalizeWords code = name
      ↔ uncapitalize true code.toList = name.toList := by
        rw [← String.toList_inj, uncapitalizeWords, String.toList_ofList]
    _ ↔ (runs code.toList).map uncapitalizeRun = runs name.toList := by
        rw [← runs_uncapitalize, runs_inj]
    _ ↔ List.Forall₂ (fun run plain => uncapitalizeRun run = plain) (runs code.toList)
          (runs name.toList) := by
        rw [← List.forall₂_eq_eq_eq, List.forall₂_map_left_iff]
    _ ↔ IsCapitalization code name :=
        forall₂_congr_of_mem fun plain hplain run => uncapitalizeRun_eq_iff (h plain hplain)

example : IsCapitalization "Geocentric X" "geocentric X" ∧
    ¬IsCapitalization "Geocentric x" "geocentric X" := by
  decide +kernel

theorem isPlainRun_of_mem_knownAxisNames : ∀ known ∈ knownAxisNames,
    ∀ plain ∈ runs known.1.toList, isPlainRun plain = true := by
  decide +kernel

theorem lookup_knownAxisNames_iff {name : String} {admitted : List AxisDirection} :
    knownAxisNames.lookup name = some admitted ↔ (name, admitted) ∈ knownAxisNames := by
  constructor
  · intro h
    obtain ⟨before, after, heq, -⟩ := List.lookup_eq_some_iff.mp h
    rw [heq]
    exact List.mem_append_right before List.mem_cons_self
  · intro h
    have hall : ∀ known ∈ knownAxisNames, knownAxisNames.lookup known.1 = some known.2 := by
      decide +kernel
    exact hall _ h

namespace Axis

def misdirection? (a : Axis) : Option (String × AxisDirection) := do
  let code ← a.identity.code
  let direction ← a.direction
  let name := uncapitalizeWords code
  let admitted ← knownAxisNames.lookup name
  if direction ∈ admitted then none else some (name, direction)

/-- The code of the axis is a well-known name, up to capital initials, and its direction is none of
those that the name admits. -/
def Misdirected (a : Axis) (name : String) (direction : AxisDirection) : Prop :=
  ∃ code admitted, a.identity.code = some code ∧ a.direction = some direction ∧
    (name, admitted) ∈ knownAxisNames ∧ IsCapitalization code name ∧ direction ∉ admitted

theorem misdirection?_eq_some_iff {a : Axis} {name : String} {direction : AxisDirection} :
    a.misdirection? = some (name, direction) ↔ a.Misdirected name direction := by
  constructor
  · intro h
    simp only [misdirection?, bind, Option.bind_eq_some_iff, Option.ite_none_left_eq_some,
      Option.some.injEq, Prod.mk.injEq] at h
    obtain ⟨code, hcode, direction', hdirection, admitted, hknown, hadmitted, rfl, rfl⟩ := h
    have hmem := lookup_knownAxisNames_iff.mp hknown
    have hcapital := (uncapitalizeWords_eq_iff (isPlainRun_of_mem_knownAxisNames _ hmem)).mp rfl
    exact ⟨code, admitted, hcode, hdirection, hmem, hcapital, hadmitted⟩
  · rintro ⟨code, admitted, hcode, hdirection, hmem, hcapital, hadmitted⟩
    have hname := (uncapitalizeWords_eq_iff (isPlainRun_of_mem_knownAxisNames _ hmem)).mpr hcapital
    simp [misdirection?, hcode, hdirection, hname, lookup_knownAxisNames_iff.mpr hmem, hadmitted]

theorem misdirection?_eq_none_iff {a : Axis} :
    a.misdirection? = none ↔ ∀ name direction, ¬a.Misdirected name direction := by
  simp only [← misdirection?_eq_some_iff, Option.eq_none_iff_forall_ne_some, Prod.forall, ne_eq]

end Axis

namespace Crs

variable {c : Config} {x : Crs}

theorem result_axisNameCheck? (kind : CrsKind) (a : Axis) :
    (Check.runAll c (axisNameCheck? kind a).toList).result =
      valueVerdict (a.misdirection?.map fun m => .axisMisdirected kind m.1 m.2) := by
  cases hcode : a.identity.code with
  | none => simp [axisNameCheck?, Axis.misdirection?, hcode, valueVerdict]
  | some code =>
    cases hdirection : a.direction with
    | none => simp [axisNameCheck?, Axis.misdirection?, hcode, hdirection, valueVerdict]
    | some direction =>
      cases hknown : knownAxisNames.lookup (uncapitalizeWords code) with
      | none => simp [axisNameCheck?, Axis.misdirection?, hcode, hdirection, hknown, valueVerdict]
      | some admitted =>
        by_cases h : direction ∈ admitted <;>
          simp [axisNameCheck?, Axis.misdirection?, hcode, hdirection, hknown, h, valueVerdict,
            Check.run]

def misdirection? (x : Crs) : Option (String × AxisDirection) :=
  x.coordinateSystem.bind fun s => s.axes.findSome? fun axis => axis.bind (·.misdirection?)

/-- One pass over the axes: missing ones and those without a well-known name have no check. -/
theorem result_axisNameChecks (kind : CrsKind) (axes : List (Option Axis)) :
    (Check.runAll c (axes.filterMap fun axis => axis.bind (axisNameCheck? kind))).result =
      valueVerdict ((axes.findSome? fun axis => axis.bind (·.misdirection?)).map
        fun m => .axisMisdirected kind m.1 m.2) := by
  induction axes with
  | nil => rfl
  | cons axis axes ih =>
    have hsplit : (axis :: axes).filterMap (fun axis => axis.bind (axisNameCheck? kind)) =
        (axis.bind (axisNameCheck? kind)).toList ++
          axes.filterMap (fun axis => axis.bind (axisNameCheck? kind)) := by
      cases h : axis.bind (axisNameCheck? kind) <;> simp [h]
    rw [hsplit, Check.runAll_append]
    have hone : (Check.runAll c (axis.bind (axisNameCheck? kind)).toList).result =
        valueVerdict ((axis.bind (·.misdirection?)).map fun m => .axisMisdirected kind m.1 m.2) := by
      cases axis with
      | none => rfl
      | some a => exact result_axisNameCheck? kind a
    cases h : axis.bind (·.misdirection?) with
    | none =>
      rw [h] at hone
      rw [Run.bind_of_ok hone, ih, List.findSome?_cons, h]
    | some m =>
      rw [h] at hone
      rw [Run.bind_of_error hone, List.findSome?_cons, h]
      rfl

/-- A geographic or geocentric system in which all but the names of the axes is in order: what any
object has, and the coordinate system and the datum, which are accepted on their own, are there
where they have to be and are of kinds that fit. -/
structure AcceptedButForAxisNames (c : Config) (x : Crs) : Prop where
  kind : x.kind = .geographic ∨ x.kind = .geocentric
  identity : ((Target.identity x.identity).validate c).succeeds = true
  attached : c.requireMandatory = true → x.coordinateSystem.isSome = true ∧ x.datum.isSome = true
  system : ∀ s ∈ x.coordinateSystem, ((Node.coordinateSystem s).validate c).succeeds = true
  systemKind : ∀ s ∈ x.coordinateSystem, ∀ kinds ∈ x.kind.expectedSystems, s.kind ∈ kinds
  datum : ∀ d ∈ x.datum, ((Node.datum d).validate c).succeeds = true
  datumKind : ∀ d ∈ x.datum, ∀ kind ∈ x.kind.expectedDatum, d.kind = kind

def obligationsBeforeAxisNames (x : Crs) : List Obligation :=
  x.identity.obligations ++ [.own (.require x.coordinateSystem .crsWithoutCoordinateSystem),
    .own (.require x.datum .crsWithoutDatum)] ++
    x.coordinateSystem.toList.flatMap fun s =>
      .visit (.coordinateSystem s) :: (x.kind.expectedSystems.toList.map fun expected =>
        .own (.ensure (expected.contains s.kind) (.systemKindUnfit x.kind expected s.kind)))

theorem obligations_of_namesAxes (h : x.kind.namesAxes = true) :
    x.obligations = x.obligationsBeforeAxisNames ++
      ((x.coordinateSystem.toList.flatMap (axisNameChecks x.kind)).map .own ++
        x.datum.toList.flatMap (datumObligations x.kind)) := by
  have hkind : x.kind ≠ .compound := by
    intro hk
    rw [hk] at h
    cases h
  cases hs : x.coordinateSystem <;>
    simp [obligations, obligationsBeforeAxisNames, singleObligations, systemObligations,
      systemChecks, hkind, h, hs]

namespace AcceptedButForAxisNames

variable (h : x.AcceptedButForAxisNames c)
include h

theorem obligationsBeforeAxisNames_succeed :
    ∀ o ∈ x.obligationsBeforeAxisNames, (o.run c c).succeeds = true := by
  intro o ho
  obtain ho | ho := List.mem_append.mp ho
  · obtain ho | ho := List.mem_append.mp ho
    · exact Identity.obligations_succeed h.identity o ho
    · rw [Obligation.run_succeeds_iff]
      simp only [List.mem_cons, List.not_mem_nil, or_false] at ho
      obtain rfl | rfl := ho
      · simpa using fun hc => (h.attached hc).1
      · simpa using fun hc => (h.attached hc).2
  · obtain ⟨s, hs, ho⟩ := List.mem_flatMap.mp ho
    rw [Option.mem_toList] at hs
    obtain rfl | ho := List.mem_cons.mp ho
    · exact h.system s hs
    · obtain ⟨expected, hexpected, rfl⟩ := List.mem_map.mp ho
      rw [Option.mem_toList] at hexpected
      simpa [Obligation.run_succeeds_iff] using h.systemKind s hs expected hexpected

theorem datumObligations_succeed :
    ∀ o ∈ x.datum.toList.flatMap (datumObligations x.kind), (o.run c c).succeeds = true := by
  intro o ho
  obtain ⟨d, hd, ho⟩ := List.mem_flatMap.mp ho
  rw [Option.mem_toList] at hd
  obtain rfl | ho := List.mem_cons.mp ho
  · exact h.datum d hd
  · obtain ⟨k, hk, rfl⟩ := List.mem_map.mp ho
    obtain ⟨kind, hkind, rfl⟩ := List.mem_map.mp hk
    rw [Option.mem_toList] at hkind
    simpa [Obligation.run_succeeds_iff] using h.datumKind d hd kind hkind

theorem result_eq : ((Node.crs x).validate c).result =
    valueVerdict (x.misdirection?.map fun m => .axisMisdirected x.kind m.1 m.2) := by
  have hobligations : (Node.crs x).obligations = _ :=
    x.obligations_of_namesAxes (CrsKind.namesAxes_iff.mpr h.kind)
  rw [Node.validate_result_of_met hobligations h.obligationsBeforeAxisNames_succeed,
    Run.result_forM_append_of_succeeds h.datumObligations_succeed]
  have hchecks : forM ((x.coordinateSystem.toList.flatMap (axisNameChecks x.kind)).map
      Obligation.own) (Obligation.run c c) =
        Check.runAll c (x.coordinateSystem.toList.flatMap (axisNameChecks x.kind)) :=
    List.forM_map
  rw [hchecks]
  cases hs : x.coordinateSystem with
  | none => simp [misdirection?, hs, valueVerdict]
  | some s =>
    rw [Option.toList_some, List.flatMap_singleton, misdirection?, hs, Option.bind_some]
    exact result_axisNameChecks x.kind s.axes

end AcceptedButForAxisNames

theorem misdirection?_eq_some_iff {name : String} {direction : AxisDirection} :
    x.misdirection? = some (name, direction) ↔ ∃ s ∈ x.coordinateSystem, ∃ before a after,
      s.axes = before ++ some a :: after ∧ a.Misdirected name direction ∧
      ∀ b, some b ∈ before → ∀ n d, ¬b.Misdirected n d := by
  simp only [misdirection?, Option.bind_eq_some_iff, List.findSome?_eq_some_iff]
  refine exists_congr fun s => and_congr Iff.rfl ?_
  constructor
  · rintro ⟨before, -, after, haxes, ⟨a, rfl, ha⟩, hbefore⟩
    refine ⟨before, a, after, haxes, Axis.misdirection?_eq_some_iff.mp ha, fun b hb => ?_⟩
    exact Axis.misdirection?_eq_none_iff.mp (hbefore _ hb)
  · rintro ⟨before, a, after, haxes, ha, hbefore⟩
    have ha : a.misdirection? = some (name, direction) := Axis.misdirection?_eq_some_iff.mpr ha
    refine ⟨before, some a, after, haxes, ⟨a, rfl, ha⟩, fun axis hb => ?_⟩
    cases axis with
    | none => rfl
    | some b => exact Axis.misdirection?_eq_none_iff.mpr (hbefore b hb)

theorem misdirection?_eq_none_iff : x.misdirection? = none ↔
    ∀ s ∈ x.coordinateSystem, ∀ a, some a ∈ s.axes → ∀ n d, ¬a.Misdirected n d := by
  simp only [misdirection?, Option.bind_eq_none_iff, List.findSome?_eq_none_iff]
  refine forall₂_congr fun s _ => ?_
  constructor
  · intro h a ha
    exact Axis.misdirection?_eq_none_iff.mp (h (some a) ha a rfl)
  · intro h axis haxis a ha
    obtain rfl : axis = some a := ha
    exact Axis.misdirection?_eq_none_iff.mpr (h a haxis)

end Crs

/-- A geographic or geocentric system in which all but the names of the axes is in order is refused
exactly when an axis has for its code a well-known name, up to capital initials of the words, and a
direction that the name does not admit. The error has the name and the direction of the first such
axis, the name in the spelling that every form of it, and no other code, is brought into. -/
theorem refused_iff_axis_misdirected {c : Config} {x : Crs} (h : x.AcceptedButForAxisNames c) :
    (((Node.crs x).validate c).succeeds = false ↔ ∃ s ∈ x.coordinateSystem, ∃ a, some a ∈ s.axes ∧
      ∃ name direction, a.Misdirected name direction) ∧
    (∀ e, ((Node.crs x).validate c).result = .error e → ∃ s ∈ x.coordinateSystem,
      ∃ before a after name direction, s.axes = before ++ some a :: after ∧
        a.Misdirected name direction ∧ (∀ b, some b ∈ before → ∀ n d, ¬b.Misdirected n d) ∧
        e = .invalidValue (.axisMisdirected x.kind name direction)) ∧
    ∀ code name admitted, (name, admitted) ∈ knownAxisNames →
      (uncapitalizeWords code = name ↔ IsCapitalization code name) := by
  refine ⟨?_, fun e he => ?_, fun code name admitted hname => ?_⟩
  · calc ((Node.crs x).validate c).succeeds = false
        ↔ ¬x.misdirection? = none := by
          rw [← Bool.not_eq_true, Run.succeeds_iff, h.result_eq, valueVerdict_eq_ok_iff,
            Option.map_eq_none_iff]
      _ ↔ _ := by simp [Crs.misdirection?_eq_none_iff]
  · rw [h.result_eq] at he
    cases hm : x.misdirection? with
    | none =>
      rw [hm] at he
      cases he
    | some m =>
      obtain ⟨name, direction⟩ := m
      rw [hm] at he
      cases he
      obtain ⟨s, hs, before, a, after, haxes, ha, hbefore⟩ := Crs.misdirection?_eq_some_iff.mp hm
      exact ⟨s, hs, before, a, after, name, direction, haxes, ha, hbefore, rfl⟩
  · exact uncapitalizeWords_eq_iff (isPlainRun_of_mem_knownAxisNames _ hname)

section Swapped

def Axis.pointing (code : String) (direction : Option AxisDirection) : Axis :=
  { identity := { name := some (.ofCode code) }, direction := direction }

def northernLongitude : CoordinateSystem :=
  { identity := {}, kind := .ellipsoidal,
    listed := [none, some (.pointing "Geodetic latitude" none),
      some (.pointing "geodetic Longitude" (some .north))] }

def swappedCrs : Crs :=
  { identity := {}, kind := .geographic, coordinateSystem := some northernLongitude }

theorem refusal_of_swappedCrs :
    swappedCrs.AcceptedButForAxisNames .lenient ∧
      ((Node.crs swappedCrs).validate .lenient).result = .error (.invalidValue
        (.axisMisdirected .geographic "geodetic longitude" .north)) ∧
      ∃ s ∈ swappedCrs.coordinateSystem, ∃ a, some a ∈ s.axes ∧
        ∃ name direction, a.Misdirected name direction := by
  have h : swappedCrs.AcceptedButForAxisNames .lenient := by
    refine ⟨.inl rfl, by decide +kernel, by decide, ?_, ?_, by simp [swappedCrs],
      by simp [swappedCrs]⟩
    · rintro s ⟨⟩
      decide +kernel
    · rintro s ⟨⟩ kinds ⟨⟩
      decide
  have hrefused : ((Node.crs swappedCrs).validate .lenient).result = .error (.invalidValue
      (.axisMisdirected .geographic "geodetic longitude" .north)) := by
    decide +kernel
  refine ⟨h, hrefused, (refused_iff_axis_misdirected h).1.mp ?_⟩
  rw [Run.succeeds, hrefused]
  rfl

end Swapped

end GeoConformance
