import Mathlib.Data.Multiset.MapFold
import Mathlib.Data.Option.Basic
import GeoConformance.Proofs.PresenceFaults
import GeoConformance.Proofs.RoleDispatch

/-! Collections without an order. Two objects that differ only in the order of the identifiers,
aliases, domains, components, steps and group members in them, at any depth, are accepted alike,
though a refusal can name another fault. -/
namespace GeoConformance

/-- The same attributes, but for the order of the identifiers, the aliases and the domains. -/
structure Identity.Reordered (x y : Identity) : Prop where
  name : y.name = x.name
  identifiers : x.identifiers.Perm y.identifiers
  aliases : x.aliases.Perm y.aliases
  domains : x.domains.Perm y.domains
  remarks : y.remarks = x.remarks

inductive Axis.Reordered (x : Axis) : Axis → Prop
  | intro {i : Identity} : x.identity.Reordered i → Reordered x { x with identity := i }

/-- The axes stay in their order. -/
inductive CoordinateSystem.Reordered (x : CoordinateSystem) : CoordinateSystem → Prop
  | intro {i : Identity} {axes : List (Option Axis)} :
      x.identity.Reordered i → List.Forall₂ (Option.Rel Axis.Reordered) x.listed axes →
      Reordered x { x with identity := i, listed := axes }

inductive Ellipsoid.Reordered (x : Ellipsoid) : Ellipsoid → Prop
  | intro {i : Identity} : x.identity.Reordered i → Reordered x { x with identity := i }

inductive PrimeMeridian.Reordered (x : PrimeMeridian) : PrimeMeridian → Prop
  | intro {i : Identity} : x.identity.Reordered i → Reordered x { x with identity := i }

inductive Datum.Reordered (x : Datum) : Datum → Prop
  | intro {i : Identity} {e : Option Ellipsoid} {m : Option PrimeMeridian} :
      x.identity.Reordered i → Option.Rel Ellipsoid.Reordered x.ellipsoid e →
      Option.Rel PrimeMeridian.Reordered x.primeMeridian m →
      Reordered x { x with identity := i, ellipsoid := e, primeMeridian := m }

/-- The components come in any order, each of them reordered in turn. -/
inductive Crs.Reordered : Crs → Crs → Prop
  | intro {x : Crs} {i : Identity} {s : Option CoordinateSystem} {d : Option Datum}
      {ys : List Crs} :
      x.identity.Reordered i → Option.Rel CoordinateSystem.Reordered x.coordinateSystem s →
      Option.Rel Datum.Reordered x.datum d → Multiset.Rel Crs.Reordered x.components ys →
      Reordered x { x with identity := i, coordinateSystem := s, datum := d, components := ys }

inductive Parameter.Reordered : Parameter → Parameter → Prop
  | intro {x : Parameter} {i : Identity} {ys : Option (List Parameter)} :
      x.identity.Reordered i →
      Option.Rel (fun (xs ys : List Parameter) => Multiset.Rel Parameter.Reordered xs ys)
        x.descriptors ys →
      Reordered x { x with identity := i, descriptors := ys }

inductive OperationMethod.Reordered (x : OperationMethod) : OperationMethod → Prop
  | intro {i : Identity} {p : Option Parameter} :
      x.identity.Reordered i → Option.Rel Parameter.Reordered x.parameters p →
      Reordered x { x with identity := i, parameters := p }

inductive Operation.Reordered : Operation → Operation → Prop
  | intro {x : Operation} {i : Identity} {s t : Option Crs} {m : Option OperationMethod}
      {ys : List Operation} :
      x.identity.Reordered i → Option.Rel Crs.Reordered x.source s →
      Option.Rel Crs.Reordered x.target t → Option.Rel OperationMethod.Reordered x.method m →
      Multiset.Rel Operation.Reordered x.steps ys →
      Reordered x { x with identity := i, source := s, target := t, method := m, steps := ys }

inductive Node.Reordered : Node → Node → Prop
  | crs {x y : Crs} : x.Reordered y → Reordered (.crs x) (.crs y)
  | coordinateSystem {x y : CoordinateSystem} :
      x.Reordered y → Reordered (.coordinateSystem x) (.coordinateSystem y)
  | axis {x y : Axis} : x.Reordered y → Reordered (.axis x) (.axis y)
  | datum {x y : Datum} : x.Reordered y → Reordered (.datum x) (.datum y)
  | ellipsoid {x y : Ellipsoid} : x.Reordered y → Reordered (.ellipsoid x) (.ellipsoid y)
  | primeMeridian {x y : PrimeMeridian} :
      x.Reordered y → Reordered (.primeMeridian x) (.primeMeridian y)
  | parameter {x y : Parameter} : x.Reordered y → Reordered (.parameter x) (.parameter y)
  | operation {x y : Operation} : x.Reordered y → Reordered (.operation x) (.operation y)
  | method {x y : OperationMethod} : x.Reordered y → Reordered (.method x) (.method y)

/-- An object seen alike in every role that it plays, but for order. -/
structure Subject.Reordered (x y : Subject) : Prop where
  identity : x.identity.Reordered y.identity
  view : ∀ r, Option.Rel Node.Reordered (x.view r) (y.view r)

section Relations

variable {α β : Type} {r : α → β → Prop}

theorem isSome_eq_of_rel {x : Option α} {y : Option β} (h : Option.Rel r x y) :
    y.isSome = x.isSome := by
  cases h <;> rfl

theorem forall_mem_iff_of_rel {p : α → Prop} {q : β → Prop} {x : Option α} {y : Option β}
    (h : Option.Rel r x y) (hpq : ∀ a b, r a b → (p a ↔ q b)) :
    (∀ a ∈ x, p a) ↔ ∀ b ∈ y, q b := by
  cases h with
  | none => simp
  | some hab => simpa using hpq _ _ hab

theorem bind_eq_of_rel {γ : Type} {f : α → Option γ} {g : β → Option γ} {x : Option α}
    {y : Option β} (h : Option.Rel r x y) (hfg : ∀ a b, r a b → g b = f a) :
    y.bind g = x.bind f := by
  cases h with
  | none => rfl
  | some hab => exact hfg _ _ hab

theorem rel_join {x : Option (Option α)} {y : Option (Option β)}
    (h : Option.Rel (Option.Rel r) x y) : Option.Rel r x.join y.join := by
  cases h with
  | none => exact .none
  | some hab => exact hab

theorem rel_getElem?_of_forall₂ {xs : List α} {ys : List β} (h : List.Forall₂ r xs ys)
    (index : Nat) : Option.Rel r xs[index]? ys[index]? := by
  induction h generalizing index with
  | nil => exact .none
  | cons hab _ ih =>
    cases index with
    | zero => exact .some hab
    | succ index => simpa using ih index

end Relations

theorem Axis.Reordered.direction_eq {x y : Axis} (h : x.Reordered y) :
    y.direction = x.direction := by
  obtain ⟨-⟩ := h
  rfl

theorem Axis.Reordered.code_eq {x y : Axis} (h : x.Reordered y) :
    y.identity.code = x.identity.code := by
  obtain ⟨hi⟩ := h
  rw [Identity.code, Identity.code, hi.name]

theorem Parameter.Reordered.key_eq {x y : Parameter} (h : x.Reordered y) : y.key = x.key := by
  obtain ⟨hi, -⟩ := h
  rw [key, key, Identity.code, Identity.code, hi.name]

namespace CoordinateSystem.Reordered

variable {x y : CoordinateSystem}

theorem kind_eq (h : x.Reordered y) : y.kind = x.kind := by
  obtain ⟨-, -⟩ := h
  rfl

theorem dimension_eq (h : x.Reordered y) : y.dimension = x.dimension := by
  obtain ⟨-, -⟩ := h
  rfl

theorem axis (h : x.Reordered y) (index : Nat) :
    Option.Rel Axis.Reordered (x.axis? index) (y.axis? index) := by
  obtain ⟨-, haxes⟩ := h
  exact rel_join (rel_getElem?_of_forall₂ haxes index)

theorem direction_eq (h : x.Reordered y) (index : Nat) :
    (y.axis? index).bind (·.direction) = (x.axis? index).bind (·.direction) :=
  bind_eq_of_rel (h.axis index) fun _ _ hab => hab.direction_eq

end CoordinateSystem.Reordered

theorem Datum.Reordered.kind_eq {x y : Datum} (h : x.Reordered y) : y.kind = x.kind := by
  obtain ⟨-, -, -⟩ := h
  rfl

/-! Conformity of an object on its own, kind by kind. -/
section Conformity

variable {c : Config}

theorem Identity.Reordered.conforms_iff {x y : Identity} (h : x.Reordered y) :
    x.Conforms c ↔ y.Conforms c := by
  constructor
  · intro hx
    exact ⟨h.name ▸ hx.name, h.name ▸ hx.nameIdentifier,
      fun i hi => hx.identifiers i (h.identifiers.mem_iff.mpr hi),
      fun t ht => hx.aliases t (h.aliases.mem_iff.mpr ht),
      fun d hd => hx.domains d (h.domains.mem_iff.mpr hd), h.remarks ▸ hx.remarks⟩
  · intro hy
    exact ⟨h.name ▸ hy.name, h.name ▸ hy.nameIdentifier,
      fun i hi => hy.identifiers i (h.identifiers.mem_iff.mp hi),
      fun t ht => hy.aliases t (h.aliases.mem_iff.mp ht),
      fun d hd => hy.domains d (h.domains.mem_iff.mp hd), h.remarks ▸ hy.remarks⟩

theorem Axis.Reordered.conforms_iff {x y : Axis} (h : x.Reordered y) :
    x.Conforms c ↔ y.Conforms c := by
  obtain ⟨hi⟩ := h
  exact ⟨fun hx => { hx with identity := hi.conforms_iff.mp hx.identity },
    fun hy => { hy with identity := hi.conforms_iff.mpr hy.identity }⟩

theorem Ellipsoid.Reordered.conforms_iff {x y : Ellipsoid} (h : x.Reordered y) :
    x.Conforms c ↔ y.Conforms c := by
  obtain ⟨hi⟩ := h
  exact ⟨fun hx => { hx with identity := hi.conforms_iff.mp hx.identity },
    fun hy => { hy with identity := hi.conforms_iff.mpr hy.identity }⟩

theorem PrimeMeridian.Reordered.conforms_iff {x y : PrimeMeridian} (h : x.Reordered y) :
    x.Conforms c ↔ y.Conforms c := by
  obtain ⟨hi⟩ := h
  exact ⟨fun hx => { hx with identity := hi.conforms_iff.mp hx.identity },
    fun hy => { hy with identity := hi.conforms_iff.mpr hy.identity }⟩

theorem CoordinateSystem.Reordered.conforms_iff {x y : CoordinateSystem} (h : x.Reordered y) :
    x.Conforms c ↔ y.Conforms c := by
  have haxis (index : Nat) : (y.axis? index).isSome = (x.axis? index).isSome :=
    isSome_eq_of_rel (h.axis index)
  have hdirection := h.direction_eq
  obtain ⟨hi, -⟩ := h
  constructor
  · intro hx
    exact ⟨hi.conforms_iff.mp hx.identity, hx.dimension, by simpa only [haxis] using hx.axes,
      by simpa only [hdirection] using hx.perpendicular⟩
  · intro hy
    exact ⟨hi.conforms_iff.mpr hy.identity, hy.dimension, by simpa only [haxis] using hy.axes,
      by simpa only [hdirection] using hy.perpendicular⟩

theorem Datum.Reordered.conforms_iff {x y : Datum} (h : x.Reordered y) :
    x.Conforms c ↔ y.Conforms c := by
  obtain ⟨hi, he, hm⟩ := h
  have hes := isSome_eq_of_rel he
  have hms := isSome_eq_of_rel hm
  constructor
  · intro hx
    exact ⟨hi.conforms_iff.mp hx.identity, hx.anchorText,
      by simpa only [hes, hms] using hx.geodetic,
      by simpa only [← Option.not_isSome_iff_eq_none, hes, hms] using hx.otherKind⟩
  · intro hy
    exact ⟨hi.conforms_iff.mpr hy.identity, hy.anchorText,
      by simpa only [hes, hms] using hy.geodetic,
      by simpa only [← Option.not_isSome_iff_eq_none, hes, hms] using hy.otherKind⟩

theorem Parameter.perm_keys_of_rel {xs ys : List Parameter}
    (h : Multiset.Rel Parameter.Reordered xs ys) :
    (xs.filterMap (·.key)).Perm (ys.filterMap (·.key)) := by
  have hkeys : Multiset.Rel (fun x y : Parameter => x.key = y.key) xs ys :=
    h.mono fun _ _ _ _ hxy => hxy.key_eq.symm
  have hmap : (xs.map (·.key)).Perm (ys.map (·.key)) := by
    apply Multiset.coe_eq_coe.mp
    rw [← Multiset.map_coe, ← Multiset.map_coe]
    exact Multiset.rel_eq.mp (Multiset.rel_map.mpr hkeys)
  simpa [List.filterMap_map] using hmap.filterMap id

theorem Parameter.Reordered.conforms_iff {x y : Parameter} (h : x.Reordered y) :
    x.Conforms c ↔ y.Conforms c := by
  cases h with
  | @intro x i members hi hmembers =>
    have hdistinct : (∀ xs ∈ x.descriptors, (xs.filterMap (·.key)).Nodup) ↔
        ∀ ys ∈ members, (ys.filterMap (·.key)).Nodup :=
      forall_mem_iff_of_rel hmembers fun _ _ hys => (perm_keys_of_rel hys).nodup_iff
    exact ⟨fun hx => ⟨hi.conforms_iff.mp hx.identity, hx.occurs, hdistinct.mp hx.distinct⟩,
      fun hy => ⟨hi.conforms_iff.mpr hy.identity, hy.occurs, hdistinct.mpr hy.distinct⟩⟩

theorem OperationMethod.Reordered.conforms_iff {x y : OperationMethod} (h : x.Reordered y) :
    x.Conforms c ↔ y.Conforms c := by
  obtain ⟨hi, -⟩ := h
  exact ⟨fun hx => { hx with identity := hi.conforms_iff.mp hx.identity },
    fun hy => { hy with identity := hi.conforms_iff.mpr hy.identity }⟩

theorem Operation.Reordered.conforms_iff {x y : Operation} (h : x.Reordered y) :
    x.Conforms c ↔ y.Conforms c := by
  obtain ⟨hi, hs, ht, hm, hys⟩ := h
  have hss := isSome_eq_of_rel hs
  have hts := isSome_eq_of_rel ht
  have hms := isSome_eq_of_rel hm
  have hlength := Multiset.card_eq_card_of_rel hys
  simp only [Multiset.coe_card] at hlength
  constructor
  · intro hx
    exact ⟨hi.conforms_iff.mp hx.identity, by simpa only [hms] using hx.conversion,
      by simpa only [hss, hts, hms] using hx.transformation,
      by simpa only [← hlength] using hx.concatenated,
      by simpa only [← hlength] using hx.passThrough, hx.versionText⟩
  · intro hy
    exact ⟨hi.conforms_iff.mpr hy.identity, by simpa only [hms] using hy.conversion,
      by simpa only [hss, hts, hms] using hy.transformation,
      by simpa only [← hlength] using hy.concatenated,
      by simpa only [← hlength] using hy.passThrough, hy.versionText⟩

/-- Whatever is asked of the codes and directions of the axes holds of both systems or of
neither. -/
theorem CoordinateSystem.Reordered.axisNames_iff {x y : CoordinateSystem} (h : x.Reordered y)
    {p : String → AxisDirection → Prop} :
    (∀ i < x.dimension, ∀ a ∈ x.axis? i, ∀ code ∈ a.identity.code, ∀ d ∈ a.direction, p code d) ↔
      ∀ i < y.dimension, ∀ a ∈ y.axis? i, ∀ code ∈ a.identity.code, ∀ d ∈ a.direction,
        p code d := by
  have hone (i : Nat) :
      (∀ a ∈ x.axis? i, ∀ code ∈ a.identity.code, ∀ d ∈ a.direction, p code d) ↔
        ∀ a ∈ y.axis? i, ∀ code ∈ a.identity.code, ∀ d ∈ a.direction, p code d :=
    forall_mem_iff_of_rel (h.axis i) fun a b hab => by rw [hab.code_eq, hab.direction_eq]
  rw [h.dimension_eq]
  exact forall₂_congr fun i _ => hone i

theorem Crs.Reordered.conforms_iff {x y : Crs} (h : x.Reordered y) :
    x.Conforms c ↔ y.Conforms c := by
  cases h with
  | @intro x i s d ys hi hs hd hys =>
    have hlength := Multiset.card_eq_card_of_rel hys
    simp only [Multiset.coe_card] at hlength
    have hss := isSome_eq_of_rel hs
    have hds := isSome_eq_of_rel hd
    have hsystem : (∀ a ∈ x.coordinateSystem, x.kind.AdmitsSystem a.kind) ↔
        ∀ b ∈ s, x.kind.AdmitsSystem b.kind :=
      forall_mem_iff_of_rel hs fun a b hab => by rw [hab.kind_eq]
    have hdatum : (∀ a ∈ x.datum, x.kind.AdmitsDatum a.kind) ↔
        ∀ b ∈ d, x.kind.AdmitsDatum b.kind :=
      forall_mem_iff_of_rel hd fun a b hab => by rw [hab.kind_eq]
    have hnames := forall_mem_iff_of_rel hs fun _ _ hab => hab.axisNames_iff
      (p := fun code direction => ∀ admitted ∈ knownAxisNames.lookup (uncapitalizeWords code),
        direction ∈ admitted)
    constructor
    · intro hx
      exact ⟨hi.conforms_iff.mp hx.identity, fun hk => hlength ▸ hx.components hk,
        by simpa only [hss, hds] using hx.attached, hsystem.mp hx.systemKind,
        hdatum.mp hx.datumKind, fun hk => hnames.mp (hx.axisNames hk)⟩
    · intro hy
      exact ⟨hi.conforms_iff.mpr hy.identity, fun hk => hlength ▸ hy.components hk,
        by simpa only [hss, hds] using hy.attached, hsystem.mpr hy.systemKind,
        hdatum.mpr hy.datumKind, fun hk => hnames.mpr (hy.axisNames hk)⟩

theorem Node.Reordered.conforms_iff {n m : Node} (h : n.Reordered m) :
    n.Conforms c ↔ m.Conforms c := by
  cases h with
  | crs h => exact h.conforms_iff
  | coordinateSystem h => exact h.conforms_iff
  | axis h => exact h.conforms_iff
  | datum h => exact h.conforms_iff
  | ellipsoid h => exact h.conforms_iff
  | primeMeridian h => exact h.conforms_iff
  | parameter h => exact h.conforms_iff
  | operation h => exact h.conforms_iff
  | method h => exact h.conforms_iff

end Conformity

/-! The stops of a validation come in another order, each of them reordered in turn. -/

inductive Stop.Reordered : Stop → Stop → Prop
  | object {n m : Node} : n.Reordered m → Reordered (.object n) (.object m)
  | missingAxis {index : Nat} : Reordered (.missingAxis index) (.missingAxis index)

theorem rel_coe_map {α β γ δ : Type} {r : α → β → Prop} {q : γ → δ → Prop} {f : α → γ} {g : β → δ}
    {xs : List α} {ys : List β} (h : Multiset.Rel r xs ys) (hq : ∀ a b, r a b → q (f a) (g b)) :
    Multiset.Rel q (xs.map f : List γ) (ys.map g : List δ) := by
  rw [← Multiset.map_coe, ← Multiset.map_coe]
  exact Multiset.rel_map.mpr (h.mono fun a _ b _ hab => hq a b hab)

theorem rel_getD_nil {α β : Type} {r : α → β → Prop} {x : Option (List α)} {y : Option (List β)}
    (h : Option.Rel (fun (xs : List α) (ys : List β) => Multiset.Rel r xs ys) x y) :
    Multiset.Rel r (x.getD [] : List α) (y.getD [] : List β) := by
  cases h with
  | none => exact .zero
  | some hxy => exact hxy

theorem rel_coe_append {α β : Type} {r : α → β → Prop} {xs xs' : List α} {ys ys' : List β}
    (h : Multiset.Rel r xs ys) (h' : Multiset.Rel r xs' ys') :
    Multiset.Rel r (xs ++ xs' : List α) (ys ++ ys' : List β) := by
  rw [← Multiset.coe_add, ← Multiset.coe_add]
  exact h.add h'

namespace Stop

theorem rel_ofOption {α : Type} {r : α → α → Prop} {node : α → Node} {x y : Option α}
    (h : Option.Rel r x y) (hr : ∀ a b, r a b → (node a).Reordered (node b)) :
    Multiset.Rel Reordered (ofOption x node) (ofOption y node) := by
  cases h with
  | none => exact .zero
  | some hab => exact .cons (.object (hr _ _ hab)) .zero

theorem reordered_ofAxis {x y : Option Axis} (h : Option.Rel Axis.Reordered x y) (index : Nat) :
    (ofAxis x index).Reordered (ofAxis y index) := by
  cases h with
  | none => exact .missingAxis
  | some hab => exact .object (.axis hab)

end Stop

theorem Crs.Reordered.rel_stops {x y : Crs} (h : x.Reordered y) :
    Multiset.Rel Stop.Reordered (Node.crs x).stops (Node.crs y).stops := by
  cases h with
  | @intro x i s d ys hi hs hd hys =>
    have hsystem := Stop.rel_ofOption hs fun _ _ => Node.Reordered.coordinateSystem
    by_cases hk : x.kind = .compound
    · simp only [Node.stops, hk, if_true]
      exact rel_coe_append (rel_coe_map hys fun _ _ hab => .object (.crs hab)) hsystem
    · simp only [Node.stops, hk, if_false]
      exact rel_coe_append hsystem (Stop.rel_ofOption hd fun _ _ => Node.Reordered.datum)

theorem CoordinateSystem.Reordered.rel_stops {x y : CoordinateSystem} (h : x.Reordered y) :
    Multiset.Rel Stop.Reordered (Node.coordinateSystem x).stops
      (Node.coordinateSystem y).stops := by
  simp only [Node.stops, h.dimension_eq]
  have hrange : Multiset.Rel (· = ·) (List.range x.dimension : Multiset Nat)
      (List.range x.dimension) := Multiset.rel_eq_refl
  apply rel_coe_map hrange
  rintro index _ rfl
  exact Stop.reordered_ofAxis (h.axis index) index

theorem Datum.Reordered.rel_stops {x y : Datum} (h : x.Reordered y) :
    Multiset.Rel Stop.Reordered (Node.datum x).stops (Node.datum y).stops := by
  obtain ⟨hi, he, hm⟩ := h
  by_cases hk : x.kind = .geodetic
  · simp only [Node.stops, hk, if_true]
    exact rel_coe_append (Stop.rel_ofOption he fun _ _ => Node.Reordered.ellipsoid)
      (Stop.rel_ofOption hm fun _ _ => Node.Reordered.primeMeridian)
  · simp only [Node.stops, hk, if_false]
    exact .zero

theorem Parameter.Reordered.rel_stops {x y : Parameter} (h : x.Reordered y) :
    Multiset.Rel Stop.Reordered (Node.parameter x).stops (Node.parameter y).stops := by
  cases h with
  | @intro x i members hi hmembers =>
    exact rel_coe_map (rel_getD_nil hmembers) fun _ _ hab => .object (.parameter hab)

theorem Operation.Reordered.rel_stops {x y : Operation} (h : x.Reordered y) :
    Multiset.Rel Stop.Reordered (Node.operation x).stops (Node.operation y).stops := by
  cases h with
  | @intro x i s t m ys hi hs ht hm hys =>
    have hsteps := rel_coe_map hys fun _ _ hab => Stop.Reordered.object (.operation hab)
    have hmethod := Stop.rel_ofOption hm fun _ _ => Node.Reordered.method
    have hsource := Stop.rel_ofOption hs fun _ _ => Node.Reordered.crs
    have htarget := Stop.rel_ofOption ht fun _ _ => Node.Reordered.crs
    simp only [Node.stops]
    refine rel_coe_append (rel_coe_append (rel_coe_append ?_ hmethod) hsource) htarget
    cases x.kind with
    | conversion => exact .zero
    | transformation => exact .zero
    | concatenated => exact hsteps
    | passThrough => exact hsteps

theorem Node.Reordered.rel_stops {n m : Node} (h : n.Reordered m) :
    Multiset.Rel Stop.Reordered n.stops m.stops := by
  cases h with
  | crs h => exact h.rel_stops
  | coordinateSystem h => exact h.rel_stops
  | axis h => exact .zero
  | datum h => exact h.rel_stops
  | ellipsoid h => exact .zero
  | primeMeridian h => exact .zero
  | parameter h => exact h.rel_stops
  | operation h => exact h.rel_stops
  | method h =>
    obtain ⟨-, hp⟩ := h
    exact Stop.rel_ofOption hp fun _ _ => Node.Reordered.parameter

namespace Node.Reordered

variable {n m k : Node}

theorem exists_refers (h : n.Reordered m) (hk : n.Refers k) : ∃ l, m.Refers l ∧ k.Reordered l := by
  have hmem : Stop.object k ∈ n.stops := object_mem_stops_iff.mpr hk
  obtain ⟨stop, hstop, hrel⟩ := Multiset.exists_mem_of_rel_of_mem h.rel_stops hmem
  cases hrel with
  | object hl => exact ⟨_, object_mem_stops_iff.mp hstop, hl⟩

theorem exists_refers_of_refers (h : n.Reordered m) (hk : m.Refers k) :
    ∃ l, n.Refers l ∧ l.Reordered k := by
  have hmem : Stop.object k ∈ m.stops := object_mem_stops_iff.mpr hk
  obtain ⟨stop, hstop, hrel⟩ :=
    Multiset.exists_mem_of_rel_of_mem (Multiset.rel_flip.mpr h.rel_stops) hmem
  cases hrel with
  | object hl => exact ⟨_, object_mem_stops_iff.mp hstop, hl⟩

end Node.Reordered

/-- By induction on the size of the first object; what it refers to is smaller. -/
theorem Node.Reordered.validate_succeeds_iff {c : Config} {n m : Node} (h : n.Reordered m) :
    (n.validate c).succeeds = true ↔ (m.validate c).succeeds = true := by
  rw [validate_succeeds_iff_refers, validate_succeeds_iff_refers (n := m), h.conforms_iff]
  constructor
  · rintro ⟨hown, hrefers⟩
    refine ⟨hown, fun k hk => ?_⟩
    obtain ⟨l, hl, hlk⟩ := h.exists_refers_of_refers hk
    have := sizeOf_lt_of_refers hl
    exact hlk.validate_succeeds_iff.mp (hrefers l hl)
  · rintro ⟨hown, hrefers⟩
    refine ⟨hown, fun k hk => ?_⟩
    obtain ⟨l, hl, hkl⟩ := h.exists_refers hk
    have := sizeOf_lt_of_refers hk
    exact hkl.validate_succeeds_iff.mpr (hrefers l hl)
termination_by sizeOf n

namespace Subject.Reordered

variable {c : Config} {x y : Subject}

theorem roles_eq (h : x.Reordered y) : y.roles = x.roles := by
  have hplays (r : Role) : y.plays r = x.plays r := by
    rw [← isSome_view, ← isSome_view]
    exact isSome_eq_of_rel (h.view r)
  simp only [roles, funext hplays]

theorem views_succeed_iff (h : x.Reordered y) :
    (∀ n ∈ x.views, (n.validate c).succeeds = true) ↔
      ∀ n ∈ y.views, (n.validate c).succeeds = true := by
  have hrole (r : Role) : (∀ n ∈ x.view r, (n.validate c).succeeds = true) ↔
      ∀ n ∈ y.view r, (n.validate c).succeeds = true :=
    forall_mem_iff_of_rel (h.view r) fun _ _ hnm => hnm.validate_succeeds_iff
  simp only [views, List.mem_filterMap, forall_exists_index, and_imp]
  constructor
  · intro hx n r hr hn
    exact (hrole r).mp (fun m hm => hx m r hr hm) n hn
  · intro hy n r hr hn
    exact (hrole r).mpr (fun m hm => hy m r hr hm) n hn

theorem identity_succeeds_iff (h : x.Reordered y) :
    ((Target.identity x.identity).validate c).succeeds = true ↔
      ((Target.identity y.identity).validate c).succeeds = true := by
  have haccepted := (validate_succeeds_iff_reached_conform c).2.1
  rw [haccepted, haccepted, h.identity.conforms_iff]

end Subject.Reordered

/-- Dispatch does not see the order of what has none: of two objects that are the same but for the
order of the identifiers, aliases, domains, components, steps and group members at any depth, it
accepts both or neither, with the same answer. -/
theorem dispatch_accepts_reordered {c : Config} {x y : Option Subject}
    (h : Option.Rel Subject.Reordered x y) (d : Dispatch) :
    (dispatch c x).result = .ok d ↔ (dispatch c y).result = .ok d := by
  cases h with
  | none => rfl
  | some h =>
    rw [dispatch_eq_ok_iff, dispatch_eq_ok_iff, h.roles_eq, h.identity_succeeds_iff,
      h.views_succeed_iff]

section Relay

def named (code : String) : Identity where
  name := some (.ofCode code)

def relayStep (aliases : List String) (parameters : List Parameter) : Operation where
  identity := { named "Shift" with aliases }
  kind := .conversion
  method := some {
    identity := named "Affine shift"
    formula := some "a x + b"
    parameters := some { identity := named "Coefficients", descriptors := some parameters } }

def relay (steps : List Operation) : Subject where
  identity := named "Relay"
  operation := some { identity := named "Relay", kind := .concatenated, steps }

theorem Identity.Reordered.refl (x : Identity) : x.Reordered x :=
  ⟨rfl, .refl _, .refl _, .refl _, rfl⟩

theorem rel_swap {α : Type} {r : α → α → Prop} {a a' b b' : α} (ha : r a a') (hb : r b b') :
    Multiset.Rel r ([a, b] : List α) ([b', a'] : List α) := by
  have hcoe : (([b', a'] : List α) : Multiset α) = ([a', b'] : List α) :=
    Multiset.coe_eq_coe.mpr (.swap a' b' [])
  rw [hcoe]
  exact .cons ha (.cons hb .zero)

def relayScale : Parameter where
  identity := named "Scale"

def relayOffset : Parameter where
  identity := named "Offset"

def relayThere : Subject :=
  relay [relayStep ["Move", "Slide"] [relayScale, relayOffset], relayStep [] []]

/-- The two steps the other way round, and in the first of them the two other names and the two
parameters. -/
def relayBack : Subject :=
  relay [relayStep [] [], relayStep ["Slide", "Move"] [relayOffset, relayScale]]

theorem dispatch_accepts_relay_reordered :
    Option.Rel Subject.Reordered (some relayThere) (some relayBack) ∧
      (dispatch {} (some relayThere)).result = .ok (.specialized [.coordinateOperation]) ∧
      (dispatch {} (some relayBack)).result = .ok (.specialized [.coordinateOperation]) := by
  have hparameters : Multiset.Rel Parameter.Reordered
      ([relayScale, relayOffset] : List Parameter) ([relayOffset, relayScale] : List Parameter) :=
    rel_swap (.intro (.refl _) .none) (.intro (.refl _) .none)
  have hnames : Identity.Reordered { named "Shift" with aliases := ["Move", "Slide"] }
      { named "Shift" with aliases := ["Slide", "Move"] } :=
    ⟨rfl, .refl _, .swap _ _ _, .refl _, rfl⟩
  have hlong : (relayStep ["Move", "Slide"] [relayScale, relayOffset]).Reordered
      (relayStep ["Slide", "Move"] [relayOffset, relayScale]) :=
    .intro hnames .none .none
      (.some (.intro (.refl _) (.some (.intro (.refl _) (.some hparameters))))) .zero
  have hshort : (relayStep [] []).Reordered (relayStep [] []) :=
    .intro (.refl _) .none .none
      (.some (.intro (.refl _) (.some (.intro (.refl _) (.some .zero))))) .zero
  have hview (r : Role) : Option.Rel Node.Reordered (relayThere.view r) (relayBack.view r) := by
    cases r with
    | coordinateOperation =>
      exact .some (.operation (.intro (.refl _) .none .none .none (rel_swap hlong hshort)))
    | _ => exact .none
  have hrelay : Option.Rel Subject.Reordered (some relayThere) (some relayBack) :=
    .some ⟨.refl _, hview⟩
  have hthere :
      (dispatch {} (some relayThere)).result = .ok (.specialized [.coordinateOperation]) := by
    decide +kernel
  exact ⟨hrelay, hthere, (dispatch_accepts_reordered hrelay _).mp hthere⟩

end Relay
end GeoConformance
