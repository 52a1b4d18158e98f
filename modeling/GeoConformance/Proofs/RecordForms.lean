import Mathlib.Data.List.Forall2
import GeoConformance.Encoding

/-! Reading back what was written. A value whose doubles are all finite is read back as it was, from
the record that it is written as, from a list of its fields in order, and from a record with other
fields added and nothing where there would be null; a value with any other double is not read back
at all. A configuration takes what is left out from the default one. -/
namespace GeoConformance

mutual

/-- The second value says the same as the first: a record may have its fields listed in order, and
it may have others beside them. -/
inductive Value.Restates : Value → Value → Prop
  | same (v : Value) : Restates v v
  | inOrder {fields : List (String × Value)} {items : List Value} :
      List.Forall₂ (fun p w => Restates p.2 w) fields items →
      Restates (.record fields) (.list items)
  | loose {fields others : List (String × Value)} :
      (others.map (·.1)).Nodup → (∀ p ∈ fields, RestatesField p.2 (others.lookup p.1)) →
      Restates (.record fields) (.record others)

/-- A field that is null may be left out. -/
inductive Value.RestatesField : Value → Option Value → Prop
  | given {v w : Value} : Restates v w → RestatesField v (some w)
  | omitted : RestatesField .null none

end

open Value

namespace Value

theorem Restates.eq_of_flat {v w : Value} (h : Restates v w) (hv : ∀ fields, v ≠ .record fields) :
    w = v := by
  cases h with
  | same => rfl
  | inOrder => exact absurd rfl (hv _)
  | loose => exact absurd rfl (hv _)

theorem Restates.ne_null {v w : Value} (h : Restates v w) (hv : v ≠ .null) : w ≠ .null := by
  cases h with
  | same => exact hv
  | inOrder => simp
  | loose => simp

theorem map_lookup_zip {names : List String} {vals : List Value} (hn : names.Nodup)
    (hl : vals.length = names.length) :
    (names.map fun name => (names.zip vals).lookup name) = vals.map some := by
  induction names generalizing vals with
  | nil => simp [List.length_eq_zero_iff.mp hl]
  | cons name names ih =>
    obtain ⟨v, vals, rfl⟩ := List.exists_cons_of_length_eq_add_one hl
    obtain ⟨hfresh, hn⟩ := List.nodup_cons.mp hn
    have hrest : ∀ other ∈ names,
        ((name :: names).zip (v :: vals)).lookup other = (names.zip vals).lookup other := by
      intro other hother
      have hne : (other == name) = false := by
        simp only [beq_eq_false_iff_ne]
        rintro rfl
        exact hfresh hother
      simp [List.lookup_cons, hne]
    simp only [List.map_cons, List.map_congr_left hrest, ih hn (by simpa using hl)]
    simp

section Fields

variable {names : List String} {vals : List Value} {w : Value}

theorem fields?_record_zip (hn : names.Nodup) (hl : vals.length = names.length) :
    fields? names (.record (names.zip vals)) = some (vals.map some) := by
  simp only [fields?, map_lookup_zip hn hl]

theorem Restates.fields? (hn : names.Nodup) (hl : vals.length = names.length)
    (h : Restates (.record (names.zip vals)) w) :
    ∃ given, w.fields? names = some given ∧ List.Forall₂ RestatesField vals given := by
  have hnames : (names.zip vals).map Prod.fst = names := List.map_fst_zip (by omega)
  have hvals : (names.zip vals).map Prod.snd = vals := List.map_snd_zip (by omega)
  generalize hv : Value.record (names.zip vals) = v at h
  cases h with
  | same =>
    subst hv
    refine ⟨_, fields?_record_zip hn hl, ?_⟩
    simp [List.forall₂_map_right_iff, List.forall₂_same, RestatesField.given, Restates.same]
  | @inOrder _ items hitems =>
    obtain rfl := Value.record.inj hv
    have hlength : items.length = names.length := by
      rw [← hitems.length_eq, ← hnames, List.length_map, hnames]
    have hgiven : List.Forall₂ RestatesField ((names.zip vals).map Prod.snd) (items.map some) := by
      simp only [List.forall₂_map_left_iff, List.forall₂_map_right_iff]
      exact hitems.imp fun _ _ => .given
    exact ⟨items.map some, by simp [Value.fields?, hlength], hvals ▸ hgiven⟩
  | @loose _ others _ hfields =>
    obtain rfl := Value.record.inj hv
    have hgiven : List.Forall₂ RestatesField ((names.zip vals).map Prod.snd)
        (((names.zip vals).map Prod.fst).map fun name => others.lookup name) := by
      simpa only [List.forall₂_map_left_iff, List.forall₂_map_right_iff, List.forall₂_same]
        using hfields
    rw [hvals, hnames] at hgiven
    exact ⟨names.map fun name => others.lookup name, rfl, hgiven⟩

/-- Where all fields may be left out at the end, none has to be. -/
theorem leadingFields?_of_fields? {given : List (Option Value)} (h : w.fields? names = some given) :
    w.leadingFields? names = some given := by
  cases w with
  | record fields => exact h
  | list items =>
    simp only [Value.fields?, Option.ite_none_right_eq_some] at h
    simp [leadingFields?, h.1, ← h.2]
  | _ => simp [Value.fields?] at h

end Fields

end Value

class Doubles (α : Type) where
  doubles : α → List Float

export Doubles (doubles)

instance : Doubles Float := ⟨fun x => [x]⟩
instance : Doubles Bool := ⟨fun _ => []⟩
instance : Doubles String := ⟨fun _ => []⟩
instance : Doubles UInt8 := ⟨fun _ => []⟩
instance : Doubles Category := ⟨fun _ => []⟩
instance {α : Type} [Doubles α] : Doubles (Option α) := ⟨fun x => x.toList.flatMap doubles⟩
instance : Doubles Identifier := ⟨fun _ => []⟩
instance : Doubles Orientation := ⟨fun _ => []⟩
instance : Doubles GeographicBoundingBox := ⟨fun x => [x.west, x.east, x.south, x.north]⟩
instance : Doubles Extent := ⟨fun x => doubles x.boundingBox⟩
instance : Doubles ObjectDomain := ⟨fun x => doubles x.validity⟩
instance : Doubles Config := ⟨fun x => [x.ellipsoidTolerance]⟩

def AllFinite {α : Type} [Doubles α] (a : α) : Prop :=
  ∀ x ∈ doubles a, x.isFinite = true

@[simp] theorem allFinite_none {α : Type} [Doubles α] : AllFinite (none : Option α) := by
  simp [AllFinite, doubles]

@[simp] theorem allFinite_some {α : Type} [Doubles α] {a : α} :
    AllFinite (some a) ↔ AllFinite a := by
  simp [AllFinite, doubles]

/-- What is written is read back from all its forms when the doubles in it are finite, and only
then; and nothing with another double is read from anything. -/
class Restored (α : Type) [Codec α] [Doubles α] : Prop where
  decode?_of_restates : ∀ {a : α} {w : Value},
    AllFinite a → Restates (encode a) w → decode? w = some a
  missing?_of_null : ∀ {a : α}, AllFinite a → encode a = .null → Codec.missing? = some a
  allFinite_of_encode : ∀ {a b : α}, decode? (encode a) = some b → AllFinite a
  allFinite_of_decode? : ∀ {v : Value} {a : α}, decode? v = some a → AllFinite a
  allFinite_of_missing? : ∀ {a : α}, Codec.missing? = some a → AllFinite a

open Restored

section Field

variable {α : Type} [Codec α] [Doubles α] [Restored α] {a : α} {w : Option Value}

theorem field?_of_restates (ha : AllFinite a) (h : RestatesField (encode a) w) :
    field? w = some a := by
  generalize hv : encode a = v at h
  cases h with
  | given h => exact decode?_of_restates ha (hv ▸ h)
  | omitted => exact missing?_of_null ha hv

theorem allFinite_of_field? (h : field? w = some a) : AllFinite a := by
  cases w with
  | none => exact allFinite_of_missing? h
  | some v => exact allFinite_of_decode? h

end Field

section Flat

variable {α : Type} [Codec α] [Doubles α]

theorem Restored.flat (hfinite : ∀ a : α, AllFinite a) (hnull : ∀ a : α, encode a ≠ .null)
    (hflat : ∀ (a : α) fields, encode a ≠ .record fields)
    (hread : ∀ a : α, decode? (encode a) = some a) (hmissing : @Codec.missing? α _ = none) :
    Restored α where
  decode?_of_restates {a w} _ h := by rw [h.eq_of_flat (hflat a), hread]
  missing?_of_null {a} _ h := absurd h (hnull a)
  allFinite_of_encode _ := hfinite _
  allFinite_of_decode? _ := hfinite _
  allFinite_of_missing? h := by simp [hmissing] at h

omit [Doubles α] in
theorem decode?_option {v : Value} (hv : v ≠ .null) :
    (decode? v : Option (Option α)) = (decode? v).map some := by
  cases v <;> first | exact absurd rfl hv | rfl

/-- Nothing is told from something by what is written. -/
theorem Restored.option [Restored α] (hnull : ∀ a : α, encode a ≠ .null) :
    Restored (Option α) where
  decode?_of_restates {x w} hx h := by
    cases x with
    | none =>
      rw [h.eq_of_flat (by simp [encode])]
      rfl
    | some a =>
      rw [decode?_option (h.ne_null (hnull a)), decode?_of_restates (allFinite_some.mp hx) h,
        Option.map_some]
  missing?_of_null {x} _ h := by
    cases x with
    | none => rfl
    | some a => exact absurd h (hnull a)
  allFinite_of_encode {x y} h := by
    cases x with
    | none => exact allFinite_none
    | some a =>
      rw [show encode (some a) = encode a from rfl, decode?_option (hnull a)] at h
      obtain ⟨b, hb, -⟩ := Option.map_eq_some_iff.mp h
      exact allFinite_some.mpr (allFinite_of_encode hb)
  allFinite_of_decode? {v x} h := by
    by_cases hv : v = .null
    · subst hv
      obtain rfl := Option.some.inj h
      exact allFinite_none
    · rw [decode?_option hv] at h
      obtain ⟨b, hb, rfl⟩ := Option.map_eq_some_iff.mp h
      exact allFinite_some.mpr (allFinite_of_decode? hb)
  allFinite_of_missing? {x} h := by
    obtain rfl := Option.some.inj h
    exact allFinite_none

end Flat

instance : Restored Bool :=
  .flat (by simp [AllFinite, doubles]) (by simp [encode]) (by simp [encode]) (fun _ => rfl) rfl

instance : Restored String :=
  .flat (by simp [AllFinite, doubles]) (by simp [encode]) (by simp [encode]) (fun _ => rfl) rfl

instance : Restored (Option String) :=
  .option (by simp [encode])

instance : Restored Category :=
  .flat (by simp [AllFinite, doubles]) (by simp [encode]) (by simp [encode])
    Vocabulary.named?_name rfl

theorem decode?_encode_position (n : UInt8) : decode? (encode n) = some n := by
  have hn : (0 : Int) ≤ n.toNat ∧ (n.toNat : Int) < 256 := by
    have := n.toNat_lt
    omega
  simp only [encode, decode?, if_pos hn]
  simp

instance : Restored UInt8 :=
  .flat (by simp [AllFinite, doubles]) (by simp [encode]) (by simp [encode])
    decode?_encode_position rfl

theorem allFinite_double {x : Float} : AllFinite x ↔ x.isFinite = true := by
  simp [AllFinite, doubles]

instance : Restored Float where
  decode?_of_restates {x w} hx h := by
    rw [allFinite_double] at hx
    rw [h.eq_of_flat (by simp [encode, hx])]
    simp [encode, decode?, hx]
  missing?_of_null hx h := by
    rw [allFinite_double] at hx
    simp [encode, hx] at h
  allFinite_of_encode {x y} h := by
    rw [allFinite_double]
    -- What is not finite is written as nothing, and no double is read from that.
    by_contra hx
    simp [encode, decode?, hx] at h
  allFinite_of_decode? {v x} h := by
    rw [allFinite_double]
    exact (Option.filter_eq_some_iff.mp h).2
  allFinite_of_missing? h := by simp [Codec.missing?] at h

/-! Records. -/

structure RecordField (γ : Type) where
  {type : Type}
  [codec : Codec type]
  [doubles : Doubles type]
  [restored : Restored type]
  get : γ → type

attribute [instance] RecordField.codec RecordField.doubles RecordField.restored

namespace RecordField

variable {γ : Type}

def IsRead (p : RecordField γ) (w : Option Value) (x : γ) : Prop :=
  field? w = some (p.get x)

section Reading

variable {given? : Option (List (Option Value))} {x : γ}

theorem reads_two (p q : RecordField γ) (make : p.type → q.type → γ)
    (hget : ∀ a b, p.get (make a b) = a ∧ q.get (make a b) = b)
    (hmake : make (p.get x) (q.get x) = x) :
    (do
      let [a, b] ← given? | none
      return make (← field? a) (← field? b)) = some x ↔
      ∃ given, given? = some given ∧ List.Forall₂ (fun p w => p.IsRead w x) [p, q] given := by
  constructor
  · intro h
    obtain ⟨given, hgiven, h⟩ := Option.bind_eq_some_iff.mp h
    split at h
    · simp only [bind, Option.bind_eq_some_iff, pure, Option.some.injEq] at h
      obtain ⟨a, ha, b, hb, rfl⟩ := h
      obtain ⟨hp, hq⟩ := hget a b
      exact ⟨_, hgiven, by simp [IsRead, ha, hb, hp, hq]⟩
    · cases h
  · rintro ⟨given, rfl, _ | ⟨ha, _ | ⟨hb, _ | _⟩⟩⟩
    rw [IsRead] at ha hb
    simp [ha, hb, hmake]

theorem reads_four (p q r s : RecordField γ) (make : p.type → q.type → r.type → s.type → γ)
    (hget : ∀ a b c d, p.get (make a b c d) = a ∧ q.get (make a b c d) = b ∧
      r.get (make a b c d) = c ∧ s.get (make a b c d) = d)
    (hmake : make (p.get x) (q.get x) (r.get x) (s.get x) = x) :
    (do
      let [a, b, c, d] ← given? | none
      return make (← field? a) (← field? b) (← field? c) (← field? d)) = some x ↔
      ∃ given, given? = some given ∧
        List.Forall₂ (fun p w => p.IsRead w x) [p, q, r, s] given := by
  constructor
  · intro h
    obtain ⟨given, hgiven, h⟩ := Option.bind_eq_some_iff.mp h
    split at h
    · simp only [bind, Option.bind_eq_some_iff, pure, Option.some.injEq] at h
      obtain ⟨a, ha, b, hb, c, hc, d, hd, rfl⟩ := h
      obtain ⟨hp, hq, hr, hs⟩ := hget a b c d
      exact ⟨_, hgiven, by simp [IsRead, ha, hb, hc, hd, hp, hq, hr, hs]⟩
    · cases h
  · rintro ⟨given, rfl, _ | ⟨ha, _ | ⟨hb, _ | ⟨hc, _ | ⟨hd, _ | _⟩⟩⟩⟩⟩
    rw [IsRead] at ha hb hc hd
    simp [ha, hb, hc, hd, hmake]

end Reading

end RecordField

/-- A record is restored once its fields are, if it is read from these and has no doubles but those
in them. -/
theorem Restored.record {γ : Type} [Codec γ] [Doubles γ] {names : List String}
    {fields : List (RecordField γ)}
    (hdecode : ∀ {v : Value} {x : γ}, decode? v = some x ↔ ∃ given,
      v.fields? names = some given ∧ List.Forall₂ (fun p w => p.IsRead w x) fields given)
    (hencode : ∀ x : γ, encode x = .record (names.zip (fields.map fun p => encode (p.get x))))
    (hnames : names.Nodup) (hlength : fields.length = names.length)
    (hfinite : ∀ {x : γ}, AllFinite x ↔ ∀ p ∈ fields, AllFinite (p.get x))
    (hmissing : @Codec.missing? γ _ = none) : Restored γ where
  decode?_of_restates {x w} hx h := by
    rw [hencode] at h
    obtain ⟨given, hgiven, hfields⟩ := h.fields? hnames (by rwa [List.length_map])
    rw [List.forall₂_map_left_iff] at hfields
    refine hdecode.mpr ⟨given, hgiven, ?_⟩
    exact ((List.forall₂_and_left ..).mpr ⟨hfinite.mp hx, hfields⟩).imp
      fun _ _ h => field?_of_restates h.1 h.2
  missing?_of_null {x} _ h := by
    rw [hencode] at h
    cases h
  allFinite_of_encode {x y} h := by
    obtain ⟨given, hgiven, hread⟩ := hdecode.mp h
    rw [hencode, fields?_record_zip hnames (by rwa [List.length_map])] at hgiven
    obtain rfl := Option.some.inj hgiven
    simp only [List.forall₂_map_right_iff, List.forall₂_same] at hread
    exact hfinite.mpr fun p hp => allFinite_of_encode (hread p hp)
  allFinite_of_decode? {v x} h := by
    obtain ⟨given, -, hread⟩ := hdecode.mp h
    have hfields := hread.imp fun p w h => And.intro (allFinite_of_field? h) h
    exact hfinite.mpr ((List.forall₂_and_left ..).mp hfields).1
  allFinite_of_missing? h := by simp [hmissing] at h

instance : Restored Identifier :=
  .record (RecordField.reads_four ⟨(·.code)⟩ ⟨(·.codeSpace)⟩ ⟨(·.version)⟩ ⟨(·.description)⟩
      Identifier.mk (fun _ _ _ _ => ⟨rfl, rfl, rfl, rfl⟩) rfl)
    (fun _ => rfl) (by decide) rfl (by simp [AllFinite, doubles]) rfl

instance : Restored Orientation :=
  .record (RecordField.reads_two ⟨(·.category)⟩ ⟨(·.position)⟩
      Orientation.mk (fun _ _ => ⟨rfl, rfl⟩) rfl)
    (fun _ => rfl) (by decide) rfl (by simp [AllFinite, doubles]) rfl

instance : Restored GeographicBoundingBox :=
  .record (RecordField.reads_four ⟨(·.west)⟩ ⟨(·.east)⟩ ⟨(·.south)⟩ ⟨(·.north)⟩
      GeographicBoundingBox.mk (fun _ _ _ _ => ⟨rfl, rfl, rfl, rfl⟩) rfl)
    (fun _ => rfl) (by decide) rfl (by simp [AllFinite, doubles]) rfl

instance : Restored (Option GeographicBoundingBox) :=
  .option (by simp [encode])

instance : Restored Extent :=
  .record (RecordField.reads_two ⟨(·.description)⟩ ⟨(·.boundingBox)⟩
      Extent.mk (fun _ _ => ⟨rfl, rfl⟩) rfl)
    (fun _ => rfl) (by decide) rfl (by simp [AllFinite, doubles]) rfl

instance : Restored (Option Extent) :=
  .option (by simp [encode])

instance : Restored ObjectDomain :=
  .record (RecordField.reads_two ⟨(·.scope)⟩ ⟨(·.validity)⟩
      ObjectDomain.mk (fun _ _ => ⟨rfl, rfl⟩) rfl)
    (fun _ => rfl) (by decide) rfl (by simp [AllFinite, doubles]) rfl

/-! Configurations. -/

@[simp] theorem allFinite_flag (b : Bool) : AllFinite b := by
  simp [AllFinite, doubles]

theorem allFinite_config {x : Config} : AllFinite x ↔ AllFinite x.ellipsoidTolerance :=
  Iff.rfl

theorem fieldOr?_of_restates {α : Type} [Codec α] [Doubles α] [Restored α] {a usual : α}
    {w : Option Value} (hmissing : @Codec.missing? α _ = none) (ha : AllFinite a)
    (h : RestatesField (encode a) w) : fieldOr? usual w = some a := by
  generalize hv : encode a = v at h
  cases h with
  | given h => exact decode?_of_restates ha (hv ▸ h)
  | omitted => simp [missing?_of_null ha hv] at hmissing

namespace Config

theorem decode?_eq_some_iff {v : Value} {x : Config} :
    decode? v = some x ↔ ∃ mandatory forbidden tolerance,
      v.leadingFields? fieldNames = some [mandatory, forbidden, tolerance] ∧
      fieldOr? ({} : Config).requireMandatory mandatory = some x.requireMandatory ∧
      fieldOr? ({} : Config).enforceForbidden forbidden = some x.enforceForbidden ∧
      fieldOr? ({} : Config).ellipsoidTolerance tolerance = some x.ellipsoidTolerance := by
  constructor
  · intro h
    obtain ⟨given, hgiven, h⟩ := Option.bind_eq_some_iff.mp h
    split at h
    · simp only [bind, Option.bind_eq_some_iff, pure, Option.some.injEq] at h
      obtain ⟨_, h₁, _, h₂, _, h₃, rfl⟩ := h
      exact ⟨_, _, _, hgiven, h₁, h₂, h₃⟩
    · simp at h
  · rintro ⟨mandatory, forbidden, tolerance, h, h₁, h₂, h₃⟩
    simp [decode?, h, h₁, h₂, h₃]

theorem tolerance_default_finite : ({} : Config).ellipsoidTolerance.isFinite = true := by
  decide +kernel

theorem allFinite_of_decode?_tolerance {x : Float} {w : Option Value}
    (h : fieldOr? ({} : Config).ellipsoidTolerance w = some x) : AllFinite x := by
  cases w with
  | none =>
    obtain rfl := Option.some.inj h
    exact allFinite_double.mpr tolerance_default_finite
  | some v => exact allFinite_of_decode? h

end Config

instance : Restored Config where
  decode?_of_restates {x w} hx h := by
    obtain ⟨given, hgiven, hfields⟩ := h.fields? (by decide) rfl
    obtain _ | ⟨h₁, _ | ⟨h₂, _ | ⟨h₃, _ | _⟩⟩⟩ := hfields
    exact Config.decode?_eq_some_iff.mpr ⟨_, _, _, leadingFields?_of_fields? hgiven,
      fieldOr?_of_restates rfl (by simp) h₁, fieldOr?_of_restates rfl (by simp) h₂,
      fieldOr?_of_restates rfl (allFinite_config.mp hx) h₃⟩
  missing?_of_null _ h := by simp [encode] at h
  allFinite_of_encode {x y} h := by
    obtain ⟨_, _, _, hgiven, -, -, h₃⟩ := Config.decode?_eq_some_iff.mp h
    have hwritten : (encode x).leadingFields? Config.fieldNames = _ :=
      leadingFields?_of_fields? (fields?_record_zip (by decide) rfl)
    obtain ⟨rfl, rfl, rfl⟩ : _ ∧ _ ∧ _ := by simpa using hwritten.symm.trans hgiven
    exact allFinite_config.mpr (allFinite_of_encode h₃)
  allFinite_of_decode? {v x} h := by
    obtain ⟨_, _, _, -, -, -, h₃⟩ := Config.decode?_eq_some_iff.mp h
    exact allFinite_config.mpr (Config.allFinite_of_decode?_tolerance h₃)
  allFinite_of_missing? h := by simp [Codec.missing?] at h

/-- It is read as this value when all doubles in the value are finite, and not at all otherwise. -/
def Value.Reads {α : Type} [Codec α] [Doubles α] (v : Value) (a : α) : Prop :=
  (AllFinite a → decode? v = some a) ∧ (¬ AllFinite a → (decode? v : Option α) = none)

section Reads

variable {α : Type} [Codec α] [Doubles α]

theorem Value.reads_of_forall {v : Value} {a : α} (hread : AllFinite a → decode? v = some a)
    (hfinite : ∀ b : α, decode? v = some b → AllFinite a) : v.Reads a := by
  refine ⟨hread, fun ha => ?_⟩
  cases h : (decode? v : Option α) with
  | none => rfl
  | some b => exact absurd (hfinite b h) ha

theorem Restored.reads_encode [Restored α] (a : α) : (encode a).Reads a :=
  reads_of_forall (fun ha => decode?_of_restates ha (.same _)) fun _ => allFinite_of_encode

end Reads

namespace Config

/-- The configuration with the fields that are not given as they are by default. -/
def givenOnly (c : Config) (given : String → Bool) : Config where
  requireMandatory :=
    if given "require_mandatory_attributes" then c.requireMandatory
    else ({} : Config).requireMandatory
  enforceForbidden :=
    if given "enforce_forbidden_attributes" then c.enforceForbidden
    else ({} : Config).enforceForbidden
  ellipsoidTolerance :=
    if given "ellipsoid_tolerance" then c.ellipsoidTolerance
    else ({} : Config).ellipsoidTolerance

def writtenIf {α : Type} [Codec α] (given : Bool) (a : α) : Option Value :=
  if given then some (encode a) else none

theorem fieldOr?_writtenIf {α : Type} [Codec α] [Doubles α] [Restored α] {given : Bool}
    {a usual : α} (ha : AllFinite (if given then a else usual)) :
    fieldOr? usual (writtenIf given a) = some (if given then a else usual) := by
  cases given with
  | false => rfl
  | true => exact decode?_of_restates ha (.same _)

theorem reads_givenOnly {v : Value} {c : Config} {given : String → Bool}
    (h : v.leadingFields? fieldNames = some
      [writtenIf (given "require_mandatory_attributes") c.requireMandatory,
        writtenIf (given "enforce_forbidden_attributes") c.enforceForbidden,
        writtenIf (given "ellipsoid_tolerance") c.ellipsoidTolerance]) :
    v.Reads (c.givenOnly given) := by
  refine reads_of_forall (fun hfinite => ?_) fun b hb => ?_
  · exact decode?_eq_some_iff.mpr ⟨_, _, _, h, fieldOr?_writtenIf (by simp),
      fieldOr?_writtenIf (by simp), fieldOr?_writtenIf (allFinite_config.mp hfinite)⟩
  · obtain ⟨_, _, _, hgiven, -, -, htolerance⟩ := decode?_eq_some_iff.mp hb
    obtain ⟨rfl, rfl, rfl⟩ : _ ∧ _ ∧ _ := by simpa using h.symm.trans hgiven
    rw [allFinite_config, givenOnly]
    cases hg : given "ellipsoid_tolerance" with
    | false => simpa using allFinite_double.mpr tolerance_default_finite
    | true =>
      rw [hg] at htolerance
      exact allFinite_of_encode htolerance

theorem reads_record {c : Config} {given : String → Bool} {fields others : List (String × Value)}
    (hc : encode c = .record fields)
    (h : ∀ p ∈ fields, others.lookup p.1 = if given p.1 then some p.2 else none) :
    (Value.record others).Reads (c.givenOnly given) := by
  obtain rfl := Value.record.inj hc
  apply reads_givenOnly
  simp only [fieldNames, List.zip_cons_cons, List.forall_mem_cons] at h
  simp [leadingFields?, fieldNames, h, writtenIf]

/-- Nothing in place of a double is not the same as no field. -/
example : (decode? (.record [("ellipsoid_tolerance", .null)]) : Option Config) = none := rfl

theorem reads_list (c : Config) (n : ℕ) {fields : List (String × Value)}
    (hc : encode c = .record fields) :
    (Value.list ((fields.take n).map (·.2))).Reads
      (c.givenOnly fun name => decide (name ∈ fieldNames.take n)) := by
  obtain rfl := Value.record.inj hc
  apply reads_givenOnly
  match n with
  | 0 => rfl
  | 1 => rfl
  | 2 => rfl
  | n + 3 =>
    simp only [List.take_of_length_le (show fieldNames.length ≤ n + 3 by simp [fieldNames])]
    rw [List.take_of_length_le (by simp [fieldNames])]
    rfl

end Config

/-- The values of a type are written as records with fields of these names in this order, and are
read back from them. -/
structure ReadBack (α : Type) [Codec α] [Doubles α] (names : List String) : Prop where
  encode_eq_record (a : α) :
    ∃ vals, vals.length = names.length ∧ encode a = .record (names.zip vals)
  reads_encode (a : α) : (encode a).Reads a
  encode_of_decode? {v : Value} {a : α} (h : decode? v = some a) :
    decode? (encode a) = some a ∧ (decode? (encode a) : Option α).map encode = some (encode a)
  decode?_of_restates {a : α} {w : Value} (ha : AllFinite a) (h : Restates (encode a) w) :
    decode? w = some a

theorem Restored.readBack (α : Type) [Codec α] [Doubles α] [Restored α] {names : List String}
    (hencode : ∀ a : α, ∃ vals, vals.length = names.length ∧ encode a = .record (names.zip vals)) :
    ReadBack α names where
  encode_eq_record := hencode
  reads_encode := reads_encode
  encode_of_decode? h := by
    have hread := (reads_encode _).1 (allFinite_of_decode? h)
    exact ⟨hread, by rw [hread, Option.map_some]⟩
  decode?_of_restates := decode?_of_restates

/-- Metadata, orientations and configurations are read back from what they are written as, in all
its forms, and a configuration also without any of its fields or without the last ones. -/
theorem records_read_back_in_all_forms :
    ReadBack Identifier Identifier.fieldNames ∧
    ReadBack ObjectDomain ObjectDomain.fieldNames ∧
    ReadBack Extent Extent.fieldNames ∧
    ReadBack GeographicBoundingBox GeographicBoundingBox.fieldNames ∧
    ReadBack Orientation Orientation.fieldNames ∧
    ReadBack Config Config.fieldNames ∧
    ∀ (c : Config) (fields : List (String × Value)), encode c = .record fields →
      (∀ (given : String → Bool) (others : List (String × Value)), (others.map (·.1)).Nodup →
        (∀ p ∈ fields, others.lookup p.1 = if given p.1 then some p.2 else none) →
        (Value.record others).Reads (c.givenOnly given)) ∧
      ∀ n : ℕ, (Value.list ((fields.take n).map (·.2))).Reads
        (c.givenOnly fun name => decide (name ∈ Config.fieldNames.take n)) := by
  refine ⟨?_, ?_, ?_, ?_, ?_, ?_, fun c fields hc => ⟨fun given others _ h => ?_, fun n => ?_⟩⟩
  · exact Restored.readBack Identifier fun _ => ⟨[_, _, _, _], rfl, rfl⟩
  · exact Restored.readBack ObjectDomain fun _ => ⟨[_, _], rfl, rfl⟩
  · exact Restored.readBack Extent fun _ => ⟨[_, _], rfl, rfl⟩
  · exact Restored.readBack GeographicBoundingBox fun _ => ⟨[_, _, _, _], rfl, rfl⟩
  · exact Restored.readBack Orientation fun _ => ⟨[_, _], rfl, rfl⟩
  · exact Restored.readBack Config fun _ => ⟨[_, _, _], rfl, rfl⟩
  · exact Config.reads_record hc h
  · exact Config.reads_list c n hc

end GeoConformance
