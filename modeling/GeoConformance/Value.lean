import GeoConformance.Vocabulary

/-! Structured values, in which referencing data is exchanged, and their decoding. Whole and
fractional number literals stay apart. A record is written as its named fields, and read from
those, whatever others there are, or from a list of all of them in order. -/
namespace GeoConformance

inductive Value
  | null
  | bool (b : Bool)
  | int (n : Int)
  | float (x : Float)
  | text (s : String)
  | list (items : List Value)
  | record (fields : List (String × Value))

/-- Values of a type as structured values. `missing?` is what a field left out stands for, if
leaving it out is allowed. -/
class Codec (α : Type) where
  encode : α → Value
  decode? : Value → Option α
  missing? : Option α := none

export Codec (encode decode?)

instance : Codec Bool where
  encode := .bool
  decode?
    | .bool b => some b
    | _ => none

instance : Codec String where
  encode := .text
  decode?
    | .text s => some s
    | _ => none

/-- Written as nothing when it is not finite; read from any number that is finite as a double. -/
instance : Codec Float where
  encode x := if x.isFinite then .float x else .null
  decode? v :=
    let x? :=
      match v with
      | .int n => some (Float.ofInt n)
      | .float x => some x
      | _ => none
    x?.filter (·.isFinite)

/-- Read from whole literals in range only. -/
instance : Codec UInt8 where
  encode n := .int n.toNat
  decode?
    | .int n => if 0 ≤ n ∧ n < 256 then some n.toNat.toUInt8 else none
    | _ => none

instance {α : Type} [Codec α] : Codec (Option α) where
  encode
    | none => .null
    | some a => encode a
  decode?
    | .null => some none
    | v => (decode? v).map some
  missing? := some none

/-- A term is written as its name, and read also from a record of just that name with nothing. -/
instance (priority := low) {α : Type} [Vocabulary α] : Codec α where
  encode a := .text (Vocabulary.name a)
  decode?
    | .text s => Vocabulary.named? s
    | .record [(s, .null)] => Vocabulary.named? s
    | _ => none

namespace Value

/-- The fields of a record by name, or of a list by position; none of them may be left out of a
list. -/
def fields? (names : List String) : Value → Option (List (Option Value))
  | record fields => some (names.map fun name => fields.lookup name)
  | list items => if items.length = names.length then some (items.map some) else none
  | _ => none

/-- As `fields?`, but a list may stop early. -/
def leadingFields? (names : List String) : Value → Option (List (Option Value))
  | record fields => some (names.map fun name => fields.lookup name)
  | list items =>
    if items.length ≤ names.length then
      some (items.map some ++ List.replicate (names.length - items.length) none)
    else none
  | _ => none

def field? {α : Type} [Codec α] : Option Value → Option α
  | none => Codec.missing?
  | some v => decode? v

def fieldOr? {α : Type} [Codec α] (fallback : α) : Option Value → Option α
  | none => some fallback
  | some v => decode? v

end Value
end GeoConformance
