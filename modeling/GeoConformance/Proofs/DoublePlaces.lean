import Mathlib

/-! The doubles in a line. A significand and an exponent, as a double has them, give a place among
all doubles, and comparison of doubles is comparison of places. Bits that are packed from such a
significand and exponent unpack to them; an exponent that is too large becomes an infinity. -/
namespace GeoConformance
namespace Double

open Float.Model (UnpackedFloat Format)
open Float.Model.UnpackedFloat (Sign packComponents unpackExponent unpackExponent_packComponents
  unpackMantissa unpackMantissa_packComponents unpackSign)

/-- A significand of 53 bits and its exponent. The leading bit can be missing at the least exponent
only, and there is no bound above on the exponent. -/
structure Canonical (m : Nat) (e : Int) : Prop where
  lt : m < 2 ^ 53
  least_le : -1074 ≤ e
  normal : 2 ^ 52 ≤ m ∨ e = -1074

/-- How many doubles there are from zero up to `m * 2 ^ e`. -/
def place (m : Nat) (e : Int) : Nat :=
  (e + 1074).toNat * 2 ^ 52 + m

def infinitePlace : Nat := 2047 * 2 ^ 52

namespace Canonical

variable {m n : Nat} {d e : Int}

theorem place_le_iff (h : Canonical m d) (k : Canonical n e) :
    place m d ≤ place n e ↔ d < e ∨ d = e ∧ m ≤ n := by
  obtain ⟨hm, hd, hm'⟩ := h
  obtain ⟨hn, he, hn'⟩ := k
  unfold place
  omega

theorem place_lt_iff (h : Canonical m e) : place m e < infinitePlace ↔ e ≤ 971 := by
  obtain ⟨hm, he, hm'⟩ := h
  unfold place infinitePlace
  omega

end Canonical

/-- The place of a double, below zero for negative ones; none for what is not a number. -/
def ordinal : UnpackedFloat → Option Int
  | .notANumber => none
  | .infinity s => some (s.apply infinitePlace)
  | .zero _ => some 0
  | .finite s m e _ => some (s.apply (place m e))

def Fits : UnpackedFloat → Prop
  | .finite _ m e _ => Canonical m e ∧ e ≤ 971
  | _ => True

section Comparison

variable {m n : Nat} {d e : Int}

theorem compare_isLE_iff :
    ((compare d e).then (compare m n)).isLE = true ↔ d < e ∨ d = e ∧ m ≤ n := by
  rw [Ordering.isLE_then_iff_or]
  simp only [Int.compare_eq_lt, Nat.isLE_compare, Int.compare_eq_eq]

theorem swap_compare_isLE_iff :
    ((compare d e).then (compare m n)).swap.isLE = true ↔ e < d ∨ e = d ∧ n ≤ m := by
  rw [Ordering.swap_then, Int.compare_swap, Nat.compare_swap, compare_isLE_iff]

theorem place_pos (hm : 0 < m) : 0 < place m e := by
  unfold place
  omega

theorem finite_le_iff {s t : Sign} {hm : 0 < m} {hn : 0 < n}
    (ha : Fits (.finite s m d hm)) (hb : Fits (.finite t n e hn)) :
    (UnpackedFloat.finite s m d hm).le (.finite t n e hn) = true ↔
      s.apply (place m d) ≤ t.apply (place n e) := by
  have hle := ha.1.place_le_iff hb.1
  have hge := hb.1.place_le_iff ha.1
  have hp : 0 < place m d := place_pos hm
  have hq : 0 < place n e := place_pos hn
  cases s with
  | negative =>
    cases t with
    | negative =>
      simp only [UnpackedFloat.le, UnpackedFloat.compare, Option.any_some, Sign.apply,
        swap_compare_isLE_iff, ← hge, Int.neg_le_neg_iff, Int.ofNat_le]
    | positive =>
      simp only [UnpackedFloat.le, UnpackedFloat.compare, Option.any_some, Sign.apply,
        Ordering.isLE_lt, true_iff]
      omega
  | positive =>
    cases t with
    | negative =>
      simp only [UnpackedFloat.le, UnpackedFloat.compare, Option.any_some, Sign.apply,
        Ordering.isLE_gt, Bool.false_eq_true, false_iff, Int.not_le]
      omega
    | positive =>
      simp only [UnpackedFloat.le, UnpackedFloat.compare, Option.any_some, Sign.apply,
        compare_isLE_iff, ← hle, Int.ofNat_le]

theorem apply_place_bounds {s : Sign} {hm : 0 < m} (h : Fits (.finite s m e hm)) :
    -(infinitePlace : Int) < s.apply (place m e) ∧ s.apply (place m e) < infinitePlace := by
  have hlt := h.1.place_lt_iff.mpr h.2
  cases s <;> simp only [Sign.apply] <;> omega

/-- Comparison of doubles is comparison of their places. -/
theorem le_iff {a b : UnpackedFloat} (ha : Fits a) (hb : Fits b) :
    a.le b = true ↔ ∃ i ∈ ordinal a, ∃ j ∈ ordinal b, i ≤ j := by
  have hinf : infinitePlace ≠ 0 := by decide
  cases a with
  | notANumber => simp [UnpackedFloat.le, UnpackedFloat.compare, ordinal]
  | infinity s =>
    cases b with
    | notANumber => cases s <;> simp [UnpackedFloat.le, UnpackedFloat.compare, ordinal]
    | infinity t => cases s <;> cases t <;> simp [ordinal] <;> decide
    | zero t =>
      cases s <;> simp [UnpackedFloat.le, UnpackedFloat.compare, ordinal, Sign.apply, hinf]
    | finite t n e hn =>
      have hbounds := apply_place_bounds hb
      cases s <;> simp [UnpackedFloat.le, UnpackedFloat.compare, ordinal] <;>
        simp only [Sign.apply] at hbounds ⊢ <;> omega
  | zero s =>
    cases b with
    | notANumber => simp [UnpackedFloat.le, UnpackedFloat.compare, ordinal]
    | infinity t =>
      cases t <;> simp [UnpackedFloat.le, UnpackedFloat.compare, ordinal, Sign.apply, hinf]
    | zero t => simp [UnpackedFloat.le, UnpackedFloat.compare, ordinal]
    | finite t n e hn =>
      have hpos : place n e ≠ 0 := Nat.ne_of_gt (place_pos hn)
      cases t <;> simp [UnpackedFloat.le, UnpackedFloat.compare, ordinal, Sign.apply, hpos]
  | finite s m d hm =>
    cases b with
    | notANumber => simp [UnpackedFloat.le, UnpackedFloat.compare, ordinal]
    | infinity t =>
      have hbounds := apply_place_bounds ha
      cases t <;> simp [UnpackedFloat.le, UnpackedFloat.compare, ordinal] <;>
        simp only [Sign.apply] at hbounds ⊢ <;> omega
    | zero t =>
      have hpos : place m d ≠ 0 := Nat.ne_of_gt (place_pos hm)
      cases s <;> simp [UnpackedFloat.le, UnpackedFloat.compare, ordinal, Sign.apply, hpos]
    | finite t n e hn => simp [finite_le_iff ha hb, ordinal]

end Comparison

def ofFields (s : Sign) (exponent fraction : Nat) : UnpackedFloat :=
  if exponent = 2047 then if fraction = 0 then .infinity s else .notANumber
  else if exponent = 0 then
    if h : 0 < fraction then .finite s fraction (-1074) h else .zero s
  else .finite s (2 ^ 52 + fraction) (exponent - 1075) (by omega)

theorem ofFields_fits {s : Sign} {exponent fraction : Nat} (he : exponent < 2 ^ 11)
    (hf : fraction < 2 ^ 52) : Fits (ofFields s exponent fraction) := by
  unfold ofFields
  split
  · split <;> trivial
  · split
    · split
      · exact ⟨⟨by omega, by omega, .inr rfl⟩, by omega⟩
      · trivial
    · exact ⟨⟨by omega, by omega, .inl (by omega)⟩, by omega⟩

theorem toNat_one_append (b : BitVec 52) : (1#1 ++ b).toNat = 2 ^ 52 + b.toNat := by
  rw [BitVec.toNat_append, ← Nat.shiftLeft_add_eq_or_of_lt b.isLt]
  rfl

theorem unpack_eq (bits : BitVec 64) :
    UnpackedFloat.unpack .binary64 bits =
      ofFields (Sign.ofBitVec (@unpackSign .binary64 bits))
        (@unpackExponent .binary64 bits).toNat
        (@unpackMantissa .binary64 bits).toNat := by
  have hall : @unpackExponent .binary64 bits = -1#_ ↔
      (@unpackExponent .binary64 bits).toNat = 2047 := BitVec.toNat_inj.symm
  have hnone : @unpackExponent .binary64 bits = 0#_ ↔
      (@unpackExponent .binary64 bits).toNat = 0 := BitVec.toNat_inj.symm
  have hfraction : @unpackMantissa .binary64 bits = 0#_ ↔
      (@unpackMantissa .binary64 bits).toNat = 0 := BitVec.toNat_inj.symm
  unfold UnpackedFloat.unpack ofFields
  simp only [hall, hnone, hfraction, toNat_one_append]
  split
  · rfl
  · split
    · rename_i he
      by_cases hf : (@unpackMantissa .binary64 bits).toNat = 0
      · simp [hf]
      · simp only [hf, he, Nat.pos_of_ne_zero hf, dif_pos, dif_neg, not_false_eq_true]
        rfl
    · rfl

theorem unpack_fits (x : Float.Model) : Fits x.unpack := by
  rw [Float.Model.unpack, unpack_eq]
  exact ofFields_fits (BitVec.isLt _) (BitVec.isLt _)

theorem ofBitVec_unpackSign (s : Sign) (exponent : BitVec 11) (fraction : BitVec 52) :
    Sign.ofBitVec (unpackSign (packComponents .binary64 s exponent fraction)) = s := by
  have hsign : unpackSign (packComponents .binary64 s exponent fraction) = s.toBitVec := by
    change (s.toBitVec ++ exponent ++ fraction).extractLsb' 63 1 = s.toBitVec
    rw [BitVec.extractLsb'_append_eq_of_le (by decide),
      BitVec.extractLsb'_append_eq_of_le (by decide)]
    cases s <;> rfl
  rw [hsign]
  cases s <;> rfl

theorem unpack_packComponents {s : Sign} {exponent fraction : Nat} (he : exponent < 2 ^ 11) :
    UnpackedFloat.unpack .binary64
        (packComponents .binary64 s (.ofNat 11 exponent) (.ofNat 52 fraction)) =
      ofFields s exponent (fraction % 2 ^ 52) := by
  rw [unpack_eq, unpackMantissa_packComponents, unpackExponent_packComponents,
    ofBitVec_unpackSign, BitVec.toNat_ofNat, BitVec.toNat_ofNat, Nat.mod_eq_of_lt he]

section Packing

variable {s : Sign} {m : Nat} {e : Int} {hm : 0 < m}

theorem unpack_pack_finite :
    (Float.Model.pack (.finite s m e hm)).unpack =
      if 2 ^ 11 ≤ (e + 1075).toNat + 1 then .infinity s
      else if m.log2 + 1 = 53 then ofFields s (e + 1075).toNat (m % 2 ^ 52)
      else ofFields s 0 (m % 2 ^ 52) := by
  have hbias : e + 1023 + 52 = e + 1075 := by omega
  change UnpackedFloat.unpack .binary64 (if 2 ^ 11 ≤ (e + 1023 + 52).toNat + 1 then _
    else if m.log2 + 1 = 53 then
      packComponents .binary64 s (.ofNat 11 (e + 1023 + 52).toNat) (.ofNat 52 m)
    else packComponents .binary64 s (.ofNat 11 0) (.ofNat 52 m)) = _
  rw [hbias]
  split
  · cases s <;> rfl
  · split
    · exact unpack_packComponents (by omega)
    · exact unpack_packComponents (by decide)

theorem unpack_pack_of_large (he : 971 < e) :
    (Float.Model.pack (.finite s m e hm)).unpack = .infinity s := by
  have hlarge : 2 ^ 11 ≤ (e + 1075).toNat + 1 := by omega
  rw [unpack_pack_finite, if_pos hlarge]

theorem unpack_pack_of_canonical (h : Canonical m e) (he : e ≤ 971) :
    (Float.Model.pack (.finite s m e hm)).unpack = .finite s m e hm := by
  obtain ⟨hlt, hleast, hnormal⟩ := h
  have hsmall : ¬2 ^ 11 ≤ (e + 1075).toNat + 1 := by omega
  rw [unpack_pack_finite, if_neg hsmall]
  by_cases hn : 2 ^ 52 ≤ m
  · have hlog : m.log2 = 52 := (Nat.log2_eq_iff (by omega)).mpr ⟨hn, hlt⟩
    have hbits : 2 ^ 52 + m % 2 ^ 52 = m := by omega
    have hexponent : ((e + 1075).toNat : Int) - 1075 = e := by omega
    have hnotAll : (e + 1075).toNat ≠ 2047 := by omega
    have hnotNone : (e + 1075).toNat ≠ 0 := by omega
    rw [if_pos (by omega)]
    simp only [ofFields, hnotAll, hnotNone, if_false, hbits, hexponent]
  · have hlog : m.log2 < 52 := (Nat.log2_lt (by omega)).mpr (by omega)
    have hexponent : e = -1074 := by omega
    have hbits : m % 2 ^ 52 = m := by omega
    rw [if_neg (by omega), hbits]
    simp [ofFields, hm, hexponent]

/-- Packing keeps the place of a number, or takes it to the infinity of its sign. -/
theorem ordinal_unpack_pack (h : Canonical m e) :
    ordinal (Float.Model.pack (.finite s m e hm)).unpack =
      some (s.apply (min (place m e) infinitePlace : Nat)) := by
  by_cases he : e ≤ 971
  · have hlt : place m e < infinitePlace := h.place_lt_iff.mpr he
    rw [unpack_pack_of_canonical h he, ordinal, Nat.min_eq_left (Nat.le_of_lt hlt)]
  · have hle : infinitePlace ≤ place m e := Nat.not_lt.mp fun hlt => he (h.place_lt_iff.mp hlt)
    rw [unpack_pack_of_large (by omega), ordinal, Nat.min_eq_right hle]

end Packing

theorem unpack_pack {a : UnpackedFloat} (h : Fits a) : (Float.Model.pack a).unpack = a := by
  cases a with
  | notANumber => rfl
  | infinity s => cases s <;> rfl
  | zero s => cases s <;> rfl
  | finite s m e hm => exact unpack_pack_of_canonical h.1 h.2

end Double
end GeoConformance
