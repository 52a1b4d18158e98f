/-! Decimal texts of doubles. Every finite double is itself a decimal fraction, so the fewest
digits that read back as it, and its value rounded to one place, are found among naturals.
Texts are positional however large or small the number is. -/
namespace GeoConformance

/-- The number `units / 10 ^ places`. -/
structure Decimal where
  units : Nat
  places : Nat
  deriving DecidableEq, Repr

namespace Decimal

/-- The digits after the point, without the zeros at the end. -/
def fraction (d : Decimal) : List Char :=
  let digits := Nat.toDigits 10 (d.units % Nat.pow 10 d.places)
  let padded := List.replicate (d.places - digits.length) '0' ++ digits
  (padded.reverse.dropWhile (· == '0')).reverse

def text (d : Decimal) : String :=
  let whole := Nat.repr (d.units / Nat.pow 10 d.places)
  match d.fraction with
  | [] => whole
  | digits => whole ++ "." ++ String.ofList digits

end Decimal

/-- The quotient to the nearest natural, a half to the even neighbour. -/
def roundDiv (num den : Nat) : Nat :=
  let q := num / den
  let r := num % den
  if 2 * r < den then q else if den < 2 * r then q + 1 else q + q % 2

theorem roundDiv_bounds (num den : Nat) :
    num / den ≤ roundDiv num den ∧ roundDiv num den ≤ num / den + 1 := by
  simp only [roundDiv]
  split
  · omega
  · split <;> omega

theorem roundDiv_zero (den : Nat) : roundDiv 0 den = 0 := by
  simp [roundDiv]

/-- Rounding keeps the order of the numbers that are divided. -/
theorem roundDiv_mono {num num' den : Nat} (h : num ≤ num') :
    roundDiv num den ≤ roundDiv num' den := by
  have hq : num / den ≤ num' / den := Nat.div_le_div_right h
  obtain hlt | heq := Nat.lt_or_eq_of_le hq
  · have hupper := (roundDiv_bounds num den).2
    have hlower := (roundDiv_bounds num' den).1
    omega
  · have hr : num % den ≤ num' % den := by
      have hn := Nat.div_add_mod num den
      have hn' := Nat.div_add_mod num' den
      rw [heq] at hn
      omega
    simp only [roundDiv, heq]
    repeat' split
    all_goals omega

theorem roundDiv_mul_right {num den c : Nat} (hc : 0 < c) :
    roundDiv (num * c) (den * c) = roundDiv num den := by
  have hlt : 2 * (num % den * c) < den * c ↔ 2 * (num % den) < den := by
    rw [← Nat.mul_assoc, Nat.mul_lt_mul_right hc]
  have hgt : den * c < 2 * (num % den * c) ↔ den < 2 * (num % den) := by
    rw [← Nat.mul_assoc, Nat.mul_lt_mul_right hc]
  simp only [roundDiv, Nat.mul_div_mul_right num den hc, Nat.mul_mod_mul_right, hlt, hgt]

/-- The magnitude `significand * 2 ^ exponent` of a finite double. Its neighbour below is half as
far away as the one above when `tight` holds. -/
structure Magnitude where
  significand : Nat
  exponent : Int
  tight : Bool
  deriving DecidableEq, Repr

namespace Magnitude

/-- The leading bit of a significand, which the bits of a normal double leave out. -/
def hiddenBit : Nat := Nat.pow 2 52

/-- The magnitude of a double, by its bits; only for finite ones. -/
def ofFloat (x : Float) : Magnitude :=
  let bits := x.toBits.toNat
  let exponent := bits / hiddenBit % 2048
  let fraction := bits % hiddenBit
  if exponent = 0 then ⟨fraction, -1074, false⟩
  else ⟨fraction + hiddenBit, Int.ofNat exponent - 1075, fraction = 0 && 1 < exponent⟩

/-- Decimal places that suffice for a quarter of the last binary place. -/
def places (m : Magnitude) : Nat :=
  (2 - m.exponent).toNat

/-- A quarter of the last binary place, in units of `places`. -/
def quarter (m : Magnitude) : Nat :=
  Nat.pow 2 (m.exponent - 2).toNat * Nat.pow 5 m.places

def value (m : Magnitude) : Nat :=
  4 * m.significand * m.quarter

/-- Whether a number, in units of `places`, rounds to this magnitude: an end of the interval does
so when the significand is even. -/
def readsBack (m : Magnitude) (x : Nat) : Bool :=
  let low := (4 * m.significand - if m.tight then 1 else 2) * m.quarter
  let high := (4 * m.significand + 2) * m.quarter
  if m.significand % 2 = 0 then low ≤ x && x ≤ high else low < x && x < high

/-- The nearer of the two neighbours on the grid of the given step that read back; of two equally
near ones the upper. -/
def onGrid (m : Magnitude) (step : Nat) : Option Nat :=
  let below := m.value / step * step
  let above := below + step
  match m.readsBack below, m.readsBack above with
  | true, true => some (if m.value - below < above - m.value then below else above)
  | true, false => some below
  | false, true => some above
  | false, false => none

/-- The decimal of fewest digits that reads back, and of those the nearest. -/
def shortest (m : Magnitude) : Decimal :=
  let digits := (Nat.toDigits 10 m.value).length
  let units := (List.range digits).findSome? fun n => m.onGrid (Nat.pow 10 (digits - 1 - n))
  ⟨units.getD m.value, m.places⟩

/-- The value in tenths, a half to the even neighbour. -/
def tenths (m : Magnitude) : Nat :=
  roundDiv (10 * m.value) (Nat.pow 10 m.places)

end Magnitude

/-- The sign and the texts of the numbers that have no digits, around the text of a magnitude. -/
def floatTextBy (finite : Magnitude → String) (x : Float) : String :=
  if x.isNaN then "NaN"
  else
    let sign := if x.toBits >>> 63 = 1 then "-" else ""
    sign ++ if x.isInf then "inf" else finite (.ofFloat x)

/-- The shortest text that reads back, without a point when the number is whole. -/
def floatText : Float → String :=
  floatTextBy fun m => m.shortest.text

/-- The text with one decimal. -/
def tenthsText : Float → String :=
  floatTextBy fun m => Nat.repr (m.tenths / 10) ++ "." ++ Nat.repr (m.tenths % 10)

end GeoConformance
