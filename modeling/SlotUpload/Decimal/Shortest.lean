import SlotUpload.Text.Numeral

/-!
# SlotUpload.Decimal.Shortest

The shortest decimal number that reads back as a given binary one.  A double is
`m · 2^q`; the numbers that round to it form an interval around it, whose ends
belong to it when `m` is even.  On the grids of one digit, of two digits and so
on, the first that has a point in the interval decides; of two such points the
nearer one is taken, and the one with an even last digit if both are as near.
-/

namespace SlotUpload.Decimal

/-- The number `digits · 10 ^ exponent`. -/
structure Scaled where
  digits : Nat
  exponent : Int
  deriving DecidableEq, Repr

/-- The bit that a double has before the 52 bits of its fraction, unless it is too
small to have it. -/
def implicitBit : Nat := 0x10000000000000

/-- A positive number and the ends of its interval, as numerators over one
denominator. -/
structure Interval where
  lower : Nat
  value : Nat
  upper : Nat
  denominator : Nat
  closed : Bool
  deriving DecidableEq, Repr

namespace Interval

/-- The interval of the double `m · 2^q`; below a power of two the next double
is only half as far away as above it. -/
def ofDouble (m : Nat) (q : Int) (least : Bool) : Interval :=
  let unit := if 0 ≤ q then Nat.pow 2 q.toNat else 1
  let below := if m = implicitBit ∧ !least then 1 else 2
  { lower := (4 * m - below) * unit
    value := 4 * m * unit
    upper := (4 * m + 2) * unit
    denominator := if 0 ≤ q then 4 else 4 * Nat.pow 2 (-q).toNat
    closed := m % 2 = 0 }

/-- Is a number in the interval? -/
def has (i : Interval) (x : Scaled) : Bool :=
  let top := if 0 ≤ x.exponent then x.digits * Nat.pow 10 x.exponent.toNat * i.denominator
    else x.digits * i.denominator
  let scale := if 0 ≤ x.exponent then 1 else Nat.pow 10 (-x.exponent).toNat
  if i.closed then i.lower * scale ≤ top && top ≤ i.upper * scale
  else i.lower * scale < top && top < i.upper * scale

/-- The power of ten of the first digit. -/
def magnitude (i : Interval) : Int :=
  if i.denominator ≤ i.value then
    ((Text.digits (i.value / i.denominator)).length : Int) - 1
  else
    match (List.range 400).find? fun j => i.denominator ≤ i.value * Nat.pow 10 (j + 1) with
    | some j => -((j : Int) + 1)
    | none => 0

/-- The point of a grid in the interval, if one of the neighbours of the value
is in it. -/
def onGrid (i : Interval) (exponent : Int) : Option Scaled :=
  let top := if exponent ≤ 0 then i.value * Nat.pow 10 (-exponent).toNat else i.value
  let bottom := if exponent ≤ 0 then i.denominator else i.denominator * Nat.pow 10 exponent.toNat
  let down : Scaled := ⟨top / bottom, exponent⟩
  let up : Scaled := ⟨top / bottom + 1, exponent⟩
  match i.has down, i.has up with
  | true, true =>
    let rest := 2 * (top % bottom)
    some (if rest < bottom ∨ (rest = bottom ∧ down.digits % 2 = 0) then down else up)
  | true, false => some down
  | false, true => some up
  | false, false => none

/-- The shortest number in the interval. -/
def shortest (i : Interval) : Scaled :=
  ((List.range 17).findSome? fun k : Nat => i.onGrid (i.magnitude - (k : Int))).getD ⟨0, 0⟩

end Interval

/-- The number without zeros at the end of its digits. -/
def Scaled.trimmed (x : Scaled) : Scaled :=
  if x.digits ≠ 0 ∧ x.digits % 10 = 0 then trimmed ⟨x.digits / 10, x.exponent + 1⟩ else x
termination_by x.digits
decreasing_by omega

/-- The shortest decimal form of a finite double, its sign left out. -/
def ofFloat (x : Float) : Scaled :=
  let bits : Nat := (x.toBits &&& 0x7fffffffffffffff).toNat
  let biased : Nat := bits / implicitBit
  let fraction : Nat := bits % implicitBit
  if bits = 0 then ⟨0, 0⟩
  else if biased = 0 then (Interval.ofDouble fraction (-1074) true).shortest.trimmed
  else
    let exponent : Int := (biased : Nat) - (1075 : Int)
    (Interval.ofDouble (implicitBit + fraction) exponent (biased = 1)).shortest.trimmed

end SlotUpload.Decimal
