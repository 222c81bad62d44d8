import Keywarden.Decimal.Binary64

/-!
# Shortest decimals

The decimal number with the fewest digits that rounds to a given binary fraction,
and of several such numbers the nearest.
-/

namespace Keywarden

/-- The number `digits * 10 ^ exponent`. -/
structure Decimal where
  digits : Nat
  exponent : Int
deriving DecidableEq, Repr

namespace Decimal

/-- Moves the zeros at the end of the digits into the exponent. -/
def strip (fuel : Nat) (x : Decimal) : Decimal :=
  match fuel with
  | 0 => x
  | fuel + 1 =>
    if x.digits ≠ 0 ∧ x.digits % 10 = 0 then strip fuel ⟨x.digits / 10, x.exponent + 1⟩
    else x

/-- The numbers that round to a binary fraction: from `low` to `high`, in units of a
quarter of its last bit, and whether the ends belong to them. -/
structure Interval where
  low : Nat
  high : Nat
  isClosed : Bool

def Interval.of (x : Binary64) : Interval where
  low := if x.mantissa = Binary64.leadingBit ∧ -1074 < x.exponent then 4 * x.mantissa - 1
    else 4 * x.mantissa - 2
  high := 4 * x.mantissa + 2
  isClosed := x.mantissa % 2 = 0

/-- Whether the fraction `numerator / denominator`, in the units of the interval,
lies in it. -/
def Interval.contains (interval : Interval) (numerator denominator : Nat) : Bool :=
  if interval.isClosed then
    interval.low * denominator ≤ numerator && numerator ≤ interval.high * denominator
  else
    interval.low * denominator < numerator && numerator < interval.high * denominator

/-- The quotient of two numbers by a power of ten that may be negative. -/
def overTen (numerator denominator : Nat) (exponent : Int) : Nat × Nat :=
  if 0 ≤ exponent then (numerator, denominator * Nat.pow 10 exponent.toNat)
  else (numerator * Nat.pow 10 (-exponent).toNat, denominator)

/-- The better of the two neighbours on the grid of multiples of `10 ^ exponent`,
if one of them rounds to the binary fraction. -/
def onGrid? (x : Binary64) (exponent : Int) : Option Decimal :=
  let (numerator, denominator) := x.ratio
  let (n, d) := overTen numerator denominator exponent
  let floor := n / d
  let interval := Interval.of x
  -- A grid point in quarters of the last bit is `4 * mantissa * point * d / n`.
  let isInside (point : Nat) : Bool := interval.contains (4 * x.mantissa * point * d) n
  let twice := 2 * (n % d)
  let isLower := twice < d || (twice == d && floor % 2 == 0)
  if isInside floor && (isLower || !isInside (floor + 1)) then some ⟨floor, exponent⟩
  else if isInside (floor + 1) then some ⟨floor + 1, exponent⟩
  else none

/-- The first grid with a hit, from coarse to fine. -/
def search (fuel : Nat) (x : Binary64) (exponent : Int) : Decimal :=
  match fuel with
  | 0 => ⟨0, 0⟩
  | fuel + 1 =>
    match onGrid? x exponent with
    | some found => found
    | none => search fuel x (exponent - 1)

/-- The decimal exponent of the first digit of a positive fraction. -/
def leadingExponent (numerator denominator : Nat) : Int :=
  if denominator ≤ numerator then
    ((Nat.toDigits 10 (numerator / denominator)).length : Int) - 1
  else
    let inverse := (Nat.toDigits 10 (denominator / numerator)).length
    if denominator ≤ numerator * Nat.pow 10 (inverse - 1) then 1 - (inverse : Int)
    else -(inverse : Int)

def shortest (x : Binary64) : Decimal :=
  if x.mantissa = 0 then
    ⟨0, 0⟩
  else
    let (numerator, denominator) := x.ratio
    strip 20 (search 20 x (leadingExponent numerator denominator))

end Decimal

end Keywarden
