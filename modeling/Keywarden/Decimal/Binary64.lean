/-!
# Binary fractions of 53 bits

The finite non-negative numbers of the binary format with 64 bits, and rounding
to them: to the nearest one, and to the even one of two that are equally near.
-/

namespace Keywarden

/-- The number `mantissa * 2 ^ exponent`. -/
structure Binary64 where
  mantissa : Nat
  exponent : Int
deriving DecidableEq, Repr

namespace Binary64

/-- The first bit of a mantissa of 53 bits. -/
def leadingBit : Nat := 0x10000000000000

def zero : Binary64 :=
  ⟨0, -1074⟩

/-- The quotient rounded to the nearest whole number, a half to the even one. -/
def roundQuotient (numerator denominator : Nat) : Nat :=
  let floor := numerator / denominator
  let twice := 2 * (numerator % denominator)
  if twice < denominator ∨ (twice = denominator ∧ floor % 2 = 0) then floor else floor + 1

/-- The fraction divided by a power of two. -/
def scale (numerator denominator : Nat) (exponent : Int) : Nat × Nat :=
  if 0 ≤ exponent then (numerator, denominator * Nat.pow 2 exponent.toNat)
  else (numerator * Nat.pow 2 (-exponent).toNat, denominator)

/-- The exponent at which a positive fraction has a mantissa of 53 bits, or the
least exponent there is. -/
def exponentOf (numerator denominator : Nat) : Int :=
  let guess : Int := (numerator.log2 : Int) - denominator.log2 - 53
  let low := max guess (-1074)
  let (n, d) := scale numerator denominator low
  if 2 * leadingBit ≤ n / d then low + 1 else low

/-- The nearest number to a fraction with a positive denominator, unless the
fraction is too large. -/
def ofRatio (numerator denominator : Nat) : Option Binary64 :=
  if numerator = 0 then
    some zero
  else
    let exponent := exponentOf numerator denominator
    let (n, d) := scale numerator denominator exponent
    let mantissa := roundQuotient n d
    let (mantissa, exponent) :=
      if mantissa = 2 * leadingBit then (leadingBit, exponent + 1) else (mantissa, exponent)
    if 971 < exponent then none else some ⟨mantissa, exponent⟩

/-- The number as a fraction. -/
def ratio (x : Binary64) : Nat × Nat :=
  if 0 ≤ x.exponent then (x.mantissa * Nat.pow 2 x.exponent.toNat, 1)
  else (x.mantissa, Nat.pow 2 (-x.exponent).toNat)

/-- The nearest number to a product. -/
def mul (x y : Binary64) : Option Binary64 :=
  ofRatio (x.ratio.1 * y.ratio.1) (x.ratio.2 * y.ratio.2)

/-- The nearest number to a quotient. -/
def div (x y : Binary64) : Option Binary64 :=
  ofRatio (x.ratio.1 * y.ratio.2) (x.ratio.2 * y.ratio.1)

def powerOfTen (exponent : Nat) : Option Binary64 :=
  ofRatio (Nat.pow 10 exponent) 1

end Binary64

end Keywarden
