import Keywarden.Decimal.Shortest
import Keywarden.Json.Syntax

/-!
# JSON numbers

What a written number stands for: a whole number of 64 bits where it has no point
and no exponent, else a binary fraction.  The fraction is computed from the first
digits that fit into 64 bits and a power of ten, with a rounding at each step.
-/

namespace Keywarden.Json

inductive Number
  | unsigned (value : Nat)
  /-- A whole number below zero. -/
  | negative (value : Int)
  | float (isNegative : Bool) (magnitude : Binary64)
deriving DecidableEq

namespace Number

def digitValue (byte : UInt8) : Nat :=
  byte.toNat - 48

/-- Digits that were taken into a number of 64 bits, and how many were not: once a
digit does not fit, no further one is taken. -/
structure Intake where
  value : Nat
  skipped : Nat
  taken : Nat
deriving DecidableEq

def Intake.take (intake : Intake) (byte : UInt8) : Intake :=
  let next := 10 * intake.value + digitValue byte
  if 0 < intake.skipped ∨ UInt64.size ≤ next then { intake with skipped := intake.skipped + 1 }
  else { intake with value := next, taken := intake.taken + 1 }

def Intake.of (value : Nat) (digits : Bytes) : Intake :=
  digits.foldl Intake.take ⟨value, 0, 0⟩

/-- The magnitude `significand * 10 ^ exponent`; none if it is too large.  Powers
beyond the largest one are divided off in steps of 308. -/
def scaleDown (fuel : Nat) (x : Binary64) (exponent : Nat) : Option Binary64 :=
  match fuel with
  | 0 => some .zero
  | fuel + 1 =>
    if exponent ≤ 308 then (Binary64.powerOfTen exponent).bind x.div
    else if x.mantissa = 0 then some .zero
    else ((Binary64.powerOfTen 308).bind x.div).bind fun x => scaleDown fuel x (exponent - 308)

/-- The magnitude `significand * 10 ^ exponent`; none if it is too large. -/
def magnitude (significand : Nat) (exponent : Int) : Option Binary64 :=
  match Binary64.ofRatio significand 1 with
  | none => none
  | some x =>
    if exponent < 0 then scaleDown 8 x (-exponent).toNat
    else if exponent ≤ 308 then (Binary64.powerOfTen exponent.toNat).bind x.mul
    else if significand = 0 then some .zero
    else none

/-- The largest exponent that is read. -/
def exponentLimit : Nat := 2147483647

/-- The value of an exponent, unless it passes the limit. -/
def exponentValue? (digits : Bytes) : Option Nat :=
  let value := digits.foldl (fun acc byte => min (10 * acc + digitValue byte) (exponentLimit + 1)) 0
  if value ≤ exponentLimit then some value else none

/-- The magnitude of a significand with the decimal point moved and an exponent. -/
def withExponent (significand : Nat) (moved : Int) :
    Option (Bool × Bytes) → Option Binary64
  | none => magnitude significand moved
  | some (isNegative, digits) =>
    match exponentValue? digits with
    | some value =>
      let shift : Int := if isNegative then -(value : Int) else value
      let low : Int := -(exponentLimit : Int) - 1
      magnitude significand (max low (min exponentLimit (moved + shift)))
    | none => if significand ≠ 0 ∧ !isNegative then none else some .zero

/-- What a written number stands for; none if it is out of range. -/
def ofText? (text : NumberText) : Option Number :=
  let whole := Intake.of 0 text.whole
  match text.fraction, text.exponent with
  | none, none =>
    if 0 < whole.skipped then
      (magnitude whole.value whole.skipped).map (.float text.isNegative)
    else if !text.isNegative then some (.unsigned whole.value)
    else if whole.value = 0 ∨ UInt64.size / 2 < whole.value then
      (magnitude whole.value 0).map (.float true)
    else some (.negative (-(whole.value : Int)))
  | none, exponent =>
    (withExponent whole.value whole.skipped exponent).map (.float text.isNegative)
  | some digits, exponent =>
    let all := Intake.of whole.value digits
    (withExponent all.value (whole.skipped - all.taken) exponent).map
      (.float text.isNegative)

def digitsText (value : Nat) : List Char :=
  Nat.toDigits 10 value

/-- A decimal in positional notation when its first digit stands between the fifth
place after the point and the sixteenth before it, else with an exponent that always
has a sign. -/
def decimalText (x : Decimal) : List Char :=
  let digits := digitsText x.digits
  let first : Int := digits.length + x.exponent - 1
  if x.digits = 0 then ['0', '.', '0']
  else if -5 ≤ first ∧ first ≤ 15 then
    if 0 ≤ x.exponent then digits ++ List.replicate x.exponent.toNat '0' ++ ['.', '0']
    else if first < 0 then
      ['0', '.'] ++ List.replicate (-first - 1).toNat '0' ++ digits
    else digits.take (first + 1).toNat ++ ['.'] ++ digits.drop (first + 1).toNat
  else
    let point := if digits.length = 1 then [] else ['.']
    digits.take 1 ++ point ++ digits.drop 1 ++ ['e'] ++
      (if first < 0 then ['-'] else ['+']) ++ digitsText first.natAbs

/-- A binary fraction in its shortest decimal form. -/
def floatText (isNegative : Bool) (magnitude : Binary64) : String :=
  String.ofList ((if isNegative then ['-'] else []) ++ decimalText (.shortest magnitude))

end Number

end Keywarden.Json
