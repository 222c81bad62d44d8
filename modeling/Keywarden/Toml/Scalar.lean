import Keywarden.Calendar
import Keywarden.Decimal.Binary64
import Keywarden.Toml.Text

/-!
# TOML numbers, truth values and points in time

Whole numbers have 64 bits and a sign.  Fractions must not be so large that they round
to infinity.  Points in time are checked against the calendar and the clock.
-/

namespace Keywarden.Toml

/-- The digits at the front, of which there is at least one; single underscores may
stand between digits and are dropped. -/
def readDigits (isDigit : Char → Bool) : List Char → Reading (List Char)
  | [] => none
  | char :: rest =>
    if isDigit char then
      match rest with
      | [] => some ([char], [])
      | '_' :: rest => before char (readDigits isDigit rest)
      | next :: rest =>
        if isDigit next then before char (readDigits isDigit (next :: rest))
        else some ([char], next :: rest)
    else none

def numberOf (base : Nat) (digits : List Char) : Nat :=
  digits.foldl (fun number digit => base * number + (hexValue? digit).getD 0) 0

/-- Whether a minus stands in front, and what follows the sign. -/
def readSign : List Char → Bool × List Char
  | '+' :: rest => (false, rest)
  | '-' :: rest => (true, rest)
  | input => (false, input)

/-- The digits before the point: a zero alone, or digits that start otherwise. -/
def readWhole : List Char → Reading (List Char)
  | '0' :: rest => some (['0'], rest)
  | input => readDigits Char.isDigit input

/-- A whole number that 64 bits with a sign hold. -/
def bounded (value : Int) : Option Written :=
  if Int64.minValue.toInt ≤ value ∧ value ≤ Int64.maxValue.toInt then some (.integer value)
  else none

/-- A whole number in a base that is named in front. -/
def readBased (base : Nat) (input : List Char) : Reading Written :=
  match readDigits (fun char => (hexValue? char).any (· < base)) input with
  | some (digits, rest) => (bounded (numberOf base digits)).map (·, rest)
  | none => none

/-- A whole number. -/
def readInteger (input : List Char) : Reading Written :=
  match input with
  | '0' :: 'x' :: rest => readBased 16 rest
  | '0' :: 'o' :: rest => readBased 8 rest
  | '0' :: 'b' :: rest => readBased 2 rest
  | input =>
    let (isNegative, rest) := readSign input
    match readWhole rest with
    | some (digits, rest) =>
      let magnitude : Int := numberOf 10 digits
      (bounded (if isNegative then -magnitude else magnitude)).map (·, rest)
    | none => none

/-- A power of ten as the exponent that is written after a fraction. -/
def readPower (input : List Char) : Reading Int :=
  match input with
  | 'e' :: rest | 'E' :: rest =>
    let (isNegative, rest) := readSign rest
    (readDigits Char.isDigit rest).map fun (digits, rest) =>
      let magnitude : Int := numberOf 10 digits
      (if isNegative then -magnitude else magnitude, rest)
  | _ => none

/-- Whether the nearest binary fraction of 64 bits to a decimal one is infinity. -/
def isTooLarge (digits : Nat) (power : Int) : Bool :=
  let magnitude := power + (Nat.toDigits 10 digits).length
  if digits = 0 ∨ magnitude < 0 then false
  else if 400 < magnitude then true
  else if 0 ≤ power then (Binary64.ofRatio (digits * Nat.pow 10 power.toNat) 1).isNone
  else (Binary64.ofRatio digits (Nat.pow 10 (-power).toNat)).isNone

/-- A fraction after its sign: digits with a point or an exponent. -/
def readUnsignedFraction (input : List Char) : Reading (Nat × Int) :=
  match readWhole input with
  | none => none
  | some (whole, '.' :: rest) =>
    match readDigits Char.isDigit rest with
    | none => none
    | some (places, rest) =>
      let (power, rest) := (readPower rest).getD (0, rest)
      some ((numberOf 10 (whole ++ places), power - places.length), rest)
  | some (whole, rest) =>
    (readPower rest).map fun (power, rest) => ((numberOf 10 whole, power), rest)

/-- A fraction with a sign or without. -/
def readFraction (input : List Char) : Option (List Char) :=
  let (isNegative, rest) := readSign input
  match rest with
  | 'i' :: 'n' :: 'f' :: rest => some rest
  | 'n' :: 'a' :: 'n' :: rest => some rest
  | rest =>
    match readUnsignedFraction rest with
    | some ((digits, power), rest) =>
      if !isNegative && isTooLarge digits power then none else some rest
    | none => none

def readTwo (least greatest : Nat) : List Char → Reading Nat
  | a :: b :: rest =>
    if a.isDigit && b.isDigit then
      let value := numberOf 10 [a, b]
      if least ≤ value ∧ value ≤ greatest then some (value, rest) else none
    else none
  | _ => none

/-- A day. -/
def readDate : List Char → Option (List Char)
  | a :: b :: c :: d :: '-' :: rest =>
    if [a, b, c, d].all Char.isDigit then
      match readTwo 1 12 rest with
      | some (month, '-' :: rest) =>
        match readTwo 1 31 rest with
        | some (day, rest) =>
          if day ≤ Date.daysInMonth (numberOf 10 [a, b, c, d]) month then some rest else none
        | none => none
      | _ => none
    else none
  | _ => none

/-- A time of day, in which a leap second may stand. -/
def readTime (input : List Char) : Option (List Char) :=
  match readTwo 0 23 input with
  | some (_, ':' :: rest) =>
    match readTwo 0 59 rest with
    | some (_, ':' :: rest) =>
      match readTwo 0 60 rest with
      | some (_, '.' :: rest) =>
        match rest.span Char.isDigit with
        | ([], _) => some ('.' :: rest)
        | (_, rest) => some rest
      | some (_, rest) => some rest
      | none => none
    | _ => none
  | _ => none

/-- The distance of a time zone from universal time, if it is given. -/
def skipZone (input : List Char) : List Char :=
  match input with
  | 'Z' :: rest | 'z' :: rest => rest
  | '+' :: rest | '-' :: rest =>
    match readTwo 0 23 rest with
    | some (_, ':' :: rest) =>
      match readTwo 0 59 rest with
      | some (_, rest) => rest
      | none => input
    | _ => input
  | _ => input

/-- A point in time: a day, a time of day, or both. -/
def readMoment (input : List Char) : Option (List Char) :=
  match readDate input with
  | some (mark :: rest) =>
    if mark = 'T' ∨ mark = 't' ∨ mark = ' ' then
      match readTime rest with
      | some rest => some (skipZone rest)
      | none => some (mark :: rest)
    else some (mark :: rest)
  | some [] => some []
  | none => readTime input

/-- A number, a truth value or a point in time. -/
def readScalar (input : List Char) : Reading Written :=
  match input with
  | 't' :: 'r' :: 'u' :: 'e' :: rest => some (.other, rest)
  | 'f' :: 'a' :: 'l' :: 's' :: 'e' :: rest => some (.other, rest)
  | input =>
    match readMoment input, readFraction input with
    | some rest, _ => some (.other, rest)
    | none, some rest => some (.other, rest)
    | none, none => readInteger input

end Keywarden.Toml
