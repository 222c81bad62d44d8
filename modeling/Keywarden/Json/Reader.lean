import Keywarden.Json.Syntax

/-!
# Reading JSON documents

The grammar alone: any nesting, any size of number and any number after a
`\u` escape are accepted, and bytes above ASCII inside strings are not examined.
-/

namespace Keywarden.Json.Reader

/-- White space between tokens. -/
def isBlank (byte : UInt8) : Bool :=
  byte == 32 || byte == 9 || byte == 10 || byte == 13

/-- The input without leading white space. -/
def skipBlank (input : Bytes) : Bytes :=
  input.dropWhile isBlank

def isDigit (byte : UInt8) : Bool :=
  48 ≤ byte && byte ≤ 57

/-- A hexadecimal digit of either case. -/
def isHexDigit (byte : UInt8) : Bool :=
  isDigit byte || (97 ≤ byte && byte ≤ 102) || (65 ≤ byte && byte ≤ 70)

/-- The signs that may follow a backslash, apart from `u`. -/
def isSimpleEscape (byte : UInt8) : Bool :=
  byte == 34 || byte == 92 || byte == 47 || byte == 98 || byte == 102 || byte == 110 ||
    byte == 114 || byte == 116

/-- What is left after a fixed word. -/
def readWord (word input : Bytes) : Option Bytes :=
  match word, input with
  | [], rest => some rest
  | expected :: word, byte :: rest =>
    if byte = expected then readWord word rest else none
  | _ :: _, [] => none

def readString : Bytes → Option (Bytes × Bytes)
  | [] => none
  | 34 :: rest => some ([], rest)
  | 92 :: 117 :: a :: b :: c :: d :: rest =>
    if isHexDigit a && isHexDigit b && isHexDigit c && isHexDigit d then
      match readString rest with
      | some (raw, rest) => some (92 :: 117 :: a :: b :: c :: d :: raw, rest)
      | none => none
    else none
  | 92 :: escape :: rest =>
    if isSimpleEscape escape then
      match readString rest with
      | some (raw, rest) => some (92 :: escape :: raw, rest)
      | none => none
    else none
  | byte :: rest =>
    if byte < 32 || byte == 92 then none
    else
      match readString rest with
      | some (raw, rest) => some (byte :: raw, rest)
      | none => none

/-- The digits at the front, of which there is at least one, and the rest. -/
def readDigits (input : Bytes) : Option (Bytes × Bytes) :=
  match input.span isDigit with
  | ([], _) => none
  | (digits, rest) => some (digits, rest)

/-- The digits before the point: a zero alone, or digits that start otherwise. -/
def readWhole : Bytes → Option (Bytes × Bytes)
  | 48 :: rest =>
    match rest with
    | next :: _ => if isDigit next then none else some ([48], rest)
    | [] => some ([48], [])
  | input => readDigits input

/-- A point and the digits after it, if there is a point. -/
def readFraction : Bytes → Option (Option Bytes × Bytes)
  | 46 :: rest =>
    match readDigits rest with
    | some (digits, rest) => some (some digits, rest)
    | none => none
  | input => some (none, input)

/-- The sign of an exponent; a missing one counts as plus. -/
def readSign : Bytes → Bool × Bytes
  | 45 :: rest => (true, rest)
  | 43 :: rest => (false, rest)
  | input => (false, input)

def readExponent (input : Bytes) : Option (Option (Bool × Bytes) × Bytes) :=
  match input with
  | byte :: rest =>
    if byte = 101 ∨ byte = 69 then
      let (isNegative, rest) := readSign rest
      match readDigits rest with
      | some (digits, rest) => some (some (isNegative, digits), rest)
      | none => none
    else some (none, input)
  | [] => some (none, [])

def readMagnitude (isNegative : Bool) (input : Bytes) : Option (NumberText × Bytes) :=
  match readWhole input with
  | none => none
  | some (whole, rest) =>
    match readFraction rest with
    | none => none
    | some (fraction, rest) =>
      match readExponent rest with
      | none => none
      | some (exponent, rest) => some (⟨isNegative, whole, fraction, exponent⟩, rest)

def readNumber : Bytes → Option (NumberText × Bytes)
  | 45 :: rest => readMagnitude true rest
  | input => readMagnitude false input

mutual

def readValue (fuel : Nat) (input : Bytes) : Option (Value × Bytes) :=
  match fuel with
  | 0 => none
  | fuel + 1 =>
    match input with
    | 123 :: rest =>
      match skipBlank rest with
      | 125 :: rest => some (.object [], rest)
      | rest => (readMembers fuel rest).map fun (members, rest) => (.object members, rest)
    | 91 :: rest =>
      match skipBlank rest with
      | 93 :: rest => some (.array [], rest)
      | rest => (readItems fuel rest).map fun (items, rest) => (.array items, rest)
    | 34 :: rest => (readString rest).map fun (raw, rest) => (.string raw, rest)
    | 110 :: rest => (readWord [117, 108, 108] rest).map fun rest => (.null, rest)
    | 116 :: rest => (readWord [114, 117, 101] rest).map fun rest => (.bool true, rest)
    | 102 :: rest => (readWord [97, 108, 115, 101] rest).map fun rest => (.bool false, rest)
    | input => (readNumber input).map fun (text, rest) => (.number text, rest)

/-- The items of an array from the first one on, and the rest after its end. -/
def readItems (fuel : Nat) (input : Bytes) : Option (List Value × Bytes) :=
  match fuel with
  | 0 => none
  | fuel + 1 =>
    match readValue fuel input with
    | none => none
    | some (item, rest) =>
      match skipBlank rest with
      | 93 :: rest => some ([item], rest)
      | 44 :: rest =>
        (readItems fuel (skipBlank rest)).map fun (items, rest) => (item :: items, rest)
      | _ => none

/-- The members of an object from the first one on, and the rest after its end. -/
def readMembers (fuel : Nat) (input : Bytes) : Option (List (Bytes × Value) × Bytes) :=
  match fuel with
  | 0 => none
  | fuel + 1 =>
    match input with
    | 34 :: rest =>
      match readString rest with
      | none => none
      | some (name, rest) =>
        match skipBlank rest with
        | 58 :: rest =>
          match readValue fuel (skipBlank rest) with
          | none => none
          | some (value, rest) =>
            match skipBlank rest with
            | 125 :: rest => some ([(name, value)], rest)
            | 44 :: rest =>
              (readMembers fuel (skipBlank rest)).map fun (members, rest) =>
                ((name, value) :: members, rest)
            | _ => none
        | _ => none
    | _ => none

end

def read? (text : Bytes) : Option Value :=
  let input := skipBlank text
  match readValue (2 * input.length + 1) input with
  | some (value, rest) => if (skipBlank rest).isEmpty then some value else none
  | none => none

end Keywarden.Json.Reader
