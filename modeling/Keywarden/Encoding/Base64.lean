import Keywarden.Bytes

/-!
# Base64

The standard alphabet with padding.  A text is accepted only in its canonical
form: the padding is complete and the unused bits are zero.
-/

namespace Keywarden.Base64

/-- Why a text is not canonical base64. -/
inductive Fault
  | invalidSymbol (byte : UInt8) (offset : Nat)
  | invalidLength (length : Nat)
  | invalidLastSymbol (byte : UInt8) (offset : Nat)
  | invalidPadding
deriving DecidableEq, Repr

/-- The explanation shown with a refused text. -/
def Fault.message : Fault → String
  | .invalidSymbol byte offset =>
    "Invalid symbol " ++ toString byte.toNat ++ ", offset " ++ toString offset ++ "."
  | .invalidLength length => "Invalid input length: " ++ toString length
  | .invalidLastSymbol byte offset =>
    "Invalid last symbol " ++ toString byte.toNat ++ ", offset " ++ toString offset ++ "."
  | .invalidPadding => "Invalid padding"

def padding : UInt8 := 61

def symbol (value : UInt8) : UInt8 :=
  if value < 26 then 65 + value
  else if value < 52 then 71 + value
  else if value < 62 then value - 4
  else if value = 62 then 43
  else 47

def value? (byte : UInt8) : Option UInt8 :=
  if 65 ≤ byte ∧ byte ≤ 90 then some (byte - 65)
  else if 97 ≤ byte ∧ byte ≤ 122 then some (byte - 71)
  else if 48 ≤ byte ∧ byte ≤ 57 then some (byte + 4)
  else if byte = 43 then some 62
  else if byte = 47 then some 63
  else none

def symbols : Bytes → Bytes
  | [] => []
  | [a] => [symbol (a >>> 2), symbol ((a &&& 3) <<< 4), padding, padding]
  | [a, b] =>
    [symbol (a >>> 2), symbol ((a &&& 3) <<< 4 ||| b >>> 4),
      symbol ((b &&& 15) <<< 2), padding]
  | a :: b :: c :: rest =>
    symbol (a >>> 2) :: symbol ((a &&& 3) <<< 4 ||| b >>> 4) ::
      symbol ((b &&& 15) <<< 2 ||| c >>> 6) :: symbol (c &&& 63) :: symbols rest

def encode (bytes : Bytes) : String :=
  Bytes.ascii (symbols bytes)

def readSymbol (byte : UInt8) (offset : Nat) : Except Fault UInt8 :=
  match value? byte with
  | some value => .ok value
  | none => .error (.invalidSymbol byte offset)

/-- What the last group of at most four bytes holds. -/
structure Group where
  /-- The values of its symbols, in order. -/
  values : List UInt8
  /-- Its last symbol. -/
  last : UInt8
  /-- How many padding signs follow. -/
  pads : Nat

/-- Reads the last group from `offset` on; `index` bytes of it are read. -/
def readGroup (offset index : Nat) (group : Group) : Bytes → Except Fault Group
  | [] => .ok group
  | byte :: rest =>
    if byte = padding then
      if index < 2 then .error (.invalidSymbol byte (offset + index))
      else readGroup offset (index + 1) { group with pads := group.pads + 1 } rest
    else if group.pads ≠ 0 then
      .error (.invalidSymbol padding (offset + index - group.pads))
    else do
      let value ← readSymbol byte (offset + index)
      readGroup offset (index + 1) ⟨group.values ++ [value], byte, 0⟩ rest

/-- The bytes and the unused low bits of two to four values. -/
def unpack : List UInt8 → Bytes × UInt8
  | [a, b] => ([a <<< 2 ||| b >>> 4], b &&& 15)
  | [a, b, c] => ([a <<< 2 ||| b >>> 4, b <<< 4 ||| c >>> 2], c &&& 3)
  | [a, b, c, d] => ([a <<< 2 ||| b >>> 4, b <<< 4 ||| c >>> 2, c <<< 6 ||| d], 0)
  | _ => ([], 0)

/-- Reads the last group of a text, which starts at `offset`. -/
def decodeLast (offset : Nat) (bytes : Bytes) : Except Fault Bytes := do
  let group ← readGroup offset 0 ⟨[], 0, 0⟩ bytes
  let count := group.values.length
  if bytes ≠ [] ∧ count < 2 then
    .error (.invalidLength (offset + count))
  else if (group.pads + count) % 4 ≠ 0 then
    .error .invalidPadding
  else
    let (output, unused) := unpack group.values
    if unused = 0 then .ok output
    else .error (.invalidLastSymbol group.last (offset + count - 1))

def decodeGroups (offset : Nat) : Bytes → Except Fault Bytes
  | a :: b :: c :: d :: e :: rest => do
    let first ← readSymbol a offset
    let second ← readSymbol b (offset + 1)
    let third ← readSymbol c (offset + 2)
    let fourth ← readSymbol d (offset + 3)
    let others ← decodeGroups (offset + 4) (e :: rest)
    return (unpack [first, second, third, fourth]).1 ++ others
  | last => decodeLast offset last

/-- The offset and value of a last byte that stands alone after full groups and
is no part of base64 at all, such as a line feed. -/
def strayEnd? (text : Bytes) : Option (UInt8 × Nat) :=
  match text.getLast? with
  | some last =>
    if text.length % 4 = 1 ∧ last ≠ padding ∧ value? last = none then
      some (last, text.length - 1)
    else none
  | none => none

/-- The bytes that a text, given in UTF-8, stands for.  A stray end is reported
before any other fault; the others are reported in the order of the text. -/
def decode (text : Bytes) : Except Fault Bytes :=
  match strayEnd? text with
  | some (last, offset) => .error (.invalidSymbol last offset)
  | none => decodeGroups 0 text

end Keywarden.Base64
