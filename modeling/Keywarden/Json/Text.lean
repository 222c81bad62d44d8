import Keywarden.Bytes

/-!
# JSON strings

How a text is written between quotation marks, and which text such bytes stand
for.
-/

namespace Keywarden.Json.Text

/-- Why the bytes of a string stand for no text. -/
inductive Fault
  | loneSurrogate
  | endOfEscape
  | invalidCodePoint
deriving DecidableEq, Repr

/-- The value of a hexadecimal digit. -/
def hexValue (byte : UInt8) : Nat :=
  if byte ≤ 57 then byte.toNat - 48
  else if byte ≤ 70 then byte.toNat - 55
  else byte.toNat - 87

/-- The number that four hexadecimal digits write. -/
def codeUnit (a b c d : UInt8) : Nat :=
  ((hexValue a * 16 + hexValue b) * 16 + hexValue c) * 16 + hexValue d

def encodePoint (code : Nat) : Bytes :=
  String.utf8EncodeChar (Char.ofNat code)

def unescapeByte (sign : UInt8) : UInt8 :=
  if sign = 98 then 8
  else if sign = 102 then 12
  else if sign = 110 then 10
  else if sign = 114 then 13
  else if sign = 116 then 9
  else sign

def follow (bytes : Bytes) (rest : Except Fault Bytes) : Except Fault Bytes :=
  match rest with
  | .ok rest => .ok (bytes ++ rest)
  | .error fault => .error fault

/-- Replaces the escapes.  A number in the first half of a pair needs the second
half right after it. -/
def unescape (raw : Bytes) : Except Fault Bytes :=
  match raw with
  | [] => .ok []
  | 92 :: 117 :: a :: b :: c :: d :: rest =>
    let unit := codeUnit a b c d
    if 0xdc00 ≤ unit ∧ unit ≤ 0xdfff then .error .loneSurrogate
    else if unit < 0xd800 ∨ 0xdbff < unit then follow (encodePoint unit) (unescape rest)
    else
      match rest with
      | 92 :: 117 :: e :: f :: g :: h :: rest =>
        let second := codeUnit e f g h
        if second < 0xdc00 ∨ 0xdfff < second then .error .loneSurrogate
        else
          let code := (unit - 0xd800) * 1024 + (second - 0xdc00) + 0x10000
          follow (encodePoint code) (unescape rest)
      | _ => .error .endOfEscape
  | 92 :: sign :: rest => follow [unescapeByte sign] (unescape rest)
  | byte :: rest => follow [byte] (unescape rest)

def decode (raw : Bytes) : Except Fault String :=
  match unescape raw with
  | .error fault => .error fault
  | .ok bytes =>
    match bytes.text? with
    | some text => .ok text
    | none => .error .invalidCodePoint

def hexDigit (value : UInt8) : UInt8 :=
  if value < 10 then 48 + value else 87 + value

/-- A byte as it is written inside a string: quotation marks, backslashes and
controls are escaped. -/
def escapeByte (byte : UInt8) : Bytes :=
  if byte = 34 then [92, 34]
  else if byte = 92 then [92, 92]
  else if byte = 8 then [92, 98]
  else if byte = 9 then [92, 116]
  else if byte = 10 then [92, 110]
  else if byte = 12 then [92, 102]
  else if byte = 13 then [92, 114]
  else if byte < 32 then [92, 117, 48, 48, hexDigit (byte >>> 4), hexDigit (byte &&& 15)]
  else [byte]

def encode (text : String) : Bytes :=
  (Bytes.ofString text).flatMap escapeByte

end Keywarden.Json.Text
