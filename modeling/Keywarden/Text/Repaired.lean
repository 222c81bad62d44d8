import Keywarden.Bytes

/-!
# Repaired text

Bytes need not be the encoding of a text.  They can be read as one all the same: each run
that could begin a character and does not go on as one is read as a replacement mark.
-/

namespace Keywarden.Bytes

/-- Stands for bytes that are no character. -/
def replacement : Char := '\ufffd'

/-- How many bytes follow the first one of a character, and the range of the next one. -/
def continuation? (lead : UInt8) : Option (Nat × UInt8 × UInt8) :=
  if lead < 0x80 then some (0, 0x80, 0xbf)
  else if lead < 0xc2 then none
  else if lead < 0xe0 then some (1, 0x80, 0xbf)
  else if lead = 0xe0 then some (2, 0xa0, 0xbf)
  else if lead = 0xed then some (2, 0x80, 0x9f)
  else if lead < 0xf0 then some (2, 0x80, 0xbf)
  else if lead = 0xf0 then some (3, 0x90, 0xbf)
  else if lead < 0xf4 then some (3, 0x80, 0xbf)
  else if lead = 0xf4 then some (3, 0x80, 0x8f)
  else none

/-- The bytes, as many as asked for, that can stand behind the first one of a character. -/
def continued : (count : Nat) → (low high : UInt8) → Bytes → Bytes
  | count + 1, low, high, byte :: rest =>
    if low ≤ byte && byte ≤ high then byte :: continued count 0x80 0xbf rest else []
  | _, _, _, _ => []

/-- The first character of some bytes and how many bytes behind the first belong to it. -/
def firstChar (lead : UInt8) (rest : Bytes) : Char × Nat :=
  match continuation? lead with
  | none => (replacement, 0)
  | some (count, low, high) =>
    let tail := continued count low high rest
    (((text? (lead :: tail)).bind (·.toList.head?)).getD replacement, tail.length)

def repairedChars : Bytes → List Char
  | [] => []
  | lead :: rest =>
    let (char, length) := firstChar lead rest
    char :: repairedChars (rest.drop length)
termination_by bytes => bytes.length
decreasing_by simp only [List.length_drop, List.length_cons]; omega

/-- The text that bytes are read as; the text that they encode if there is one. -/
def repaired (bytes : Bytes) : String :=
  (text? bytes).getD (String.ofList (repairedChars bytes))

end Keywarden.Bytes
