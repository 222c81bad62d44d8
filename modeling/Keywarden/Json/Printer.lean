import Keywarden.Json.Syntax
import Keywarden.Json.Text

/-!
# Writing JSON documents

Documents are written over several lines, two spaces for each level, except that an
empty array or object takes no line of its own.
-/

namespace Keywarden.Json

def Value.ofText (text : String) : Value :=
  .string (Text.encode text)

/-- The decimal digits of a number. -/
def natDigits (value : Nat) : Bytes :=
  (Nat.toDigits 10 value).map fun char => UInt8.ofNat char.toNat

/-- The document of a whole number. -/
def Value.ofInt (value : Int) : Value :=
  .number ⟨value < 0, natDigits value.natAbs, none, none⟩

/-- The document of an object whose names need no escapes. -/
def Value.ofMembers (members : List (String × Value)) : Value :=
  .object (members.map fun (name, value) => (Text.encode name, value))

def NumberText.toBytes (text : NumberText) : Bytes :=
  (if text.isNegative then [45] else []) ++ text.whole ++
    (match text.fraction with
    | some digits => 46 :: digits
    | none => []) ++
    (match text.exponent with
    | some (isNegative, digits) => 101 :: (if isNegative then 45 else 43) :: digits
    | none => [])

def newLine (level : Nat) : Bytes :=
  10 :: List.replicate (2 * level) 32

def inQuotes (raw : Bytes) : Bytes :=
  34 :: raw ++ [34]

mutual

/-- A document at a level of indentation. -/
def Value.write (level : Nat) : Value → Bytes
  | .null => [110, 117, 108, 108]
  | .bool true => [116, 114, 117, 101]
  | .bool false => [102, 97, 108, 115, 101]
  | .number text => text.toBytes
  | .string raw => inQuotes raw
  | .array [] => [91, 93]
  | .array (item :: rest) =>
    91 :: newLine (level + 1) ++ Value.write (level + 1) item ++
      Value.writeItems (level + 1) rest ++ newLine level ++ [93]
  | .object [] => [123, 125]
  | .object ((name, value) :: rest) =>
    123 :: newLine (level + 1) ++ inQuotes name ++ [58, 32] ++
      Value.write (level + 1) value ++ Value.writeMembers (level + 1) rest ++
      newLine level ++ [125]

/-- The items after the first one. -/
def Value.writeItems (level : Nat) : List Value → Bytes
  | [] => []
  | item :: rest =>
    44 :: newLine level ++ Value.write level item ++ Value.writeItems level rest

/-- The members after the first one. -/
def Value.writeMembers (level : Nat) : List (Bytes × Value) → Bytes
  | [] => []
  | (name, value) :: rest =>
    44 :: newLine level ++ inQuotes name ++ [58, 32] ++ Value.write level value ++
      Value.writeMembers level rest

end

/-- A document as it stands in a file. -/
def Value.pretty (value : Value) : Bytes :=
  value.write 0

end Keywarden.Json
