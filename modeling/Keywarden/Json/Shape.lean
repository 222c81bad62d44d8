import Keywarden.Json.Mismatch

/-!
# Asking a document for a shape

A value is asked for what it is at first sight; only what is asked for is examined.
Some values are taken in whole before they are asked, which examines all of them and
allows only so many levels of nesting.
-/

namespace Keywarden.Json

/-- The result of asking. -/
abbrev Asked := Except Mismatch

def askText (raw : Bytes) : Asked String :=
  match Text.decode raw with
  | .ok text => .ok text
  | .error fault => .error (.invalidText fault)

/-- What a written number stands for. -/
def askNumber (text : NumberText) : Asked Number :=
  match Number.ofText? text with
  | some number => .ok number
  | none => .error .numberOutOfRange

/-- What a value is at first sight. -/
def Value.head : Value → Asked Head
  | .null => .ok .null
  | .bool value => .ok (.bool value)
  | .number text => (askNumber text).map .number
  | .string raw => (askText raw).map .string
  | .array _ => .ok .array
  | .object _ => .ok .object

/-- A value that was taken in whole. -/
inductive Content
  | plain (head : Head)
  | array (items : List Content)
  | object (members : List (String × Content))

instance : Inhabited Content :=
  ⟨.plain .null⟩

/-- What a value that was taken in is at first sight. -/
def Content.head : Content → Head
  | .plain head => head
  | .array _ => .array
  | .object _ => .object

mutual

/-- Takes a value in; `room` more levels of nesting are allowed. -/
def Value.takeIn (room : Nat) : Value → Asked Content
  | .array items =>
    match room with
    | 0 => .error .tooDeep
    | room + 1 => do return .array (← takeInItems room items)
  | .object members =>
    match room with
    | 0 => .error .tooDeep
    | room + 1 => do return .object (← takeInMembers room members)
  | .null => .ok (.plain .null)
  | .bool value => .ok (.plain (.bool value))
  | .number text => (askNumber text).map fun number => .plain (.number number)
  | .string raw => (askText raw).map fun text => .plain (.string text)

def Value.takeInItems (room : Nat) : List Value → Asked (List Content)
  | [] => .ok []
  | item :: rest => do
    let content ← Value.takeIn room item
    return content :: (← takeInItems room rest)

def Value.takeInMembers (room : Nat) : List (Bytes × Value) → Asked (List (String × Content))
  | [] => .ok []
  | (name, value) :: rest => do
    let name ← askText name
    let content ← Value.takeIn room value
    return (name, content) :: (← takeInMembers room rest)

end

def wantText (head : Head) : Asked String :=
  match head with
  | .string text => .ok text
  | _ => .error (.invalidType head "a string")

/-- Asks for a whole number between two bounds. -/
def wantInteger (least greatest : Int) (expected : String) (head : Head) : Asked Int :=
  let bounded (value : Int) : Asked Int :=
    if least ≤ value ∧ value ≤ greatest then .ok value
    else .error (.invalidInteger value expected)
  match head with
  | .number (.unsigned value) => bounded value
  | .number (.negative value) => bounded value
  | _ => .error (.invalidType head expected)

/-- Asks for a signed number of 32 bits. -/
def wantInt32 (head : Head) : Asked Int32 :=
  (wantInteger Int32.minValue.toInt Int32.maxValue.toInt "i32" head).map Int32.ofInt

/-- Asks for an unsigned number of 32 bits. -/
def wantUInt32 (head : Head) : Asked UInt32 :=
  (wantInteger 0 (UInt32.size - 1) "u32" head).map fun value => UInt32.ofNat value.toNat

def wantBytes (head : Head) : Asked Bytes := do
  match Base64.decode (Bytes.ofString (← wantText head)) with
  | .ok bytes => .ok bytes
  | .error fault => .error (.invalidBase64 fault)

/-- Asks for bytes in base64 where nothing and the empty text mean none. -/
def wantOptionalBytes (head : Head) : Asked (Option Bytes) :=
  match head with
  | .null => .ok none
  | .string "" => .ok none
  | head => (wantBytes head).map some

/-- A field of a record that is being filled: it must not be there yet. -/
def fill {α : Type} (name : String) (field : Option α) (value : Asked α) :
    Asked (Option α) :=
  match field with
  | some _ => .error (.duplicateField name)
  | none => value.map some

/-- A field of a filled record that must be there. -/
def require {α : Type} (name : String) (field : Option α) : Asked α :=
  match field with
  | some value => .ok value
  | none => .error (.missingField name)

/-- The mismatch of a taken-in array that has more items than were used. -/
def excess (used length : Nat) : Mismatch :=
  .invalidLength length <|
    toString used ++ (if used = 1 then " element" else " elements") ++ " in sequence"

end Keywarden.Json
