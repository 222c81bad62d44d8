import Keywarden.Json.Reader
import Keywarden.Json.Tagged

/-!
# Documents with a required shape

The grammar is checked first, over the whole text; only then is the document asked
for its shape.
-/

namespace Keywarden.Json

/-- Why a text is not a document of a shape. -/
inductive Refusal
  | syntaxError
  | mismatched (mismatch : Mismatch)
deriving DecidableEq

def Refusal.message : Refusal → String
  | .syntaxError => "(syntax)"
  | .mismatched mismatch => mismatch.message

def readAs {α : Type} (shape : Value → Asked α) (text : Bytes) : Except Refusal α :=
  match Reader.read? text with
  | none => .error .syntaxError
  | some document =>
    match shape document with
    | .ok value => .ok value
    | .error mismatch => .error (.mismatched mismatch)

/-- Reads the members of a record that asks for nothing but texts, in order; `filled`
holds what was read so far. -/
def askTexts (names : List String) (filled : List (String × String)) :
    List (Bytes × Value) → Asked (List (String × String))
  | [] => .ok filled
  | (name, value) :: rest => do
    let name ← askText name
    if names.contains name then
      match ← fill name (filled.lookup name) (value.head >>= wantText) with
      | some text => askTexts names ((name, text) :: filled) rest
      | none => askTexts names filled rest
    else
      askTexts names filled rest

/-- The texts of a record whose fields are the given names; `expected` stands for it in
messages. -/
def askRecord (expected : String) (names : List String) : Value → Asked (List String)
  | .object members => do
    let filled ← askTexts names [] members
    names.mapM fun name => require name (filled.lookup name)
  | .array items => do
    let texts ← (List.range names.length).mapM fun index => do
      let wanted := expected ++ " with " ++ toString names.length ++
        (if names.length = 1 then " element" else " elements")
      (← askItem items index wanted).head >>= wantText
    if names.length < items.length then .error .trailingItems
    else return texts
  | value => do .error (.invalidType (← value.head) expected)

end Keywarden.Json
