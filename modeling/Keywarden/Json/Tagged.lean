import Keywarden.Json.Shape

/-!
# Records that name their own kind

A record whose member `type` says which kind of record it is.  The member may stand
anywhere, so the other members are taken in until it is known; in an array it comes
first.
-/

namespace Keywarden.Json

variable {κ : Type}

def askKind (known : List (String × κ)) (head : Head) : Asked κ :=
  match head with
  | .string name =>
    match known.lookup name with
    | some kind => .ok kind
    | none => .error (.unknownVariant name (known.map Prod.fst))
  | _ => .error (.invalidType head "variant identifier")

/-- Reads the members of a record in order; `kind` is the kind if it is known yet. -/
def askTaggedMembers (known : List (String × κ)) (room : Nat) (kind : Option κ) :
    List (Bytes × Value) → Asked (κ × List (String × Content))
  | [] => do return (← require "type" kind, [])
  | (name, value) :: rest => do
    let name ← askText name
    if name = "type" then
      let kind ← fill name kind (value.head >>= askKind known)
      askTaggedMembers known room kind rest
    else
      let content ← value.takeIn room
      let (kind, members) ← askTaggedMembers known room kind rest
      return (kind, (name, content) :: members)

/-- The kind of a record and everything else in it. -/
def askTagged (expected : String) (known : List (String × κ)) (room : Nat) :
    Value → Asked (κ × Content)
  | .object members => do
    let (kind, members) ← askTaggedMembers known room none members
    return (kind, .object members)
  | .array [] => .error (.missingField "type")
  | .array (first :: rest) => do
    let kind ← first.head >>= askKind known
    return (kind, .array (← Value.takeInItems room rest))
  | value => do .error (.invalidType (← value.head) expected)

/-- The item of an array at a position, or the complaint that the array is short. -/
def askItem {α : Type} (items : List α) (index : Nat) (expected : String) : Asked α :=
  match items[index]? with
  | some item => .ok item
  | none => .error (.invalidLength index expected)

end Keywarden.Json
