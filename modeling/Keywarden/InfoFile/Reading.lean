import Keywarden.InfoFile
import Keywarden.Json.Document

/-!
# Reading info files

Records are objects, or arrays of their fields in order.  Unknown members are passed
over, known ones must not occur twice, and the first mismatch in the order of the
document is the one that is reported.
-/

namespace Keywarden

open Json

/-- The cost under construction. -/
structure CostDraft where
  memoryKib : Option UInt32
  iterations : Option UInt32
  parallelism : Option UInt32

namespace CostDraft

def empty : CostDraft :=
  ⟨none, none, none⟩

/-- What stands for a cost in messages. -/
def expected : String := "struct StoredArgon2Params"

def add (draft : CostDraft) (name : String) (head : Asked Head) : Asked CostDraft :=
  match name with
  | "memory_kib" => do
    return { draft with memoryKib := ← fill name draft.memoryKib (head >>= wantUInt32) }
  | "iterations" => do
    return { draft with iterations := ← fill name draft.iterations (head >>= wantUInt32) }
  | "parallelism" => do
    return { draft with parallelism := ← fill name draft.parallelism (head >>= wantUInt32) }
  | _ => .ok draft

/-- The cost, if every field was there. -/
def finish (draft : CostDraft) : Asked DerivationCost := do
  let memoryKib ← require "memory_kib" draft.memoryKib
  let iterations ← require "iterations" draft.iterations
  let parallelism ← require "parallelism" draft.parallelism
  return ⟨memoryKib, iterations, parallelism⟩

def ofMembers (draft : CostDraft) : List (Asked String × Asked Head) → Asked DerivationCost
  | [] => draft.finish
  | (name, head) :: rest => do
    let draft ← draft.add (← name) head
    ofMembers draft rest

/-- Reads the items of an array; `long` complains about a longer array. -/
def ofItems (long : Mismatch) (items : List (Asked Head)) : Asked DerivationCost := do
  let wanted := expected ++ " with 3 elements"
  let memoryKib ← (← askItem items 0 wanted) >>= wantUInt32
  let iterations ← (← askItem items 1 wanted) >>= wantUInt32
  let parallelism ← (← askItem items 2 wanted) >>= wantUInt32
  if 3 < items.length then .error long
  else return ⟨memoryKib, iterations, parallelism⟩

def ofValue : Value → Asked DerivationCost
  | .object members => ofMembers empty (members.map fun (name, value) => (askText name, value.head))
  | .array items => ofItems .trailingItems (items.map Value.head)
  | value => do .error (.invalidType (← value.head) expected)

/-- The cost in a value that was taken in. -/
def ofContent : Content → Asked DerivationCost
  | .object members =>
    ofMembers empty (members.map fun (name, content) => (.ok name, .ok content.head))
  | .array items => ofItems (excess 3 items.length) (items.map fun item => .ok item.head)
  | .plain head => .error (.invalidType head expected)

def ofOptionalValue : Value → Asked (Option DerivationCost)
  | .null => .ok none
  | value => (ofValue value).map some

end CostDraft

/-- A passphrase entry under construction. -/
structure PassphraseDraft where
  salt : Option Bytes
  confirmationHash : Option Bytes
  wrappedKey : Option Bytes
  cost : Option DerivationCost

namespace PassphraseDraft

def empty : PassphraseDraft :=
  ⟨none, none, none, none⟩

def add (draft : PassphraseDraft) (name : String) (content : Content) : Asked PassphraseDraft :=
  match name with
  | "salt" => do return { draft with salt := ← fill name draft.salt (wantBytes content.head) }
  | "confirmation_hash" => do
    return { draft with
      confirmationHash := ← fill name draft.confirmationHash (wantBytes content.head) }
  | "wrapped_key" => do
    return { draft with wrappedKey := ← fill name draft.wrappedKey (wantBytes content.head) }
  | "argon2" => do
    return { draft with cost := ← fill name draft.cost (CostDraft.ofContent content) }
  | _ => .ok draft

/-- The entry; a missing cost is the standard one. -/
def finish (draft : PassphraseDraft) : Asked PassphraseEntry := do
  let salt ← require "salt" draft.salt
  let confirmationHash ← require "confirmation_hash" draft.confirmationHash
  let wrappedKey ← require "wrapped_key" draft.wrappedKey
  return ⟨salt, confirmationHash, wrappedKey, draft.cost.getD .standard⟩

def ofMembers (draft : PassphraseDraft) : List (String × Content) → Asked PassphraseEntry
  | [] => draft.finish
  | (name, content) :: rest => do
    let draft ← draft.add name content
    ofMembers draft rest

/-- Reads the items of an array; the cost may be missing. -/
def ofItems (items : List Content) : Asked PassphraseEntry := do
  let wanted := "struct variant KeyEntry::Passphrase with 4 elements"
  let salt ← wantBytes (← askItem items 0 wanted).head
  let confirmationHash ← wantBytes (← askItem items 1 wanted).head
  let wrappedKey ← wantBytes (← askItem items 2 wanted).head
  let cost ← match items[3]? with
    | some content => CostDraft.ofContent content
    | none => .ok .standard
  if 4 < items.length then .error (excess 4 items.length)
  else return ⟨salt, confirmationHash, wrappedKey, cost⟩

end PassphraseDraft

/-- An asymmetric entry under construction. -/
structure AsymmetricDraft where
  recipientId : Option String
  wrappedKey : Option Bytes

namespace AsymmetricDraft

def empty : AsymmetricDraft :=
  ⟨none, none⟩

def add (draft : AsymmetricDraft) (name : String) (content : Content) : Asked AsymmetricDraft :=
  match name with
  | "recipient_id" => do
    return { draft with recipientId := ← fill name draft.recipientId (wantText content.head) }
  | "wrapped_key" => do
    return { draft with wrappedKey := ← fill name draft.wrappedKey (wantBytes content.head) }
  | _ => .ok draft

/-- The entry, if every field was there. -/
def finish (draft : AsymmetricDraft) : Asked AsymmetricEntry := do
  let recipientId ← require "recipient_id" draft.recipientId
  let wrappedKey ← require "wrapped_key" draft.wrappedKey
  return ⟨recipientId, wrappedKey⟩

def ofMembers (draft : AsymmetricDraft) : List (String × Content) → Asked AsymmetricEntry
  | [] => draft.finish
  | (name, content) :: rest => do
    let draft ← draft.add name content
    ofMembers draft rest

def ofItems (items : List Content) : Asked AsymmetricEntry := do
  let wanted := "struct variant KeyEntry::Asymmetric with 2 elements"
  let recipientId ← wantText (← askItem items 0 wanted).head
  let wrappedKey ← wantBytes (← askItem items 1 wanted).head
  if 2 < items.length then .error (excess 2 items.length)
  else return ⟨recipientId, wrappedKey⟩

end AsymmetricDraft

namespace KeyEntry

/-- The two kinds of entry. -/
inductive Kind
  | passphrase
  | asymmetric
deriving DecidableEq

def kinds : List (String × Kind) :=
  [("passphrase", .passphrase), ("asymmetric", .asymmetric)]

/-- The entry of a kind that the rest of its record describes. -/
def ofContent : Kind → Content → Asked KeyEntry
  | .passphrase, .object members =>
    (PassphraseDraft.ofMembers .empty members).map .passphrase
  | .passphrase, .array items => (PassphraseDraft.ofItems items).map .passphrase
  | .asymmetric, .object members =>
    (AsymmetricDraft.ofMembers .empty members).map .asymmetric
  | .asymmetric, .array items => (AsymmetricDraft.ofItems items).map .asymmetric
  | _, .plain head => .error (.invalidType head "internally tagged enum KeyEntry")

/-- The entry in a value; it stands three levels deep in a document of which 127
levels are read. -/
def ofValue (value : Value) : Asked KeyEntry := do
  let (kind, content) ← askTagged "internally tagged enum KeyEntry" kinds 124 value
  ofContent kind content

def ofValues : List Value → Asked (List KeyEntry)
  | [] => .ok []
  | value :: rest => do
    let entry ← ofValue value
    return entry :: (← ofValues rest)

def listOfValue : Value → Asked (List KeyEntry)
  | .array items => ofValues items
  | value => do .error (.invalidType (← value.head) "a sequence")

end KeyEntry

/-- An info file under construction. -/
structure InfoDraft where
  app : Option String
  version : Option Int32
  keys : Option (List KeyEntry)
  salt : Option (Option Bytes)
  confirmationHash : Option (Option Bytes)
  cost : Option (Option DerivationCost)

namespace InfoDraft

def empty : InfoDraft :=
  ⟨none, none, none, none, none, none⟩

def add (draft : InfoDraft) (name : String) (value : Value) : Asked InfoDraft :=
  match name with
  | "app" => do return { draft with app := ← fill name draft.app (value.head >>= wantText) }
  | "version" => do
    return { draft with version := ← fill name draft.version (value.head >>= wantInt32) }
  | "keys" => do
    return { draft with keys := ← fill name draft.keys (KeyEntry.listOfValue value) }
  | "salt" => do
    return { draft with salt := ← fill name draft.salt (value.head >>= wantOptionalBytes) }
  | "confirmation_hash" => do
    return { draft with
      confirmationHash := ← fill name draft.confirmationHash (value.head >>= wantOptionalBytes) }
  | "argon2" => do
    return { draft with cost := ← fill name draft.cost (CostDraft.ofOptionalValue value) }
  | _ => .ok draft

/-- The info file; everything but the marker and the version may be missing. -/
def finish (draft : InfoDraft) : Asked InfoFile := do
  let app ← require "app" draft.app
  let version ← require "version" draft.version
  return ⟨app, version, draft.keys.getD [], draft.salt.getD none,
    draft.confirmationHash.getD none, draft.cost.getD none⟩

def ofMembers (draft : InfoDraft) : List (Bytes × Value) → Asked InfoFile
  | [] => draft.finish
  | (name, value) :: rest => do
    let draft ← draft.add (← askText name) value
    ofMembers draft rest

/-- An item that may be missing at the end of an array. -/
def optionalItem {α : Type} (items : List Value) (index : Nat) (absent : α)
    (read : Value → Asked α) : Asked α :=
  match items[index]? with
  | some value => read value
  | none => .ok absent

def ofItems (items : List Value) : Asked InfoFile := do
  let wanted := "struct InfoFile with 6 elements"
  let app ← (← askItem items 0 wanted).head >>= wantText
  let version ← (← askItem items 1 wanted).head >>= wantInt32
  let keys ← optionalItem items 2 [] KeyEntry.listOfValue
  let salt ← optionalItem items 3 none fun value => value.head >>= wantOptionalBytes
  let confirmationHash ← optionalItem items 4 none fun value => value.head >>= wantOptionalBytes
  let cost ← optionalItem items 5 none CostDraft.ofOptionalValue
  if 6 < items.length then .error .trailingItems
  else return ⟨app, version, keys, salt, confirmationHash, cost⟩

def ofValue : Value → Asked InfoFile
  | .object members => ofMembers empty members
  | .array items => ofItems items
  | value => do .error (.invalidType (← value.head) "struct InfoFile")

end InfoDraft

namespace InfoFile

/-- The info file in the bytes of a document.  The marker is checked; the version is
left for migration to judge. -/
def decode (data : Bytes) : Except Failure InfoFile :=
  match Json.readAs InfoDraft.ofValue data with
  | .error refusal => .error (.invalidInfoFile ("JSON: " ++ refusal.message))
  | .ok info =>
    if info.app = appName then .ok info
    else .error (.invalidInfoFile ("unexpected app marker '" ++ info.app ++ "'"))

end InfoFile

end Keywarden
