import Keywarden.Json.Document
import Keywarden.Notifier
import Keywarden.Unlocking

/-!
# Unlock requests

A transport hands over the body of a request; a successful unlock is answered and
published.
-/

namespace Keywarden

open Json

/-- A request to unlock with a passphrase. -/
structure UnlockRequest where
  passphrase : String
deriving DecidableEq

namespace UnlockRequest

/-- What stands for a request in messages. -/
def expected : String := "internally tagged enum UnlockRequest"

def ofMembers (passphrase : Option String) : List (String × Content) → Asked UnlockRequest
  | [] => do return ⟨← require "passphrase" passphrase⟩
  | (name, content) :: rest => do
    if name = "passphrase" then
      ofMembers (← fill name passphrase (wantText content.head)) rest
    else
      ofMembers passphrase rest

def ofItems (items : List Content) : Asked UnlockRequest := do
  let item ← askItem items 0 "struct variant UnlockRequest::Passphrase with 1 element"
  let passphrase ← wantText item.head
  if 1 < items.length then .error (excess 1 items.length)
  else return ⟨passphrase⟩

/-- The request in a document, of which 127 levels are read. -/
def ofValue (value : Value) : Asked UnlockRequest := do
  match ← askTagged expected [("passphrase", ())] 126 value with
  | (_, .object members) => ofMembers none members
  | (_, .array items) => ofItems items
  | (_, .plain head) => .error (.invalidType head expected)

def decode (body : Bytes) : Except Refusal UnlockRequest :=
  readAs ofValue body

end UnlockRequest

/-- The answer to a successful request. -/
structure UnlockResponse where
  /-- The factor that worked, in words. -/
  factor : String
deriving DecidableEq

/-- Reads an event from the text that a subscriber was sent. -/
def Event.decode (text : Bytes) : Except Refusal Event :=
  (readAs (askRecord "struct UnlockedEvent" ["message"]) text).map fun texts =>
    ⟨texts.headD ""⟩

/-- A service between requests: its subscribers and the state of the building blocks. -/
structure UnlockService (σ : Type) where
  notifier : Notifier
  host : σ

namespace UnlockService

variable {σ : Type}

/-- An action of the building blocks. -/
def lift {α : Type} (action : Action σ α) : Action (UnlockService σ) α :=
  Action.focus UnlockService.host (fun service host => { service with host }) action

def handle (info : InfoFile) (request : UnlockRequest) (primitives : Primitives σ) :
    Action (UnlockService σ) (Unlocked × UnlockResponse) := do
  let unlocked ← lift (Unlocking.unlock info primitives (.stored (some request.passphrase)))
  modify fun service => { service with notifier := service.notifier.publish .unlocked }
  return (unlocked, ⟨unlocked.factor.shown⟩)

end UnlockService

end Keywarden
