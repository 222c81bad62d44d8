import Keywarden.Factor
import Keywarden.InfoFile
import Keywarden.Primitives

/-!
# Unlocking

Asymmetric entries are tried first, in order, since they need no input.  Only
then is a passphrase acquired, once, and tried against every passphrase entry
and at last against the legacy passphrase.
-/

namespace Keywarden.Unlocking

variable {σ : Type}

def noMatch : Failure :=
  .invalidCredentials "Cannot unlock the repository"

/-- The first asymmetric entry that opens to a master key; the others are passed
over. -/
def tryAsymmetric (primitives : Primitives σ) :
    List AsymmetricEntry → Action σ (Option Unlocked)
  | [] => return none
  | entry :: rest => do
    match ← Action.attempt (primitives.asymmetricUnwrap entry.wrappedKey) with
    | .error _ => tryAsymmetric primitives rest
    | .ok opened =>
      match MasterKey.ofPayload opened.payload with
      | .ok masterKey => return some ⟨masterKey, .recipient entry.recipientId⟩
      | .error _ => tryAsymmetric primitives rest

/-- The first entry whose confirmation hash the passphrase meets; from there on
every failure is final. -/
def tryPassphrases (primitives : Primitives σ) (passphrase : Bytes) :
    List (Nat × PassphraseEntry) → Action σ (Option Unlocked)
  | [] => return none
  | (index, entry) :: rest => do
    let (wrappingKey, candidate) ← primitives.deriveKey passphrase entry.salt entry.cost
    if candidate.accepts entry.confirmationHash then
      let payload ← primitives.unwrap wrappingKey entry.wrappedKey
      let masterKey ← Action.ofExcept (MasterKey.ofPayload payload)
      return some ⟨masterKey, .passphrase index⟩
    else
      tryPassphrases primitives passphrase rest

/-- The master key of the legacy passphrase, if the passphrase is the right one. -/
def legacyMasterKey (info : InfoFile) (passphrase : Bytes) (primitives : Primitives σ) :
    Action σ (Option MasterKey) := do
  match info.legacyPassphrase? with
  | none => return none
  | some legacy =>
    let (derived, candidate) ← primitives.deriveKey passphrase legacy.salt legacy.cost
    if candidate.accepts legacy.confirmationHash then return some derived.asMaster
    else return none

def withPassphrase (info : InfoFile) (passphrase : String) (primitives : Primitives σ) :
    Action σ Unlocked := do
  let bytes := Bytes.ofString passphrase
  match ← tryPassphrases primitives bytes info.passphrases with
  | some unlocked => return unlocked
  | none =>
    match ← legacyMasterKey info bytes primitives with
    | some masterKey => return ⟨masterKey, .legacy⟩
    | none => Action.fail noMatch

/-- Unlocks with whatever factor works. -/
def unlock (info : InfoFile) (primitives : Primitives σ) (source : PassphraseSource σ) :
    Action σ Unlocked := do
  match ← tryAsymmetric primitives info.asymmetrics with
  | some unlocked => return unlocked
  | none => withPassphrase info (← source.acquire) primitives

end Keywarden.Unlocking
