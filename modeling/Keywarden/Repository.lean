import Keywarden.Unlocking

/-!
# Operations on a repository's factors

Creating key material, adding and removing factors, and moving old files
forward.  The operations edit an info file in place; the building blocks see
only the state beside it.
-/

namespace Keywarden

/-- An info file under edit and the state of the building blocks. -/
structure Session (σ : Type) where
  info : InfoFile
  host : σ

abbrev Edit (σ : Type) := Action (Session σ)

namespace Edit

variable {σ α : Type}

/-- An action of the building blocks; it leaves the info file alone. -/
def lift (action : Action σ α) : Edit σ α :=
  Action.focus Session.host (fun session host => { session with host }) action

def info : Edit σ InfoFile := do
  return (← get).info

def setInfo (info : InfoFile) : Edit σ Unit :=
  modify fun session => { session with info }

def onFile (info : InfoFile) (edit : Edit σ α) : Action σ (α × InfoFile) := fun host =>
  match edit ⟨info, host⟩ with
  | (.ok value, session) => (.ok (value, session.info), session.host)
  | (.error stop, session) => (.error stop, session.host)

end Edit

/-- What moving a file forward did. -/
structure UpgradeReport where
  fromVersion : Int32
  toVersion : Int32
  /-- Whether the legacy passphrase was wrapped anew. -/
  rotatedPassphrase : Bool
deriving DecidableEq

namespace Repository

variable {σ : Type}

/-- Adds an entry for a recipient. -/
def addRecipient (masterKey : MasterKey) (recipientId : String) (primitives : Primitives σ) :
    Edit σ Unit := do
  if (← Edit.info).hasRecipient recipientId then
    Action.fail InfoFile.duplicateRecipient
  else
    let wrappedKey ← Edit.lift (primitives.asymmetricWrap masterKey.bytes recipientId)
    Edit.setInfo (← Action.ofExcept ((← Edit.info).addAsymmetric ⟨recipientId, wrappedKey⟩))

/-- Wraps a master key for a passphrase under a new salt and the configured cost,
and adds the entry. -/
def appendPassphrase (masterKey : MasterKey) (passphrase : Bytes)
    (primitives : Primitives σ) : Edit σ Unit := do
  let salt ← Edit.lift primitives.generateSalt
  let cost := primitives.cost (← get).host
  let (wrappingKey, hash) ← Edit.lift (primitives.deriveKey passphrase salt cost)
  let wrappedKey ← Edit.lift (primitives.wrap wrappingKey masterKey.bytes)
  Edit.setInfo (← Action.ofExcept
    ((← Edit.info).addPassphrase ⟨salt, hash.bytes, wrappedKey, cost⟩))

/-- Adds an entry for a passphrase that does not unlock the repository yet. -/
def addPassphrase (masterKey : MasterKey) (passphrase : String) (primitives : Primitives σ) :
    Edit σ Unit := do
  let info ← Edit.info
  match ← Action.attempt (Edit.lift (Unlocking.withPassphrase info passphrase primitives)) with
  | .ok _ =>
    Action.fail (.duplicateFactor "This passphrase has already been added to the repository")
  | .error (.invalidCredentials _) =>
    appendPassphrase masterKey (Bytes.ofString passphrase) primitives
  | .error failure => Action.fail failure

def addFactor (masterKey : MasterKey) (factor : FactorSpec) (primitives : Primitives σ)
    (source : PassphraseSource σ) : Edit σ Unit := do
  match factor with
  | .recipient id => addRecipient masterKey id primitives
  | .passphrase => addPassphrase masterKey (← Edit.lift source.acquire) primitives

def create (first : FactorSpec) (primitives : Primitives σ) (source : PassphraseSource σ) :
    Action σ (MasterKey × InfoFile) := do
  let masterKey ← primitives.generateMasterKey
  let ((), info) ← Edit.onFile InfoFile.empty (addFactor masterKey first primitives source)
  return (masterKey, info)

def position? (keys : List KeyEntry) : FactorId → Option Nat
  | .recipient id => keys.findIdx? (·.isRecipient id)
  | .passphrase index =>
    match keys[index]? with
    | some (.passphrase _) => some index
    | _ => none
  | .legacy => none

/-- Removes a factor and returns its entry; the only factor stays. -/
def removeFactor (target : FactorId) : Edit σ KeyEntry := do
  let info ← Edit.info
  match position? info.keys target with
  | none => Action.fail (.factorNotFound target.shown)
  | some index =>
    match info.keys[index]? with
    | none => Action.fail (.factorNotFound target.shown)
    | some removed =>
      if info.factorCount ≤ 1 then
        Action.fail .lastFactor
      else
        Edit.setInfo { info with keys := info.keys.eraseIdx index }
        return removed

/-- The failure when the legacy passphrase is not the right one. -/
def migrationRefused : Failure :=
  .invalidCredentials "Cannot unlock the repository to migrate it"

/-- Moves the legacy passphrase, if there is one, into the list of entries, under
a new salt; tells whether there was one. -/
def rotateLegacy (primitives : Primitives σ) (source : PassphraseSource σ) :
    Edit σ Bool := do
  if (← Edit.info).hasLegacyPassphrase then
    let passphrase := Bytes.ofString (← Edit.lift source.acquire)
    match ← Edit.lift (Unlocking.legacyMasterKey (← Edit.info) passphrase primitives) with
    | none => Action.fail migrationRefused
    | some masterKey =>
      appendPassphrase masterKey passphrase primitives
      Edit.setInfo (← Edit.info).clearLegacy
      return true
  else
    return false

/-- Moves an info file forward to the current version.  The step from version 1
moves the legacy passphrase; the step from version 2 changes the number alone. -/
def upgrade (primitives : Primitives σ) (source : PassphraseSource σ) :
    Edit σ UpgradeReport := do
  let fromVersion := (← Edit.info).version
  if fromVersion = InfoFile.currentVersion then
    return ⟨fromVersion, InfoFile.currentVersion, false⟩
  else if fromVersion = 1 then
    let rotated ← rotateLegacy primitives source
    Edit.setInfo { ← Edit.info with version := InfoFile.currentVersion }
    return ⟨fromVersion, InfoFile.currentVersion, rotated⟩
  else if fromVersion = 2 then
    Edit.setInfo { ← Edit.info with version := InfoFile.currentVersion }
    return ⟨fromVersion, InfoFile.currentVersion, false⟩
  else
    Action.fail (.unsupportedVersion fromVersion)

end Repository

end Keywarden
