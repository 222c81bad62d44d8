import Keywarden.Key.Derivation
import Keywarden.Text.Blank

/-!
# The info file

The root metadata of a repository: a list of entries, each of which holds the
master key wrapped for one unlock factor.  Files of version 1 keep their
passphrase beside the list, as a salt and a confirmation hash; there the derived
key is the master key.
-/

namespace Keywarden

/-- An entry whose wrapping key is derived from a passphrase. -/
structure PassphraseEntry where
  salt : Bytes
  confirmationHash : Bytes
  wrappedKey : Bytes
  /-- The cost with which the wrapping key was derived. -/
  cost : DerivationCost
deriving DecidableEq

/-- An entry that is sealed for a recipient. -/
structure AsymmetricEntry where
  recipientId : String
  wrappedKey : Bytes
deriving DecidableEq

/-- One unlock factor. -/
inductive KeyEntry
  | passphrase (entry : PassphraseEntry)
  | asymmetric (entry : AsymmetricEntry)
deriving DecidableEq

namespace KeyEntry

def withWrappedKey (wrappedKey : Bytes) : KeyEntry → KeyEntry
  | .passphrase entry => .passphrase { entry with wrappedKey }
  | .asymmetric entry => .asymmetric { entry with wrappedKey }

/-- The kind of an entry in listings. -/
def label : KeyEntry → String
  | .passphrase _ => "passphrase"
  | .asymmetric _ => "asymmetric"

/-- Whether the entry is sealed for the recipient, in any letter case. -/
def isRecipient (recipientId : String) : KeyEntry → Bool
  | .passphrase _ => false
  | .asymmetric entry => Text.equalFold entry.recipientId recipientId

def passphrase? : KeyEntry → Option PassphraseEntry
  | .passphrase entry => some entry
  | .asymmetric _ => none

def asymmetric? : KeyEntry → Option AsymmetricEntry
  | .passphrase _ => none
  | .asymmetric entry => some entry

end KeyEntry

/-- The metadata of a repository. -/
structure InfoFile where
  app : String
  version : Int32
  /-- The unlock factors in the order in which they were added. -/
  keys : List KeyEntry
  legacySalt : Option Bytes
  legacyHash : Option Bytes
  /-- The cost of the legacy passphrase; the standard one where it is absent. -/
  legacyCost : Option DerivationCost
deriving DecidableEq

/-- What a version 1 passphrase is checked against. -/
structure LegacyPassphrase where
  salt : Bytes
  confirmationHash : Bytes
  cost : DerivationCost
deriving DecidableEq

namespace InfoFile

def appName : String := "repokey"

def currentVersion : Int32 := 3

def empty : InfoFile :=
  ⟨appName, currentVersion, [], none, none, none⟩

/-- The legacy passphrase; it needs a salt and a hash, both not empty. -/
def legacyPassphrase? (info : InfoFile) : Option LegacyPassphrase :=
  match info.legacySalt, info.legacyHash with
  | some salt, some hash =>
    if salt.isEmpty || hash.isEmpty then none
    else some ⟨salt, hash, info.legacyCost.getD .standard⟩
  | _, _ => none

def hasLegacyPassphrase (info : InfoFile) : Bool :=
  info.legacyPassphrase?.isSome

def clearLegacy (info : InfoFile) : InfoFile :=
  { info with legacySalt := none, legacyHash := none, legacyCost := none }

/-- In how many ways the repository can be unlocked. -/
def factorCount (info : InfoFile) : Nat :=
  info.keys.length + info.hasLegacyPassphrase.toNat

/-- Whether an entry is sealed for the recipient, in any letter case. -/
def hasRecipient (info : InfoFile) (recipientId : String) : Bool :=
  info.keys.any (·.isRecipient recipientId)

/-- The passphrase entries with their positions, counted from `index` on. -/
def passphrasesFrom (index : Nat) : List KeyEntry → List (Nat × PassphraseEntry)
  | [] => []
  | .passphrase entry :: rest => (index, entry) :: passphrasesFrom (index + 1) rest
  | .asymmetric _ :: rest => passphrasesFrom (index + 1) rest

def passphrases (info : InfoFile) : List (Nat × PassphraseEntry) :=
  passphrasesFrom 0 info.keys

def asymmetrics (info : InfoFile) : List AsymmetricEntry :=
  info.keys.filterMap KeyEntry.asymmetric?

def append (info : InfoFile) (entry : KeyEntry) : InfoFile :=
  { info with keys := info.keys ++ [entry] }

/-- Adds a passphrase entry; its byte strings must not be empty. -/
def addPassphrase (info : InfoFile) (entry : PassphraseEntry) : Except Failure InfoFile :=
  if entry.salt.isEmpty || entry.confirmationHash.isEmpty || entry.wrappedKey.isEmpty then
    .error (.invalidInfoFile "passphrase entry fields must not be empty")
  else
    .ok (info.append (.passphrase entry))

def duplicateRecipient : Failure :=
  .duplicateFactor "This key has already been added to the repository"

/-- Adds an asymmetric entry; it must not be empty, and no other entry may be
sealed for the same recipient. -/
def addAsymmetric (info : InfoFile) (entry : AsymmetricEntry) : Except Failure InfoFile :=
  if entry.recipientId.isEmpty || entry.wrappedKey.isEmpty then
    .error (.invalidInfoFile "asymmetric entry fields must not be empty")
  else if info.hasRecipient entry.recipientId then
    .error duplicateRecipient
  else
    .ok (info.append (.asymmetric entry))

end InfoFile

end Keywarden
