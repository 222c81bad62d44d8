import Keywarden.Identity
import Keywarden.Key.Wrap
import Keywarden.Primitives

/-!
# The standard building blocks

Argon2id with HKDF, AES-256 in Galois counter mode, and sealed boxes over X25519.
A refused request for a master key or a salt is reported; a refused request for
a nonce or a fresh secret breaks the process off.
-/

namespace Keywarden.Primitives

variable {σ : Type}

/-- The report that random bytes were refused. -/
def randomnessFailure (context reason : String) : Stop :=
  .failed (.primitive context ("OS RNG: " ++ reason))

def randomMasterKey (entropy : Entropy σ) : Action σ MasterKey := do
  let bytes ← Action.random entropy 32 (randomnessFailure "Error generating the master key")
  Action.ofExcept (MasterKey.ofPayload bytes)

def randomSalt (entropy : Entropy σ) : Action σ Bytes :=
  Action.random entropy 32 (randomnessFailure "Error generating a new salt")

def openWith? (identities : List Identity) (blob : Bytes) : Option Opened :=
  identities.findSome? fun identity =>
    (identity.open? blob).map fun payload => ⟨payload, identity.recipientId⟩

def noIdentity : Failure :=
  .primitive "Error decrypting the master key" "no local identity can open this key"

/-- The standard building blocks with a configured cost and the local
identities. -/
def standard (entropy : Entropy σ) (cost : DerivationCost) (identities : List Identity) :
    Primitives σ where
  generateMasterKey := randomMasterKey entropy
  generateSalt := randomSalt entropy
  cost _ := cost
  deriveKey passphrase salt cost := Action.ofExcept (Key.derive passphrase salt cost)
  wrap key payload := Key.wrap entropy key.bytes payload
  unwrap key blob := Action.ofExcept (Key.unwrap key.bytes blob)
  asymmetricWrap payload recipientId := SealedBox.sealFor entropy payload recipientId
  asymmetricUnwrap blob :=
    match openWith? identities blob with
    | some opened => pure opened
    | none => Action.fail noIdentity

end Keywarden.Primitives
