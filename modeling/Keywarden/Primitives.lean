import Keywarden.Action
import Keywarden.Key.Derivation

/-!
# Cryptographic building blocks

The operations on a repository see cryptography only through this record, so
that they can be studied over any implementation.
-/

namespace Keywarden

/-- The payload of an opened blob and the recipient whose key opened it. -/
structure Opened where
  payload : Bytes
  recipientId : String
deriving DecidableEq

/-- The building blocks over a state. -/
structure Primitives (σ : Type) where
  /-- A new random master key. -/
  generateMasterKey : Action σ MasterKey
  /-- A random salt for a passphrase entry. -/
  generateSalt : Action σ Bytes
  /-- The cost of the factors created from now on. -/
  cost : σ → DerivationCost
  /-- The wrapping key and the confirmation hash of a passphrase, at the cost that
  is recorded with the factor. -/
  deriveKey : (passphrase salt : Bytes) → DerivationCost →
    Action σ (WrappingKey × ConfirmationHash)
  /-- Wraps a payload under a symmetric key. -/
  wrap : WrappingKey → (payload : Bytes) → Action σ Bytes
  /-- Undoes wrapping. -/
  unwrap : WrappingKey → (blob : Bytes) → Action σ Bytes
  /-- Seals a payload for a recipient. -/
  asymmetricWrap : (payload : Bytes) → (recipientId : String) → Action σ Bytes
  /-- Opens a blob with the secret keys at hand. -/
  asymmetricUnwrap : (blob : Bytes) → Action σ Opened

/-- Where a passphrase comes from when an operation needs one. -/
structure PassphraseSource (σ : Type) where
  acquire : Action σ String

/-- A passphrase that the caller holds already; an absent or empty one counts as
broken-off input. -/
def PassphraseSource.stored {σ : Type} (passphrase : Option String) : PassphraseSource σ where
  acquire :=
    match passphrase with
    | some passphrase =>
      if passphrase.isEmpty then Action.fail .cancelled else pure passphrase
    | none => Action.fail .cancelled

end Keywarden
