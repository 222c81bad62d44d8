import Keywarden.Action
import Keywarden.Cipher.Curve25519
import Keywarden.Cipher.SecretBox
import Keywarden.Recipient

/-!
# Identities and sealed boxes

An identity is a secret key; its public key addresses it as a recipient.  A
sealed box for a recipient consists of a fresh public key, a nonce of 24 bytes,
and a secret box under the key on which the two key pairs agree.
-/

namespace Keywarden

variable {σ : Type}

/-- A secret key of 32 bytes. -/
@[ext]
structure Identity where
  secret : Bytes
  length_eq : secret.length = 32

namespace Identity

instance : DecidableEq Identity := fun left right =>
  decidable_of_iff (left.secret = right.secret) Identity.ext_iff.symm

/-- The identity with the given secret, if its size is right. -/
def ofSecret? (secret : Bytes) : Option Identity :=
  if length_eq : secret.length = 32 then some ⟨secret, length_eq⟩ else none

def publicKey (identity : Identity) : PublicKey :=
  ⟨Cipher.Curve25519.publicKey identity.secret, Cipher.Curve25519.length_multiply _ _⟩

def recipientId (identity : Identity) : String :=
  identity.publicKey.recipientId

def sharedKey (identity : Identity) (other : Bytes) : Bytes :=
  Cipher.Salsa20.derive (Cipher.Curve25519.multiply identity.secret other) (Bytes.zeros 16)

/-- The payload of a sealed box that is addressed to an identity. -/
def open? (identity : Identity) (blob : Bytes) : Option Bytes :=
  if blob.length < 56 then
    none
  else
    Cipher.SecretBox.open? (identity.sharedKey (blob.take 32)) ((blob.drop 32).take 24)
      (blob.drop 56)

/-- A fresh identity; the process breaks off when its secret is refused. -/
def generate (entropy : Entropy σ) : Action σ Identity := do
  let secret ← Action.certainRandom entropy 32
  match ofSecret? secret with
  | some identity => return identity
  | none => throw .aborted

end Identity

namespace SealedBox

def sealWith (fresh : Identity) (nonce : Bytes) (recipient : PublicKey) (payload : Bytes) :
    Bytes :=
  fresh.publicKey.bytes ++ nonce ++
    Cipher.SecretBox.close (fresh.sharedKey recipient.bytes) nonce payload

/-- Seals a payload for a recipient.  The identifier is read before anything is
drawn; then come the fresh secret and the nonce. -/
def sealFor (entropy : Entropy σ) (payload : Bytes) (recipientId : String) :
    Action σ Bytes := do
  let recipient ← Action.ofExcept (Recipient.parse recipientId)
  let fresh ← Identity.generate entropy
  let nonce ← Action.certainRandom entropy 24
  return sealWith fresh nonce recipient payload

end SealedBox

end Keywarden
