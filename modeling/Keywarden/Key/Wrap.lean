import Keywarden.Action
import Keywarden.Cipher.Gcm
import Keywarden.Key.Material

/-!
# Wrapping under a symmetric key

A wrapped payload is a nonce of twelve bytes, the ciphertext, and its tag of
sixteen bytes.
-/

namespace Keywarden.Key

variable {σ : Type}

def wrapWith (key nonce payload : Bytes) : Bytes :=
  nonce ++ Cipher.Gcm.encrypt key nonce payload

/-- Wraps a payload under a fresh nonce.  A key of a wrong size is refused before
the nonce is drawn; the process breaks off when the nonce is refused. -/
def wrap (entropy : Entropy σ) (key payload : Bytes) : Action σ Bytes := do
  if key.length = 32 then
    let nonce ← Action.certainRandom entropy 12
    return wrapWith key nonce payload
  else
    Action.fail <|
      .primitive "Error wrapping the master key" "invalid key length: Invalid Length"

def unwrapFailure : Failure :=
  .primitive "Error unwrapping the master key" "unwrap failed"

def unwrap (key blob : Bytes) : Except Failure Bytes :=
  if blob.length < 12 ∨ key.length ≠ 32 then
    .error unwrapFailure
  else
    match Cipher.Gcm.decrypt? key (blob.take 12) (blob.drop 12) with
    | some payload => .ok payload
    | none => .error unwrapFailure

end Keywarden.Key
