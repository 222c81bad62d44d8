import Keywarden.Bytes
import Keywarden.Failure

/-!
# Key material

The master key of a repository, the key that wraps it for one passphrase, and
the hash that tells a wrong passphrase before anything is unwrapped.
-/

namespace Keywarden

/-- The secret of 32 bytes that decrypts a repository. -/
structure MasterKey where
  bytes : Bytes
  length_eq : bytes.length = 32
deriving DecidableEq

namespace MasterKey

def ofPayload (payload : Bytes) : Except Failure MasterKey :=
  if length_eq : payload.length = 32 then
    .ok ⟨payload, length_eq⟩
  else
    .error <| .primitive "Error unwrapping the master key" <|
      "expected 32 bytes, got " ++ toString payload.length

def shown (_ : MasterKey) : String :=
  "MasterKey(<redacted>)"

theorem ofPayload_bytes (key : MasterKey) : ofPayload key.bytes = .ok key := by
  simp [ofPayload, key.length_eq]

end MasterKey

/-- The key of 32 bytes that wraps the master key for one passphrase. -/
structure WrappingKey where
  bytes : Bytes
  length_eq : bytes.length = 32
deriving DecidableEq

namespace WrappingKey

/-- What stands for a wrapping key in diagnostic output. -/
def shown (_ : WrappingKey) : String :=
  "WrappingKey(<redacted>)"

/-- In the oldest format the derived key is itself the master key. -/
def asMaster (key : WrappingKey) : MasterKey :=
  ⟨key.bytes, key.length_eq⟩

end WrappingKey

/-- The public verifier that is derived together with a wrapping key. -/
structure ConfirmationHash where
  bytes : Bytes
deriving DecidableEq

namespace ConfirmationHash

def accepts (hash : ConfirmationHash) (stored : Bytes) : Bool :=
  hash.bytes == stored

/-- What stands for a hash in diagnostic output: its size alone. -/
def shown (hash : ConfirmationHash) : String :=
  "ConfirmationHash(" ++ toString hash.bytes.length ++ " bytes)"

theorem accepts_iff (hash : ConfirmationHash) (stored : Bytes) :
    hash.accepts stored = true ↔ hash.bytes = stored := by
  simp [accepts]

end ConfirmationHash

end Keywarden
