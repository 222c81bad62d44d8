import Keywarden.Hash.Argon2id
import Keywarden.Hash.Sha256
import Keywarden.Key.Material

/-!
# Keys derived from passphrases

Argon2id turns a passphrase and a salt into a root secret; two expansions of the
root give the wrapping key and the confirmation hash.
-/

namespace Keywarden

structure DerivationCost where
  memoryKib : UInt32
  iterations : UInt32
  parallelism : UInt32
deriving DecidableEq, Repr

namespace DerivationCost

/-- The cost that is used where none is configured or recorded. -/
def standard : DerivationCost :=
  ⟨65536, 3, 4⟩

/-- Why a cost or the input of a derivation is refused. -/
inductive Fault
  | memoryBelowFloor (memoryKib : UInt32)
  | noIterations
  | noParallelism
  | memoryTooSmall
  | tooManyLanes
  | passphraseTooLong
  | saltTooShort
  | saltTooLong
deriving DecidableEq

def Fault.message : Fault → String
  | .memoryBelowFloor memoryKib =>
    "Argon2 memory_kib must be at least 8192 (got " ++ toString memoryKib.toNat ++ ")"
  | .noIterations => "Argon2 iterations must be at least 1"
  | .noParallelism => "Argon2 parallelism must be at least 1"
  | .memoryTooSmall => "invalid Argon2 params: memory cost is too small"
  | .tooManyLanes => "invalid Argon2 params: too many threads"
  | .passphraseTooLong => "Argon2id hashing failed: password is too long"
  | .saltTooShort => "Argon2id hashing failed: salt is too short"
  | .saltTooLong => "Argon2id hashing failed: salt is too long"

def Fault.failure (fault : Fault) : Failure :=
  .primitive "Error deriving the wrapping key" fault.message

/-- The floor of safety, in the order in which it is checked. -/
def floorFault? (cost : DerivationCost) : Option Fault :=
  if cost.memoryKib < 8192 then some (.memoryBelowFloor cost.memoryKib)
  else if cost.iterations < 1 then some .noIterations
  else if cost.parallelism < 1 then some .noParallelism
  else none

/-- Refuses costs below the floor. -/
def validate (cost : DerivationCost) : Except Failure Unit :=
  match cost.floorFault? with
  | some fault => .error fault.failure
  | none => .ok ()

/-- What the hash function demands beyond the floor: eight blocks a lane, a
product taken in 32 bits, and fewer than 2²⁴ lanes. -/
def shapeFault? (cost : DerivationCost) : Option Fault :=
  if cost.memoryKib < 8 * cost.parallelism then some .memoryTooSmall
  else if 0xffffff < cost.parallelism then some .tooManyLanes
  else none

/-- What the hash function demands of its input. -/
def inputFault? (passphrase salt : Bytes) : Option Fault :=
  if 0xffffffff < passphrase.length then some .passphraseTooLong
  else if salt.length < 8 then some .saltTooShort
  else if 0xffffffff < salt.length then some .saltTooLong
  else none

/-- The first reason to refuse a derivation. -/
def fault? (cost : DerivationCost) (passphrase salt : Bytes) : Option Fault :=
  cost.floorFault? <|> cost.shapeFault? <|> inputFault? passphrase salt

end DerivationCost

namespace Key

def root (cost : DerivationCost) (passphrase salt : Bytes) : Bytes :=
  let cost : Hash.Argon2.Cost :=
    ⟨cost.memoryKib.toNat, cost.iterations.toNat, cost.parallelism.toNat⟩
  Hash.Argon2.hash cost 32 passphrase salt

def expand (root : Bytes) (purpose : String) : Bytes :=
  Hash.Hkdf.expand (Hash.Hkdf.extract root) (Bytes.ofString purpose)

theorem length_expand (root : Bytes) (purpose : String) : (expand root purpose).length = 32 :=
  Hash.Hmac.length_digest _ _

def pairOfRoot (root : Bytes) : WrappingKey × ConfirmationHash :=
  (⟨expand root "repokey-wrapping-key", length_expand _ _⟩,
    ⟨expand root "repokey-confirmation-hash"⟩)

def derive (passphrase salt : Bytes) (cost : DerivationCost) :
    Except Failure (WrappingKey × ConfirmationHash) :=
  match cost.fault? passphrase salt with
  | some fault => .error fault.failure
  | none => .ok (pairOfRoot (root cost passphrase salt))

end Key

end Keywarden
