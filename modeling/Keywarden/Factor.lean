import Keywarden.Key.Material

/-!
# Unlock factors

How a factor is asked for, how the factor that unlocked is named, and what an
unlock yields.
-/

namespace Keywarden

/-- Which kind of factor to add. -/
inductive FactorSpec
  | passphrase
  | recipient (id : String)
deriving DecidableEq

def FactorSpec.ofRecipient : Option String → FactorSpec
  | some id => if id.isEmpty then .passphrase else .recipient id
  | none => .passphrase

/-- The name of a factor. -/
inductive FactorId
  | recipient (id : String)
  /-- A passphrase, by its position among all entries. -/
  | passphrase (index : Nat)
  | legacy
deriving DecidableEq

/-- The name in words. -/
def FactorId.shown : FactorId → String
  | .recipient id => "recipient:" ++ id
  | .passphrase index => "passphrase:" ++ toString index
  | .legacy => "legacy"

/-- An unlocked master key and the factor that unlocked it. -/
structure Unlocked where
  masterKey : MasterKey
  factor : FactorId
deriving DecidableEq

end Keywarden
