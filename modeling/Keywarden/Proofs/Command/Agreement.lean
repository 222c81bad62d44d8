import Keywarden.Proofs.Command.Coupled
import Keywarden.Proofs.Command.Line

/-!
# Machines that differ in a passphrase

Two machines may differ in the passphrase that the environment holds, and what they share
besides is then kept: what looks at the disk, prints, draws or asks for another passphrase has
one outcome on both.
-/

namespace Keywarden

open Keywarden.Action Machine

variable {σ α : Type} {around : Surroundings σ}

namespace Machine

/-- The volumes are related, and all the rest of the machines is the same but for the passphrase
in its variable. -/
structure Agree (volumes : Volume → Volume → Prop) (first second : Machine σ) : Prop where
  volume : volumes first.volume second.volume
  typed : first.console.typed = second.console.typed
  screen : first.console.screen = second.console.screen
  printed : first.printed = second.printed
  host : first.host = second.host
  others : ∀ name, name ≠ Prompt.passphraseVariable →
    first.console.environment.lookup name = second.console.environment.lookup name

variable {volumes later : Volume → Volume → Prop}

theorem Agree.weaken {first second : Machine σ} (agree : Agree volumes first second)
    (weaker : ∀ left right, volumes left right → later left right) : Agree later first second :=
  { agree with volume := weaker _ _ agree.volume }

theorem Agree.print {first second : Machine σ} (agree : Agree volumes first second)
    (texts : List Printed) :
    Agree volumes { first with printed := first.printed ++ texts }
      { second with printed := second.printed ++ texts } :=
  { agree with printed := congrArg (· ++ texts) agree.printed }

theorem coupled_agree : Coupled (Agree volumes : Machine σ → Machine σ → Prop) where
  host agree := agree.host
  drawn _ agree := { agree with host := rfl }
  print texts agree := agree.print texts

theorem respects_print (printed : Printed) :
    (print printed : Action (Machine σ) Unit).Respects (Agree volumes) :=
  coupled_agree.respects_print printed

theorem working_standard (host : Entropy σ) (cost : DerivationCost) (identities : List Identity) :
    (Primitives.standard (entropy host) cost identities).Working
      (fun action => action.Respects (Agree volumes))
      (fun edit => edit.Respects (Edit.Alongside (Agree volumes))) :=
  coupled_agree.working_standard host cost identities

end Machine

end Keywarden
