import Keywarden.Proofs.Command.Line
import Keywarden.Proofs.Primitives.Standard
import Keywarden.UnlockService

/-!
# Attempts to unlock that fail

An attempt fails when no identity opens an asymmetric entry and the passphrase misses every
stored hash.  Such an attempt shows its failure and nothing else, through every way in: the
search for a factor, the service that answers requests, and the command that tests the keys.
Since the failure is always the same, two attempts of this kind cannot be told apart.
-/

namespace Keywarden

open Keywarden.Action Machine

variable {σ : Type}

/-- An attempt to unlock a repository with a passphrase and the local identities. -/
structure Trial where
  info : InfoFile
  identities : List Identity
  /-- The configured cost. -/
  cost : DerivationCost
  passphrase : String

namespace Trial

/-- The building blocks that are used. -/
def primitives (trial : Trial) (entropy : Entropy σ) : Primitives σ :=
  .standard entropy trial.cost trial.identities

/-- The passphrase derives a key, beside another hash than the stored one. -/
def Missed (trial : Trial) (salt : Bytes) (cost : DerivationCost) (stored : Bytes) : Prop :=
  ∃ key hash, Key.derive (Bytes.ofString trial.passphrase) salt cost = .ok (key, hash) ∧
    hash.bytes ≠ stored

/-- No factor works, though every derivation does. -/
structure Fails (trial : Trial) : Prop where
  given : trial.passphrase ≠ ""
  closed : ∀ entry, .asymmetric entry ∈ trial.info.keys → ∀ identity ∈ trial.identities,
    ∀ payload, identity.open? entry.wrappedKey = some payload → payload.length ≠ 32
  missed : ∀ entry, .passphrase entry ∈ trial.info.keys →
    trial.Missed entry.salt entry.cost entry.confirmationHash
  missedLegacy : ∀ legacy, trial.info.legacyPassphrase? = some legacy →
    trial.Missed legacy.salt legacy.cost legacy.confirmationHash

/-- The command tests the keys of the repository, in a place where the same is at hand. -/
structure Staged (trial : Trial) (around : Surroundings σ) (invocation : Invocation)
    (place : Place) (machine : Machine σ) : Prop where
  command : invocation.command = .testKeys
  located : (Commands.locate around invocation).Returns machine place machine
  read : (Commands.readInfo place).Returns machine trial.info machine
  loaded : (Commands.loadPrimitives around place).Returns machine
    (trial.primitives (Machine.entropy around.entropy)) machine

/-- The attempt shows the failure and nothing else. -/
structure ShowsOnly (trial : Trial) (failure : Failure) : Prop where
  /-- The passphrase is asked for once, and what is left is the state after the question. -/
  search : ∀ {σ : Type} (entropy : Entropy σ) (source : PassphraseSource σ) (asked : σ → Nat),
    (∀ state, ∃ next, source.acquire.Returns state trial.passphrase next ∧
      asked next = asked state + 1) →
    ∀ before, ∃ after,
      (Unlocking.unlock trial.info (trial.primitives entropy) source).Stops before
        (.failed failure) after ∧
      source.acquire.Returns before trial.passphrase after ∧ asked after = asked before + 1
  /-- No event is published, and the service stays as it was. -/
  service : ∀ {σ : Type} (entropy : Entropy σ) (service : UnlockService σ),
    (UnlockService.handle trial.info ⟨trial.passphrase⟩ (trial.primitives entropy)).Stops service
      (.failed failure) service
  /-- The command ends with code one and one notice, in front of which only the files of the
  directory for identities that hold none are reported.  No file is touched, those of the audit
  trail included, and the console is left as the question leaves it. -/
  command : ∀ {σ : Type} (around : Surroundings σ) (arguments : List Bytes)
    (invocation : Invocation) (place : Place) (machine : Machine σ) (asked : Console),
    CommandLine.read arguments = .ok invocation → trial.Staged around invocation place machine →
    Prompt.existing.acquire.Returns machine.console trial.passphrase asked →
    CommandLine.run around arguments machine = (.finished 1, { machine with
      console := asked
      printed := machine.printed ++ (Identity.skipped around.directory place.identities
        machine.volume.disk).map .report ++ [noticeOf failure] })

variable {trial : Trial}

theorem Missed.unmet {salt stored : Bytes} {cost : DerivationCost}
    (missed : trial.Missed salt cost stored) (entropy : Entropy σ) :
    Unlocking.Unmet (trial.primitives entropy) (Bytes.ofString trial.passphrase) salt cost
      stored := by
  obtain ⟨key, hash, derived, other⟩ := missed
  exact Unlocking.unmet_standard derived other

theorem Fails.misses (fails : trial.Fails) (entropy : Entropy σ) :
    Unlocking.Misses (trial.primitives entropy) trial.info (Bytes.ofString trial.passphrase) where
  entries entry member := (fails.missed entry member).unmet entropy
  legacy legacy stored := (fails.missedLegacy legacy stored).unmet entropy

/-- A command line tests the keys of the repository, the question is answered with the
passphrase, and some files of identities are passed over. -/
inductive Tested (trial : Trial) (around : Surroundings σ) (arguments : List Bytes)
    (machine : Machine σ) : List Identity.Skipped → Prop
  | intro {invocation : Invocation} {place : Place} {asked : Console}
      (written : CommandLine.read arguments = .ok invocation)
      (staged : trial.Staged around invocation place machine)
      (acquired : Prompt.existing.acquire.Returns machine.console trial.passphrase asked) :
      Tested trial around arguments machine
        (Identity.skipped around.directory place.identities machine.volume.disk)

theorem ShowsOnly.printed {failure : Failure} (shows : trial.ShowsOnly failure)
    {around : Surroundings σ} {arguments : List Bytes} {machine : Machine σ}
    {skipped : List Identity.Skipped} (tested : trial.Tested around arguments machine skipped) :
    (CommandLine.run around arguments machine).1 = .finished 1 ∧
      (CommandLine.run around arguments machine).2.printed =
        machine.printed ++ skipped.map .report ++ [noticeOf failure] := by
  obtain ⟨written, staged, acquired⟩ := tested
  rw [shows.command _ _ _ _ _ _ written staged acquired]
  exact ⟨rfl, rfl⟩

/-- Nobody can unlock a repository without factors. -/
def bare : Trial :=
  ⟨InfoFile.empty, [], .standard, "wrong"⟩

end Trial

end Keywarden
