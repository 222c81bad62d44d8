import Keywarden.Audit.Ledger
import Keywarden.Proofs.Command.Record

/-!
# What a command line may do to info files

A run that does not end with success leaves every info file as it was, and one that does
has the effect of its command.  The effect of a new repository is weaker than it looks: the
path of the repository is tested before its directories are made, and a path that leads
outwards through a missing directory leads to a repository only afterwards.
-/

namespace Keywarden

open Keywarden.Action Machine

variable {σ : Type} {around : Surroundings σ}

namespace CommandLine

private theorem infoFiles_refuse (refusal : Refusal) (machine : Machine σ) :
    (refuse refusal machine).2.infoFiles = machine.infoFiles := by
  cases refusal <;> rfl

theorem infoFiles_of_stops {invocation : Invocation} {machine after : Machine σ} {stop : Stop}
    (stopped : (invocation.run around).Stops machine stop after) :
    after.infoFiles = machine.infoFiles := by
  have keeps : (invocation.run around).KeepsOnStop infoFiles :=
    (keeps_infoFiles (Commands.keeps_locate around invocation)).bind_onStop fun place =>
      Commands.keepsOnStop_runAt around place invocation.command
  exact keeps machine stop after stopped

/-- What a run of a command line does to the info files of the machine: nothing unless it
ends with success, and then what its command stands for at its place. -/
theorem info_files_of_run {arguments : List Bytes} {machine after : Machine σ} {ending : Ending}
    (ran : run around arguments machine = (ending, after)) :
    (ending ≠ .finished 0 → after.infoFiles = machine.infoFiles) ∧
      (ending = .finished 0 →
        match read arguments with
        | .error _ => after.infoFiles = machine.infoFiles
        | .ok invocation => ∃ place,
          (Commands.locate around invocation).Returns machine place machine ∧
            Commands.Effect around place machine after invocation.command) := by
  unfold run at ran
  cases asked : read arguments with
  | error refusal =>
    rw [asked] at ran
    have same : after.infoFiles = machine.infoFiles := by
      rw [← infoFiles_refuse refusal machine]
      exact congrArg (fun result => result.2.infoFiles) ran.symm
    exact ⟨fun _ => same, fun _ => same⟩
  | ok invocation =>
    simp only [asked] at ran
    rcases performed : invocation.run around machine with ⟨stop | _, performedAfter⟩
    · have same := infoFiles_of_stops performed
      rw [performed] at ran
      cases stop <;> cases ran <;> exact ⟨fun _ => same, nofun⟩
    · rw [performed] at ran
      cases ran
      refine ⟨fun failed => absurd rfl failed, fun _ => ?_⟩
      obtain ⟨place, between, located, returned⟩ := returns_bind.mp performed
      obtain rfl := Commands.of_locate located
      exact ⟨place, located, Commands.effect_runAt returned⟩

/-! ### Two runs -/

/-- A working directory at a fixed time. -/
def workplace : Surroundings Bytes :=
  ⟨.stored, .epoch, "/w", Audit.Ledger.database, none⟩

def machineWith (info : InfoFile) : Machine Bytes where
  volume := .ofDisk ⟨[(["w"], .directory), (["w", "repo"], .directory),
    (["w", "repo", "_info.json"], .file false info.encode)], by simp, []⟩
  console := ⟨[], none, []⟩
  printed := []
  host := Bytes.zeros 88

/-- Where a command works by default in the working directory. -/
def standardPlace : Place :=
  ⟨"/w/repo", "/w/.repokey/identities", .standard⟩

/-- A file of the second version is moved forward, and nobody can add a key to it without a
passphrase. -/
theorem info_files_of_secondVersion :
    let machine := machineWith { InfoFile.empty with version := 2 }
    let upgraded := run workplace [Bytes.ofString "upgrade"] machine
    let refused := run workplace [Bytes.ofString "keys", Bytes.ofString "add"] machine
    (upgraded.1 = .finished 0 ∧
      ∃ place, (Commands.locate workplace ⟨.upgrade, none, none⟩).Returns machine place machine ∧
        Commands.Effect workplace place machine upgraded.2 .upgrade) ∧
      refused.1 = .finished 1 ∧ refused.2.infoFiles = machine.infoFiles := by
  intro machine upgraded refused
  have succeeded : upgraded.1 = .finished 0 := by decide +kernel
  have asked : read [Bytes.ofString "upgrade"] = .ok ⟨.upgrade, none, none⟩ := by decide +kernel
  have failed : refused.1 = .finished 1 := by decide +kernel
  have effect := (info_files_of_run (Prod.eta upgraded).symm).2 succeeded
  rw [asked] at effect
  have unsuccessful : refused.1 ≠ .finished 0 := by
    rw [failed]
    decide
  have kept := (info_files_of_run (Prod.eta refused).symm).1 unsuccessful
  exact ⟨⟨succeeded, effect⟩, failed, kept⟩

/-- The arguments that ask for a repository behind a directory that is missing. -/
def roundabout : List Bytes :=
  ["init", "--recipient", "abababababababababababababababababababababababababababababababab",
    "--repo", "a/../repo"].map Bytes.ofString

/-- A repository that stands is overwritten when its path leads outwards through a missing
directory. -/
theorem info_file_overwritten :
    let machine := machineWith InfoFile.empty
    let location : Location := ["w", "repo", "_info.json"]
    (run workplace roundabout machine).1 = .finished 0 ∧
      machine.infoFiles location = some InfoFile.empty.encode ∧
      (run workplace roundabout machine).2.infoFiles location ≠ some InfoFile.empty.encode := by
  decide +kernel

end CommandLine

end Keywarden
