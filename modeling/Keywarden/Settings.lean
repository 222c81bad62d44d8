import Keywarden.Disk.Volume
import Keywarden.Key.Derivation
import Keywarden.Toml.Table

/-!
# Settings of a project

A file in the directory of a project may say where the repository and the identities
are and at what cost keys are derived.  Whatever it does not say has a standard value.
-/

namespace Keywarden

/-- The settings of a project. -/
structure Settings where
  /-- The directory of the repository, below the one of the project. -/
  repositoryDirectory : String
  /-- The directory of the identities, below the one of the project; none for the place
  that is shared between projects. -/
  identitiesDirectory : Option String
  /-- The cost of new passphrases. -/
  cost : DerivationCost
deriving DecidableEq

namespace Settings

/-- The settings where nothing is set. -/
def standard : Settings :=
  ⟨"repo", none, .standard⟩

def fileName : String := ".repokey.toml"

def textSetting {α : Type} (present : String → α) (absent : α) :
    Option Toml.Entry → Option α
  | none => some absent
  | some (.text value) => some (present value)
  | some _ => none

/-- An unsigned number of 32 bits, or the value that it has where it is not set. -/
def numberSetting (absent : UInt32) : Option Toml.Entry → Option UInt32
  | none => some absent
  | some (.integer value) =>
    if 0 ≤ value ∧ value < UInt32.size then some (UInt32.ofNat value.toNat) else none
  | some _ => none

/-- The settings in the members of a document; unknown members are passed over. -/
def ofMembers? (members : Toml.Members) : Option Settings := do
  let repositoryDirectory ←
    textSetting id standard.repositoryDirectory (members.lookup "repo_dir")
  let identitiesDirectory ← textSetting some none (members.lookup "identities_dir")
  let memoryKib ← numberSetting standard.cost.memoryKib (members.lookup "argon2_memory_kib")
  let iterations ← numberSetting standard.cost.iterations (members.lookup "argon2_iterations")
  let parallelism ←
    numberSetting standard.cost.parallelism (members.lookup "argon2_parallelism")
  return ⟨repositoryDirectory, identitiesDirectory, ⟨memoryKib, iterations, parallelism⟩⟩

def unreadable (path : String) : Failure :=
  .configuration ("Failed to parse " ++ path ++ ": not a table of settings")

def decode (path : String) (content : Bytes) : Except Failure Settings :=
  match content.text? with
  | none => .error (.io .invalidData)
  | some text =>
    match (Toml.read? text).bind ofMembers? with
    | some settings => .ok settings
    | none => .error (unreadable path)

def load (project : String) : Action Volume Settings := do
  let path := Path.join project fileName
  if (← get).disk.holds path then
    Action.ofExcept (decode path (← Volume.examine (·.readFile path)))
  else
    return standard

def repositoryPath (settings : Settings) (project : String) : String :=
  Path.join project settings.repositoryDirectory

/-- The directory of the identities; the shared place is in the home directory, or in
that of the project where there is none. -/
def identitiesPath (settings : Settings) (home : Option String) (project : String) : String :=
  match settings.identitiesDirectory with
  | some directory => Path.join project directory
  | none => Path.join (Path.join (home.getD project) ".repokey") "identities"

end Settings

end Keywarden
