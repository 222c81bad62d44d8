import Keywarden.Audit.Store
import Keywarden.Command.Line
import Keywarden.Command.Listing
import Keywarden.Command.Machine
import Keywarden.Identity.Store
import Keywarden.InfoFile.Store
import Keywarden.Primitives.Standard
import Keywarden.Repository
import Keywarden.Settings
import Keywarden.Text.Repaired

/-!
# Commands

What each command does.  The info file is written only when everything that can fail
before has succeeded, and the audit trail is written last.
-/

namespace Keywarden

/-- Where a command works. -/
structure Place where
  repository : String
  identities : String
  /-- The cost of new passphrases. -/
  cost : DerivationCost
deriving DecidableEq

namespace Place

/-- The info file of the repository. -/
def infoPath (place : Place) : String :=
  InfoFile.pathIn place.repository

end Place

namespace Commands

variable {σ : Type}

/-- The home directory, if it is known. -/
def home? (environment : Environment) : Option String :=
  (environment.lookup "HOME").map Bytes.repaired

/-- Where a command works: the settings of the working directory say it unless the
command line does. -/
def locate (around : Surroundings σ) (invocation : Invocation) : Action (Machine σ) Place := do
  let settings ← Machine.onVolume (Settings.load around.directory)
  let home := home? (← get).console.environment
  return {
    repository := (invocation.repository.map (Path.join around.directory)).getD
      (settings.repositoryPath around.directory)
    identities := (invocation.identities.map (Path.join around.directory)).getD
      (settings.identitiesPath home around.directory)
    cost := settings.cost }

def readInfo (place : Place) : Action (Machine σ) InfoFile :=
  Machine.onVolume (InfoFile.load place.infoPath)

def writeInfo (place : Place) (info : InfoFile) : Action (Machine σ) Unit :=
  Machine.onVolume (info.save place.infoPath)

/-- Reports the files of identities that are passed over. -/
def reportSkipped (around : Surroundings σ) (place : Place) : Action (Machine σ) Unit := do
  let disk := (← get).volume.disk
  Machine.printAll ((Identity.skipped around.directory place.identities disk).map .report)

/-- The building blocks with the local identities. -/
def loadPrimitives (around : Surroundings σ) (place : Place) :
    Action (Machine σ) (Primitives (Machine σ)) := do
  let identities ← Machine.onVolume (Identity.loadAll around.directory place.identities)
  return .standard (Machine.entropy around.entropy) place.cost identities

/-- Makes the building blocks ready. -/
def equip (around : Surroundings σ) (place : Place) :
    Action (Machine σ) (Primitives (Machine σ)) := do
  reportSkipped around place
  loadPrimitives around place

/-- Records an operation in the audit trail. -/
def note (around : Surroundings σ) (place : Place) (event : Audit.Event) :
    Action (Machine σ) Unit :=
  Machine.onVolume (Audit.note around.database place.repository around.now event)

/-- Unlocks with what is at hand, and asks for a passphrase if that is not enough. -/
def unlock (info : InfoFile) (primitives : Primitives (Machine σ)) :
    Action (Machine σ) Unlocked :=
  Unlocking.unlock info primitives (Machine.source .existing)

/-- Says that a key has to unlock before another one is changed. -/
def announceUnlock : Action (Machine σ) Unit :=
  Machine.inform "Unlock the repository with an existing key."

def makeRepository (place : Place) : Action (Machine σ) Unit := do
  if ← Machine.holds place.repository then
    return ()
  else
    Machine.onVolume (Volume.makeDirectories place.repository)
    Machine.inform ("Created repository directory: " ++ place.repository)

def firstFactor : FactorSpec → String
  | .passphrase => "passphrase"
  | .recipient _ => "recipient"

def createRepository (around : Surroundings σ) (place : Place) (recipient : Option String) :
    Action (Machine σ) Unit := do
  if ← Machine.holds place.infoPath then
    Machine.advise
      "Use \x60repokey keys add\x60 to add another key to the existing repository."
    Action.fail (.repositoryExists place.repository)
  else
    makeRepository place
    let factor := FactorSpec.ofRecipient recipient
    let primitives ← equip around place
    let (_, info) ← Repository.create factor primitives (Machine.source .first)
    writeInfo place info
    note around place ⟨"init", some (firstFactor factor), some "repository created"⟩
    Machine.success ("Repository initialized at " ++ place.repository)
    Machine.advise "Run \x60repokey keys add\x60 to add a backup key."

/-- Adds a passphrase or a recipient. -/
def addKey (around : Surroundings σ) (place : Place) (recipient : Option String) :
    Action (Machine σ) Unit := do
  let info ← readInfo place
  let primitives ← equip around place
  announceUnlock
  let unlocked ← unlock info primitives
  let factor := FactorSpec.ofRecipient recipient
  if factor = .passphrase then
    Machine.inform "Choose the passphrase to add."
  let ((), info) ← Edit.onFile info
    (Repository.addFactor unlocked.masterKey factor primitives (Machine.source .added))
  writeInfo place info
  note around place
    ⟨"add-key", some unlocked.factor.shown, some (toString info.keys.length ++ " keys")⟩
  Machine.success "Key added"

/-- The factor to be removed.  Unless it is the entered passphrase itself, another key
has to unlock first. -/
def removalTarget (info : InfoFile) (primitives : Primitives (Machine σ)) (removal : Removal) :
    Action (Machine σ) FactorId := do
  match removal with
  | .recipient id =>
    announceUnlock
    let _ ← unlock info primitives
    return .recipient id
  | .position index =>
    announceUnlock
    let _ ← unlock info primitives
    return .passphrase index
  | .entered =>
    Machine.inform "Enter the passphrase to remove."
    let passphrase ← (Machine.source .existing).acquire
    return (← Unlocking.withPassphrase info passphrase primitives).factor

def removeKey (around : Surroundings σ) (place : Place) (removal : Removal) :
    Action (Machine σ) Unit := do
  let info ← readInfo place
  let primitives ← equip around place
  let target ← removalTarget info primitives removal
  let (removed, info) ← Edit.onFile info (Repository.removeFactor target)
  writeInfo place info
  note around place ⟨"rm-key", some target.shown, some removed.label⟩
  Machine.success ("Removed " ++ removed.label ++ " key")

def listKeys (place : Place) : Action (Machine σ) Unit := do
  let info ← readInfo place
  if info.keys.isEmpty && !info.hasLegacyPassphrase then
    Machine.inform "This repository has no unlock keys."
  else
    Machine.printLine info.keyTable.drawn
  Machine.advise ("Repository format version " ++ toString info.version.toInt)

/-- Tells which key unlocks. -/
def testKeys (around : Surroundings σ) (place : Place) : Action (Machine σ) Unit := do
  let info ← readInfo place
  let primitives ← equip around place
  let unlocked ← unlock info primitives
  note around place ⟨"unlock", some unlocked.factor.shown, none⟩
  Machine.success ("Repository unlocked with key " ++ unlocked.factor.shown)

def versionStep (word : String) (report : UpgradeReport) : String :=
  toString report.fromVersion.toInt ++ word ++ toString report.toVersion.toInt

/-- Moves the info file forward. -/
def upgrade (around : Surroundings σ) (place : Place) : Action (Machine σ) Unit := do
  let info ← readInfo place
  let primitives ← equip around place
  if info.hasLegacyPassphrase then
    Machine.inform "Enter the repository passphrase to migrate it."
  let (report, info) ← Edit.onFile info
    (Repository.upgrade primitives (Machine.source .existing))
  if report.fromVersion = report.toVersion then
    Machine.inform ("Repository is already at version " ++ toString report.toVersion.toInt)
  else
    writeInfo place info
    note around place ⟨"upgrade", none, some (versionStep " -> " report)⟩
    Machine.success ("Repository upgraded from version " ++ versionStep " to " report)
    if report.rotatedPassphrase then
      Machine.inform "Your passphrase was re-wrapped with a new salt."

def newIdentity (around : Surroundings σ) (place : Place) : Action (Machine σ) Unit := do
  let identity ← Identity.generate (Machine.entropy around.entropy)
  let path ← Machine.onVolume (identity.save around.directory place.identities around.broken)
  Machine.success ("Identity saved to " ++ path)
  Machine.printLine identity.recipientId
  Machine.warn ("Keep the identity file secret! " ++
    "Anyone with it can unlock repositories sealed to it.")
  Machine.advise ("Run \x60repokey keys add --recipient <ID>\x60 " ++
    "to let this identity unlock a repository.")

def showAudit (around : Surroundings σ) (place : Place) (limit : Nat) :
    Action (Machine σ) Unit := do
  if ← Machine.holds place.infoPath then
    match ← Machine.onVolume (Audit.openTrail around.database place.repository) with
    | some home =>
      let records ← Machine.onVolume (Audit.query around.database home limit)
      if records.isEmpty then
        Machine.inform "No audit entries found."
      else
        Machine.printLine (Audit.recordTable records).drawn
    | none => Action.fail (.audit "failed to open audit database")
  else
    Action.fail (.repositoryNotFound place.repository)

def runAt (around : Surroundings σ) (place : Place) : Command → Action (Machine σ) Unit
  | .createRepository recipient => createRepository around place recipient
  | .addKey recipient => addKey around place recipient
  | .removeKey removal => removeKey around place removal
  | .listKeys => listKeys place
  | .testKeys => testKeys around place
  | .upgrade => upgrade around place
  | .newIdentity => newIdentity around place
  | .showAudit limit => showAudit around place limit

end Commands

namespace Invocation

variable {σ : Type}

def run (around : Surroundings σ) (invocation : Invocation) : Action (Machine σ) Unit := do
  Commands.runAt around (← Commands.locate around invocation) invocation.command

end Invocation

/-- How a run ends. -/
inductive Ending
  /-- With a code: zero for success, one for a failure, two for misuse. -/
  | finished (code : Nat)
  /-- It cannot go on before another line is typed. -/
  | awaiting
deriving DecidableEq

namespace CommandLine

variable {σ : Type}

def version : String := "repokey 0.3.0"

/-- How the program is used. -/
def usage : String :=
  "Usage: repokey [--repo <DIR>] [--identities <DIR>] <COMMAND>\n\n" ++
  "Commands:\n" ++
  "  init [--recipient <ID>]                   create key material for a new repository\n" ++
  "  keys add [--recipient <ID>]               add a passphrase or a recipient\n" ++
  "  keys rm [--recipient <ID> | --index <N>]  remove a key\n" ++
  "  keys list                                 list the keys\n" ++
  "  keys test                                 check which key unlocks\n" ++
  "  upgrade                                   move to the latest format\n" ++
  "  identity new                              make a new identity\n" ++
  "  audit [--last <N>]                        show the audit trail\n"

def refuse (refusal : Refusal) (machine : Machine σ) : Ending × Machine σ :=
  let finish (code : Nat) (printed : Printed) : Ending × Machine σ :=
    (.finished code, { machine with printed := machine.printed ++ [printed] })
  match refusal with
  | .misuse => finish 2 (.notice usage)
  | .version => finish 0 (.output (version ++ "\n"))
  | .help => finish 0 (.output usage)

def run (around : Surroundings σ) (arguments : List Bytes) (machine : Machine σ) :
    Ending × Machine σ :=
  match read arguments with
  | .error refusal => refuse refusal machine
  | .ok invocation =>
    match invocation.run around machine with
    | (.ok (), machine) => (.finished 0, machine)
    | (.error (.failed failure), machine) =>
      (.finished 1, { machine with printed := machine.printed ++ [Machine.noticeOf failure] })
    | (.error .aborted, machine) => (.finished 101, machine)
    | (.error .awaiting, machine) => (.awaiting, machine)

end CommandLine

end Keywarden
