import Keywarden.Audit.Ledger
import Keywarden.Command.Run
import Std.Time

/-!
# The program

The part of the disk that a command can look at is read first; then the command runs on
it, and the steps that it took are taken on the disk.  When the command has to ask for a
passphrase, it runs again with one more line typed.
-/

namespace Keywarden.Program

abbrev Reading := StateT Disk IO

/-- Reads what stands along a path; the content of a file only where the path ends. -/
def readAlong (path : String) : Reading Unit := do
  let root ← IO.currentDir
  let names := Path.names path
  for length in [1:names.length + 1] do
    let location := (names.take length).foldl Path.follow []
    let place := root / Path.ofNames location
    if ← place.isDir then
      modify (·.put location .directory)
    else if ← place.pathExists then
      let content ← if length = names.length then IO.FS.readBinFile place else pure .empty
      modify (·.put location (.file false content.data.toList))

/-- Reads what stands in a directory. -/
def readWithin (path : String) : Reading Unit := do
  readAlong path
  let place := (← IO.currentDir) / path
  if ← place.isDir then
    for entry in ← place.readDir do
      readAlong (Path.join path entry.fileName)

/-- Reads what a command may look at. -/
def readPlace (directory : String) (place : Place) : Reading Unit := do
  readAlong place.infoPath
  readAlong (InfoFile.draftPath place.infoPath)
  readAlong place.repository
  for part in Audit.Part.all do
    readAlong (Path.join place.repository part.fileName)
  readWithin (Path.join directory place.identities)

/-- The environment variables that the program knows. -/
def readEnvironment : IO Environment := do
  let mut environment := []
  for name in ["HOME", Prompt.passphraseVariable, Prompt.newPassphraseVariable] do
    if let some value ← IO.getEnv name then
      environment := (name, Bytes.ofString value) :: environment
  return environment

def ownerOnly : IO.FileRight :=
  ⟨⟨true, true, false⟩, ⟨false, false, false⟩, ⟨false, false, false⟩⟩

def perform : Step → IO Unit
  | .write path content => IO.FS.writeBinFile path ⟨content.toArray⟩
  | .create path content => do
    let handle ← IO.FS.Handle.mk path .writeNew
    IO.setAccessRights path ownerOnly
    handle.write ⟨content.toArray⟩
  | .makeDirectory path => IO.FS.createDir path
  | .rename source target => IO.FS.rename source target
  | .restrict path => IO.setAccessRights path ownerOnly
  | .replace location (some content) =>
    IO.FS.writeBinFile (Path.ofNames location) ⟨content.toArray⟩
  | .replace location none => do
    let place := (← IO.currentDir) / Path.ofNames location
    if ← place.pathExists then
      IO.FS.removeFile place

def display : Printed → IO Unit
  | .output text => do
    IO.print text
    (← IO.getStdout).flush
  | .notice text => IO.eprint text
  | .report skipped =>
    IO.eprintln ("WARN skipping identity file path=" ++ skipped.path ++ " error=" ++
      skipped.cause.message)

/-- Reads a line without showing what is typed. -/
def readHidden : IO String := do
  IO.eprint "\x1b[8m"
  let line ← (← IO.getStdin).getLine
  IO.eprint "\x1b[0m\n"
  return line

/-- Runs a command to its end, with a line typed whenever it asks for one; `attempts`
bounds how often it may ask. -/
def converse (run : List Bytes → Ending × Machine Bytes) (attempts : Nat)
    (typed : List Bytes) (shown asked : Nat) : IO UInt32 := do
  let (ending, machine) := run typed
  if ending = .awaiting then
    for printed in machine.printed.drop shown do
      display printed
    IO.eprint ("\n".intercalate (machine.console.screen.drop asked) ++ " ")
  match ending, attempts with
  | .finished code, _ =>
    for step in machine.volume.journal.reverse do
      perform step
    for printed in machine.printed.drop shown do
      display printed
    return code.toUInt32
  | .awaiting, 0 => return 1
  | .awaiting, attempts + 1 =>
    let line ← readHidden
    if line.isEmpty then
      display (Machine.noticeOf Prompt.noTerminal)
      return 1
    else
      converse run attempts (typed ++ [Terminal.keysOf (Bytes.ofString line)]) machine.printed.length
        machine.console.screen.length

/-- The time. -/
def readClock : IO Instant := do
  let nanos := (← Std.Time.Timestamp.now).toNanosecondsSinceUnixEpoch.val
  return ⟨nanos / Instant.nanosPerSecond, (nanos % Instant.nanosPerSecond).toNat⟩

/-- Where a command works, as far as the settings can be read. -/
def placeOf (around : Surroundings Bytes) (arguments : List Bytes)
    (machine : Machine Bytes) : Option Place :=
  match CommandLine.read arguments with
  | .ok invocation => (Commands.locate around invocation machine).1.toOption
  | .error _ => none

/-- Runs the program. -/
def run (arguments : List Bytes) : IO UInt32 := do
  let directory := (← IO.currentDir).toString
  let around : Surroundings Bytes := ⟨.stored, ← readClock, directory, Audit.Ledger.database, none⟩
  let environment ← readEnvironment
  let random ← IO.getRandomBytes 1024
  let hasTerminal := (← (← IO.getStdin).isTty) && (← (← IO.getStderr).isTty)
  let machine (disk : Disk) (typed : List Bytes) : Machine Bytes :=
    ⟨.ofDisk disk, ⟨environment, if hasTerminal then some typed else none, []⟩, [],
      random.data.toList⟩
  try
    let ((), disk) ← (readAlong (Path.join directory Settings.fileName)).run .empty
    let disk ←
      match placeOf around arguments (machine disk []) with
      | some place => do
        let ((), disk) ← (readPlace directory place).run disk
        pure disk
      | none => pure disk
    converse (fun typed => CommandLine.run around arguments (machine disk typed)) 1000 [] 0 0
  catch fault =>
    display (Machine.noticeOf (.io (.other (toString fault))))
    return 1

end Keywarden.Program

def main (arguments : List String) : IO UInt32 :=
  Keywarden.Program.run (arguments.map Keywarden.Bytes.ofString)
