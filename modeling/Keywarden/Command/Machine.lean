import Keywarden.Audit.Database
import Keywarden.Disk.Volume
import Keywarden.Identity.Store
import Keywarden.Primitives
import Keywarden.Prompt

/-!
# The machine that a command runs on

A command works on a disk and a console, draws random bytes, and prints lines.
-/

namespace Keywarden

/-- A printed text with its line ends. -/
inductive Printed
  /-- What was asked for. -/
  | output (text : String)
  /-- What should not be overlooked. -/
  | notice (text : String)
  /-- The report of a file of identities that was passed over, which goes where notices go. -/
  | report (skipped : Identity.Skipped)
deriving DecidableEq

/-- The state that a command changes; `σ` is that of the source of random bytes. -/
structure Machine (σ : Type) where
  volume : Volume
  console : Console
  /-- What was printed, in order. -/
  printed : List Printed
  host : σ

/-- What stays as it is while a command runs. -/
structure Surroundings (σ : Type) where
  entropy : Entropy σ
  /-- The time. -/
  now : Instant
  /-- The working directory. -/
  directory : String
  database : Audit.Database
  /-- Where the content of the file of a new identity breaks off, if it does. -/
  broken : Option Identity.Break

namespace Machine

variable {σ α : Type}

def onVolume (action : Action Volume α) : Action (Machine σ) α :=
  Action.focus Machine.volume (fun machine volume => { machine with volume }) action

/-- Whether a path leads to anything. -/
def holds (path : String) : Action (Machine σ) Bool := do
  return (← get).volume.disk.holds path

/-- The source of random bytes. -/
def entropy (entropy : Entropy σ) : Entropy (Machine σ) where
  draw count machine :=
    let (served, host) := entropy.draw count machine.host
    (served, { machine with host })

def source (prompt : Prompt) : PassphraseSource (Machine σ) where
  acquire :=
    Action.focus Machine.console (fun machine console => { machine with console })
      prompt.acquire

def printAll (texts : List Printed) : Action (Machine σ) Unit :=
  modify fun machine => { machine with printed := machine.printed ++ texts }

def print (printed : Printed) : Action (Machine σ) Unit :=
  printAll [printed]

def printLine (text : String) : Action (Machine σ) Unit :=
  print (.output (text ++ "\n"))

/-- Tells that a command has done its work. -/
def success (text : String) : Action (Machine σ) Unit :=
  printLine ("✓ " ++ text)

/-- Tells what a command is about to do. -/
def inform (text : String) : Action (Machine σ) Unit :=
  printLine ("ℹ " ++ text)

/-- Tells what could be done next. -/
def advise (text : String) : Action (Machine σ) Unit :=
  printLine ("→ " ++ text)

def warn (text : String) : Action (Machine σ) Unit :=
  print (.notice ("⚠ " ++ text ++ "\n"))

def noticeOf (failure : Failure) : Printed :=
  .notice ("✗ " ++ failure.userMessage ++ ": " ++ failure.message ++ "\n")

end Machine

end Keywarden
