import Keywarden.Primitives
import Keywarden.Terminal

/-!
# Asking for a passphrase

A prompt first looks at environment variables and then asks at the terminal.  An
empty passphrase is never accepted; a prompt for a new passphrase asks twice.
-/

namespace Keywarden

/-- The variables of a process and their values, which need not be text. -/
abbrev Environment := List (String × Bytes)

/-- How a passphrase is asked for. -/
structure Prompt where
  label : String
  /-- Whether the passphrase has to be repeated. -/
  confirms : Bool
  /-- The variables that may hold the passphrase, in the order of precedence. -/
  sources : List String
deriving DecidableEq

namespace Prompt

def passphraseVariable : String := "REPOKEY_PASSPHRASE"

def newPassphraseVariable : String := "REPOKEY_NEW_PASSPHRASE"

/-- Asks for an existing passphrase. -/
def existing : Prompt :=
  ⟨"Passphrase", false, [passphraseVariable]⟩

/-- Asks for a passphrase to be added; the one that unlocks is never taken for it. -/
def added : Prompt :=
  ⟨"New passphrase", true, [newPassphraseVariable]⟩

/-- Asks for the first passphrase of a repository. -/
def first : Prompt :=
  ⟨"New passphrase", true, [newPassphraseVariable, passphraseVariable]⟩

/-- The first variable whose value is a text that is not empty. -/
def fromEnvironment? (prompt : Prompt) (environment : Environment) : Option String :=
  prompt.sources.findSome? fun name =>
    match (environment.lookup name).bind Bytes.text? with
    | some text => if text.isEmpty then none else some text
    | none => none

/-- A dialogue at a terminal. -/
structure Dialogue where
  /-- The lines on the screen. -/
  screen : List String
  /-- How many typed lines were read. -/
  read : Nat
  /-- The passphrase, or why there is none; nothing while another line is awaited. -/
  outcome : Option (Except Failure String)

namespace Dialogue

def after (screen : List String) (read : Nat) (rest : Dialogue) : Dialogue :=
  ⟨screen ++ rest.screen, read + rest.read, rest.outcome⟩

/-- A line is asked for and not there. -/
def waiting (screen : List String) (read : Nat) : Dialogue :=
  ⟨screen, read, none⟩

end Dialogue

def differ : String := "error: Passphrases do not match, try again"

def emptyRefused : String := "⚠ Passphrase must not be empty"

/-- A typed line without the line ends that close it. -/
def chomp (line : String) : String :=
  String.ofList (line.toList.reverse.dropWhile fun c => c == '\n' || c == '\r').reverse

/-- The failure to read a line that is not text. -/
def garbled : Failure :=
  .command ("passphrase prompt: IO error: " ++ FileFault.invalidData.text)

def askOnce (label : String) : List Bytes → Dialogue
  | [] => .waiting [label] 0
  | line :: rest =>
    match line.text?.map chomp with
    | none => ⟨[label], 1, some (.error garbled)⟩
    | some passphrase =>
      if passphrase.isEmpty then .after [label, emptyRefused] 1 (askOnce label rest)
      else ⟨[label], 1, some (.ok passphrase)⟩

def askTwice (label again : String) : List Bytes → Dialogue
  | [] => .waiting [label] 0
  | first :: rest =>
    match first.text?.map chomp with
    | none => ⟨[label], 1, some (.error garbled)⟩
    | some passphrase =>
      match rest with
      | [] => .waiting [label, again] 1
      | second :: rest =>
        match second.text?.map chomp with
        | none => ⟨[label, again], 2, some (.error garbled)⟩
        | some repeated =>
          if passphrase ≠ repeated then
            .after [label, again, differ] 2 (askTwice label again rest)
          else if passphrase.isEmpty then
            .after [label, again, emptyRefused] 2 (askTwice label again rest)
          else ⟨[label, again], 2, some (.ok passphrase)⟩

def converse (prompt : Prompt) (typed : List Bytes) : Dialogue :=
  if prompt.confirms then askTwice (prompt.label ++ ":") "Confirm passphrase:" typed
  else askOnce (prompt.label ++ ":") typed

end Prompt

/-- What a prompt works with: the environment, and the terminal if there is one. -/
structure Console where
  environment : Environment
  /-- The keys that are still to be typed for each line; none without a terminal. -/
  typed : Option (List Bytes)
  /-- The lines shown so far. -/
  screen : List String

namespace Prompt

def noTerminal : Failure :=
  .command "passphrase prompt: IO error: not a terminal"

def acquire (prompt : Prompt) : Action Console String := fun console =>
  match prompt.fromEnvironment? console.environment with
  | some passphrase => (.ok passphrase, console)
  | none =>
    match console.typed with
    | none => (.error (.failed noTerminal), console)
    | some typed =>
      let dialogue := prompt.converse (typed.map Terminal.line)
      let console := { console with
        typed := some (typed.drop dialogue.read)
        screen := console.screen ++ dialogue.screen }
      match dialogue.outcome with
      | some (.ok passphrase) => (.ok passphrase, console)
      | some (.error failure) => (.error (.failed failure), console)
      | none => (.error .awaiting, console)

end Prompt

end Keywarden
