import Keywarden.Text.Repaired

/-!
# The command line

What a command line asks for.  Two options hold for every command and may stand at any
level of the command; the level next to the command counts.  A value follows its option
as the next argument or after an equals sign.
-/

namespace Keywarden

/-- Which factor is to be removed. -/
inductive Removal
  | recipient (id : String)
  /-- A passphrase, by its position among all entries. -/
  | position (index : Nat)
  /-- The passphrase that is asked for. -/
  | entered
deriving DecidableEq

inductive Command
  | createRepository (recipient : Option String)
  | addKey (recipient : Option String)
  | removeKey (removal : Removal)
  | listKeys
  | testKeys
  | upgrade
  | newIdentity
  | showAudit (limit : Nat)
deriving DecidableEq

/-- A command and where it works. -/
structure Invocation where
  command : Command
  /-- The directory of the repository, if it is named. -/
  repository : Option String
  /-- The directory of the identities, if it is named. -/
  identities : Option String
deriving DecidableEq

namespace CommandLine

/-- Why no command is to be run. -/
inductive Refusal
  /-- The command line makes no sense. -/
  | misuse
  /-- The version is asked for. -/
  | version
  /-- An explanation is asked for. -/
  | help
deriving DecidableEq

/-- An option that takes a value. -/
structure Parameter where
  name : String
  /-- Whether the value is a number. -/
  isNumeric : Bool

abbrev Values := List (String × String)

/-- The options that every command has. -/
def general : List Parameter :=
  [⟨"repo", false⟩, ⟨"identities", false⟩]

def recipient : Parameter :=
  ⟨"recipient", false⟩

/-- The number of 64 bits that a text of decimal digits writes, with a plus or without. -/
def number? (text : String) : Option Nat :=
  let digits :=
    match text.toList with
    | '+' :: rest => rest
    | chars => chars
  let value := digits.foldl (fun value digit => 10 * value + (digit.toNat - 48)) 0
  if !digits.isEmpty && digits.all Char.isDigit && value < UInt64.size then some value else none

/-- What an argument is to somebody who expects an option or a word. -/
inductive Argument
  /-- Two hyphens alone. -/
  | ending
  /-- An option by its name, and the value after an equals sign. -/
  | option (name : String) (value : Option String)
  /-- Options of one letter. -/
  | letters (chars : List Char)
  | word (text : String)
deriving DecidableEq

def Argument.ofText (text : String) : Argument :=
  match text.toList with
  | ['-', '-'] => .ending
  | '-' :: '-' :: rest =>
    match rest.span (· ≠ '=') with
    | (name, _ :: value) => .option (String.ofList name) (some (String.ofList value))
    | (name, []) => .option (String.ofList name) none
  | '-' :: char :: rest => .letters (char :: rest)
  | _ => .word text

/-- Adds the value of an option, which must be the first one and make sense. -/
def addValue (parameters : List Parameter) (name value : String) (values : Values) :
    Except Refusal Values :=
  match parameters.find? (·.name = name) with
  | none => .error .misuse
  | some parameter =>
    if (values.lookup name).isSome || (parameter.isNumeric && (number? value).isNone) then
      .error .misuse
    else
      .ok (values ++ [(name, value)])

/-- Reads the options in front of the next word; the version is told only at the
outermost level. -/
def readOptions (isOutermost : Bool) (parameters : List Parameter) (values : Values) :
    List String → Except Refusal (Values × List String)
  | [] => .ok (values, [])
  | text :: rest =>
    match Argument.ofText text with
    | .word _ => .ok (values, text :: rest)
    | .ending => if rest.isEmpty then .ok (values, []) else .error .misuse
    | .letters chars =>
      if chars.head? = some 'h' then .error .help
      else if isOutermost ∧ chars.head? = some 'V' then .error .version
      else .error .misuse
    | .option name (some value) =>
      match addValue parameters name value values with
      | .ok values => readOptions isOutermost parameters values rest
      | .error refusal => .error refusal
    | .option name none =>
      if name = "help" then .error .help
      else if isOutermost ∧ name = "version" then .error .version
      else
        match rest with
        | [] => .error .misuse
        | value :: rest =>
          match Argument.ofText value with
          | .word _ =>
            match addValue parameters name value values with
            | .ok values => readOptions isOutermost parameters values rest
            | .error refusal => .error refusal
          | _ => .error .misuse

def readLast (parameters : List Parameter) (arguments : List String) :
    Except Refusal Values := do
  match ← readOptions false (parameters ++ general) [] arguments with
  | (values, []) => return values
  | _ => throw .misuse

abbrev Levels := List Values

def generalValue? (name : String) (levels : Levels) : Option String :=
  levels.findSome? (·.lookup name)

/-- The command without options of its own. -/
def plain (command : Command) (outer : Levels) (arguments : List String) :
    Except Refusal (Command × Levels) := do
  return (command, (← readLast [] arguments) :: outer)

def withRecipient (command : Option String → Command) (outer : Levels)
    (arguments : List String) : Except Refusal (Command × Levels) := do
  let values ← readLast [recipient] arguments
  return (command (values.lookup recipient.name), values :: outer)

/-- The removal of a key; a recipient and a position exclude each other. -/
def readRemoval (outer : Levels) (arguments : List String) :
    Except Refusal (Command × Levels) := do
  let values ← readLast [recipient, ⟨"index", true⟩] arguments
  match values.lookup recipient.name, (values.lookup "index").bind number? with
  | some _, some _ => throw .misuse
  | some id, none => return (.removeKey (.recipient id), values :: outer)
  | none, some index => return (.removeKey (.position index), values :: outer)
  | none, none => return (.removeKey .entered, values :: outer)

/-- The words that name a command or a group of commands. -/
def explained : List (List String) :=
  [[], ["init"], ["keys"], ["keys", "add"], ["keys", "rm"], ["keys", "list"], ["keys", "test"],
    ["keys", "help"], ["upgrade"], ["identity"], ["identity", "new"], ["identity", "help"],
    ["audit"], ["help"]]

/-- The answer to somebody who asks for an explanation of a command. -/
def explain (words : List String) : Refusal :=
  if explained.contains words then .help else .misuse

def readKeys (outer : Levels) (arguments : List String) :
    Except Refusal (Command × Levels) := do
  let (values, arguments) ← readOptions false general [] arguments
  let outer := values :: outer
  match arguments with
  | "add" :: rest => withRecipient .addKey outer rest
  | "rm" :: rest => readRemoval outer rest
  | "list" :: rest => plain .listKeys outer rest
  | "test" :: rest => plain .testKeys outer rest
  | "help" :: rest => throw (explain ("keys" :: rest))
  | _ => throw .misuse

def readIdentity (outer : Levels) (arguments : List String) :
    Except Refusal (Command × Levels) := do
  let (values, arguments) ← readOptions false general [] arguments
  let outer := values :: outer
  match arguments with
  | "new" :: rest => plain .newIdentity outer rest
  | "help" :: rest => throw (explain ("identity" :: rest))
  | _ => throw .misuse

/-- How many records are shown unless the command line says otherwise. -/
def standardLimit : Nat := 50

def readAudit (outer : Levels) (arguments : List String) :
    Except Refusal (Command × Levels) := do
  let values ← readLast [⟨"last", true⟩] arguments
  let limit := ((values.lookup "last").bind number?).getD standardLimit
  return (.showAudit limit, values :: outer)

def readTexts (arguments : List String) : Except Refusal Invocation := do
  let (values, arguments) ← readOptions true general [] arguments
  let outer := [values]
  let (command, levels) ←
    match arguments with
    | "init" :: rest => withRecipient .createRepository outer rest
    | "keys" :: rest => readKeys outer rest
    | "upgrade" :: rest => plain .upgrade outer rest
    | "identity" :: rest => readIdentity outer rest
    | "audit" :: rest => readAudit outer rest
    | "help" :: rest => throw (explain rest)
    | _ => throw .misuse
  return ⟨command, generalValue? "repo" levels, generalValue? "identities" levels⟩

/-- Reads a command line.  It makes no sense if an argument is not text, unless what is
read before that asks for something else. -/
def read (arguments : List Bytes) : Except Refusal Invocation :=
  match arguments.span fun argument => argument.text?.isSome with
  | (texts, []) => readTexts (texts.map Bytes.repaired)
  | (texts, odd :: _) =>
    match readTexts ((texts ++ [odd]).map Bytes.repaired) with
    | .ok _ => .error .misuse
    | .error refusal => .error refusal

end CommandLine

end Keywarden
