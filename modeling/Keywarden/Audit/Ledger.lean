import Keywarden.Audit.Database
import Keywarden.Json.Document
import Keywarden.Json.Printer

/-!
# A ledger

A database for trails alone, which keeps its table as a text in one file.  It does what the
trail asks of a database, and needs no other file.
-/

namespace Keywarden.Audit

open Json (Value)

/-- The content of the table. -/
structure Ledger where
  /-- The greatest number that was ever used. -/
  lastNumber : Nat
  records : List Record
deriving DecidableEq

namespace Ledger

def empty : Ledger :=
  ⟨0, []⟩

/-- The ledger with a record added at its end; no number is used twice. -/
def add (time : String) (event : Event) (ledger : Ledger) : Ledger :=
  ⟨ledger.lastNumber + 1, ledger.records ++ [⟨ledger.lastNumber + 1, time, event⟩]⟩

/-! ### The text of a ledger -/

def optionalText : Option String → Value
  | some text => .ofText text
  | none => .null

def recordValue (record : Record) : Value :=
  .array
    [.ofInt record.number, .ofText record.time, .ofText record.event.operation,
      optionalText record.event.factor, optionalText record.event.details]

/-- The text in front of every ledger, by which its file is known. -/
def mark : String := "audit trail"

def toValue (ledger : Ledger) : Value :=
  .array
    [.ofText mark, .ofInt ledger.lastNumber, .array (ledger.records.map recordValue)]

def encode (ledger : Ledger) : Bytes :=
  ledger.toValue.pretty

def number? (value : Value) : Option Nat :=
  match value.head with
  | .ok (.number (.unsigned number)) => some number
  | _ => none

def text? (value : Value) : Option String :=
  match value.head with
  | .ok (.string text) => some text
  | _ => none

def optionalText? : Value → Option (Option String)
  | .null => some none
  | value => (text? value).map some

def record? : Value → Option Record
  | .array [number, time, operation, factor, details] => do
    return ⟨Int.ofNat (← number? number), ← text? time,
      ⟨← text? operation, ← optionalText? factor, ← optionalText? details⟩⟩
  | _ => none

def ofValue? : Value → Option Ledger
  | .array [written, number, .array records] =>
    if text? written = some mark then do
      return ⟨← number? number, ← records.mapM record?⟩
    else
      none
  | _ => none

def decode? (content : Bytes) : Option Ledger :=
  (Json.Reader.read? content).bind ofValue?

/-! ### Requests -/

/-- What the file of a ledger holds. -/
inductive Content
  /-- Nothing: the ledger is yet to be begun. -/
  | unused
  | kept (ledger : Ledger)
  /-- Something else. -/
  | foreign

def Content.ofBytes (bytes : Bytes) : Content :=
  if bytes.isEmpty then .unused
  else
    match decode? bytes with
    | some ledger => .kept ledger
    | none => .foreign

/-- The ledger in the files, if it was begun. -/
def read : Request Content := do
  match (← get) .main with
  | .file content => return .ofBytes content
  | _ => throw "unable to open database file"

def write (content : Bytes) : Request Unit :=
  modify fun files part => if part = .main then .file content else files part

def wayLimit : Nat := 511

/-- The most bytes in the path of a ledger, beside which other files have to fit. -/
def pathLimit : Nat := 504

/-- Whether a path is short enough, however far it is followed. -/
def admits (path : String) : Bool :=
  Path.isUsable path &&
    (Path.along [] (Path.names path)).all (fun place =>
      (Path.ofNames place).utf8ByteSize ≤ wayLimit) &&
    (Path.ofNames (Path.lead [] (Path.names path))).utf8ByteSize ≤ pathLimit

/-- Whether the system knows what stands at a place. -/
def isKnown : Except FileFault Node → Bool
  | .ok _ | .error .notFound => true
  | .error _ => false

/-- Whether the way ends in a directory and can be followed. -/
def isOpen (way : List (Except FileFault Node)) : Bool :=
  way.all isKnown &&
    match way.getLast? with
    | none | some (.ok .directory) => true
    | _ => false

/-- Makes the file of a ledger where nothing stands. -/
def touch : Request Unit := do
  match (← get) .main with
  | .nothing => write []
  | .file _ => return ()
  | .directory => throw "unable to open database file"

def connect (path : String) (way : List (Except FileFault Node)) : Request Unit :=
  if admits path && isOpen way then touch else throw "unable to open database file"

def createTable : Request Unit := do
  match ← read with
  | .unused => write empty.encode
  | .kept _ => return ()
  | .foreign => throw "file is not a database"

def current : Request Ledger := do
  match ← read with
  | .unused => throw "no such table: key_events"
  | .kept ledger => return ledger
  | .foreign => throw "file is not a database"

def insert (time : String) (event : Event) : Request Unit := do
  let ledger ← current
  write (ledger.add time event).encode

def prepare : Request Unit := do
  let _ ← current

def select (limit : Nat) : Request (List Record) := do
  return Record.greatest limit (← current).records

def database : Database where
  connect := connect
  createTable := createTable
  insert := insert
  prepare := prepare
  select := select

end Ledger

end Keywarden.Audit
