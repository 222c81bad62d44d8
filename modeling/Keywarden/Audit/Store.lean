import Keywarden.Audit.Database
import Keywarden.Disk.Volume

/-!
# The audit trail

The history of operations on a repository's keys is kept in a database in its directory, as
well as possible: where the database cannot be opened or written, operations go on without a
record.
-/

namespace Keywarden.Audit

/-- The path of the database of a repository. -/
def pathIn (directory : String) : String :=
  Path.join directory Part.main.fileName

/-- Where the files of the database of a repository are: the names of its path are followed by
their letters, whatever stands on the way. -/
def homeOf (directory : String) : Location :=
  Path.lead [] (Path.names directory)

/-- The places that the names of a path lead along, as the system describes them. -/
def wayTo (directory : String) (disk : Disk) : List (Except FileFault Node) :=
  (Path.along [] (Path.names directory)).map fun place => disk.lookUp (Path.ofNames place)

def leave (home : Location) (files : Files) : Action Volume Unit :=
  Volume.takeAll (Part.all.map fun part => .replace (part.placeIn home) (files part).content?)

/-- Hands a request to the database in a directory. -/
def ask {α : Type} (home : Location) (request : Request α) :
    Action Volume (Except String α) := do
  let (answer, files) := request (.within home (← get).disk)
  leave home files
  return answer

/-- Opens the trail of the repository in a directory and tells where it is kept, if that can be
done. -/
def openTrail (database : Database) (directory : String) : Action Volume (Option Location) := do
  let home := homeOf directory
  let way := wayTo directory (← get).disk
  match ← ask home (database.connect (pathIn directory) way) with
  | .error _ => return none
  | .ok () =>
    let _ ← Action.attempt (Volume.take (.restrict (pathIn directory)))
    match ← ask home database.createTable with
    | .error _ => return none
    | .ok () => return some home

/-- Adds a record to an open trail; what cannot be recorded is passed over. -/
def append (database : Database) (home : Location) (time : Instant) (event : Event) :
    Action Volume Unit := do
  let _ ← ask home (database.insert time.stored event)

/-- The most records that a database can be asked for. -/
def selectionLimit : Nat := 0x7fffffffffffffff

/-- The last records of an open trail, the newest first. -/
def query (database : Database) (home : Location) (limit : Nat) :
    Action Volume (List Record) := do
  match ← ask home database.prepare with
  | .error reason => Action.fail (.audit ("prepare: " ++ reason))
  | .ok () =>
    match ← ask home (database.select (min limit selectionLimit)) with
    | .error reason => Action.fail (.audit ("query: " ++ reason))
    | .ok records => return records

/-- Records an operation if the trail can be opened; never fails. -/
def note (database : Database) (directory : String) (time : Instant) (event : Event) :
    Action Volume Unit := do
  if let some home ← openTrail database directory then
    append database home time event

end Keywarden.Audit
