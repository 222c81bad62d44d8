import Keywarden.Audit.Record
import Keywarden.Disk.Tree

/-!
# Databases

The trail is kept by a library for databases, which is a parameter: this module says what it
is asked for and what it has to do with.  A database is kept in a file, beside which the
library may keep three more.  It is told the path of the file and what stands on the way, and
it sees and changes these files alone.
-/

namespace Keywarden.Audit

/-- The files in which a database is kept. -/
inductive Part
  | main
  | journal
  | log
  | index
deriving DecidableEq

namespace Part

def all : List Part :=
  [.main, .journal, .log, .index]

def fileName : Part → String
  | .main => "audit.db"
  | .journal => "audit.db-journal"
  | .log => "audit.db-wal"
  | .index => "audit.db-shm"

/-- Where the file is, for a database in a directory. -/
def placeIn (home : Location) (part : Part) : Location :=
  home ++ [part.fileName]

end Part

/-- What stands where a file belongs. -/
inductive Standing
  | nothing
  | directory
  | file (content : Bytes)
deriving DecidableEq

namespace Standing

def ofNode : Option Node → Standing
  | none => .nothing
  | some .directory => .directory
  | some (.file _ content) => .file content

def content? : Standing → Option Bytes
  | .file content => some content
  | _ => none

end Standing

abbrev Files := Part → Standing

namespace Files

def none : Files := fun _ => .nothing

def within (home : Location) (disk : Disk) : Files := fun part =>
  .ofNode (disk.node? (part.placeIn home))

end Files

/-- A request is answered, or refused in words, and leaves the files as it likes. -/
abbrev Request := ExceptT String (StateM Files)

/-- What a library does when it is asked to keep a trail. -/
structure Database where
  /-- Opens the database at a path; the places that the names of its directory lead along are
  given as the system describes them. -/
  connect (path : String) (way : List (Except FileFault Node)) : Request Unit
  /-- Makes the table of records if it is not there. -/
  createTable : Request Unit
  /-- Adds a record to the table, which chooses the number. -/
  insert (time : String) (event : Event) : Request Unit
  /-- Prepares a look at the table. -/
  prepare : Request Unit
  /-- The records with the greatest numbers, the greatest first. -/
  select (limit : Nat) : Request (List Record)

end Keywarden.Audit
