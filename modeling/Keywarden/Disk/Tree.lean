import Keywarden.Bytes
import Keywarden.Disk.Path
import Keywarden.Failure

/-!
# Directories and files

A disk says what stands at each location.  A path is followed name by name, and what
is met on the way decides how the look-up fails.
-/

namespace Keywarden

/-- The names that lead from the root to a place. -/
abbrev Location := List String

/-- What stands at a location. -/
inductive Node
  | directory
  /-- A file; a private one is closed to everybody but its owner. -/
  | file (isPrivate : Bool) (content : Bytes)
deriving DecidableEq

/-- Everything below the root, which is always a directory. -/
structure Disk where
  entries : List (Location × Node)
  distinct : (entries.map Prod.fst).Nodup
  /-- The directories whose names nobody may read, although they may be entered. -/
  shut : List Location

namespace Disk

/-- The disk on which nothing is stored. -/
def empty : Disk :=
  ⟨[], by simp, []⟩

def node? (disk : Disk) (location : Location) : Option Node :=
  if location = [] then some .directory else disk.entries.lookup location

/-- The disk without the locations that a test refuses. -/
def keep (keeps : Location → Bool) (disk : Disk) : Disk :=
  ⟨disk.entries.filter fun entry => keeps entry.1,
    disk.distinct.sublist ((List.filter_sublist).map _), disk.shut.filter keeps⟩

def remove (location : Location) (disk : Disk) : Disk :=
  disk.keep fun other => other ≠ location

/-- The disk with something at a location in place of what was there. -/
def put (location : Location) (node : Node) (disk : Disk) : Disk :=
  ⟨(location, node) :: (disk.remove location).entries, by
    rw [List.map_cons, List.nodup_cons]
    refine ⟨?_, (disk.remove location).distinct⟩
    simp [remove, keep], (disk.remove location).shut⟩

def nameLimit : Nat := 255

def pathLimit : Nat := 4095

/-- Follows names from a location; each of them is looked up in a directory. -/
def walk (disk : Disk) (here : Location) : List String → Except FileFault Location
  | [] => .ok here
  | name :: rest =>
    match disk.node? here with
    | none => .error .notFound
    | some (.file ..) => .error .notADirectory
    | some .directory =>
      if nameLimit < name.utf8ByteSize then .error .nameTooLong
      else walk disk (Path.follow here name) rest

/-- Refuses a path that cannot be followed on any disk. -/
def checkPath (path : String) : Except FileFault Unit :=
  if !Path.isUsable path then .error .unusablePath
  else if pathLimit < path.utf8ByteSize then .error .nameTooLong
  else .ok ()

/-- The location that a path leads to, where something need not stand yet. -/
def locate (disk : Disk) (path : String) : Except FileFault Location := do
  checkPath path
  disk.walk [] (Path.steps path)

def lookUp (disk : Disk) (path : String) : Except FileFault Node := do
  match disk.node? (← disk.locate path) with
  | some node => return node
  | none => throw .notFound

/-- Whether a path leads to anything. -/
def holds (disk : Disk) (path : String) : Bool :=
  (disk.lookUp path).toOption.isSome

def isDirectory (disk : Disk) (path : String) : Bool :=
  (disk.lookUp path).toOption == some .directory

def readFile (disk : Disk) (path : String) : Except FileFault Bytes := do
  match ← disk.lookUp path with
  | .file _ content => return content
  | .directory => throw .isADirectory

def nameIn? (directory location : Location) : Option String :=
  if location.dropLast = directory then location.getLast? else none

/-- The names in the directory that a path leads to, in the order of their characters. -/
def listNames (disk : Disk) (path : String) : Except FileFault (List String) := do
  let location ← disk.locate path
  match disk.node? location with
  | none => throw .notFound
  | some (.file ..) => throw .notADirectory
  | some .directory =>
    if location ∈ disk.shut then
      throw .accessDenied
    return (disk.entries.filterMap fun entry => nameIn? location entry.1).mergeSort

theorem lookup_filter_ne {location other : Location} (different : other ≠ location)
    (entries : List (Location × Node)) :
    (entries.filter fun entry => decide (entry.1 ≠ location)).lookup other =
      entries.lookup other := by
  induction entries with
  | nil => rfl
  | cons entry rest ih =>
    obtain ⟨place, node⟩ := entry
    by_cases same : place = location
    · subst same
      have : (other == place) = false := by simpa using different
      simpa [List.lookup_cons, this] using ih
    · by_cases found : other = place
      · subst found
        simp [same]
      · have : (other == place) = false := by simpa using found
        simp only [ne_eq, decide_not] at ih
        simp [same, List.lookup_cons, this, ih]

/-- What was put at a location stands there. -/
theorem node?_put_self {location : Location} (below : location ≠ []) (node : Node)
    (disk : Disk) : (disk.put location node).node? location = some node := by
  simp [node?, put, below]

/-- Putting something at a location changes no other one. -/
theorem node?_put_of_ne {location other : Location} (different : other ≠ location)
    (node : Node) (disk : Disk) :
    (disk.put location node).node? other = disk.node? other := by
  unfold node?
  split
  · rfl
  · have : (other == location) = false := by simpa using different
    simp only [put, List.lookup_cons, this]
    exact lookup_filter_ne different disk.entries

/-- Nothing stands where it was removed. -/
theorem node?_remove_self {location : Location} (below : location ≠ []) (disk : Disk) :
    (disk.remove location).node? location = none := by
  simp only [node?, below, if_false, remove, keep]
  rw [List.lookup_eq_none_iff]
  intro entry member
  have := (List.mem_filter.1 member).2
  simpa using fun same => (of_decide_eq_true this) same.symm

/-- Removing from a location changes no other one. -/
theorem node?_remove_of_ne {location other : Location} (different : other ≠ location)
    (disk : Disk) : (disk.remove location).node? other = disk.node? other := by
  unfold node?
  split
  · rfl
  · exact lookup_filter_ne different disk.entries

end Disk

end Keywarden
