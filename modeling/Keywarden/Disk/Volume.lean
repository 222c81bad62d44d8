import Keywarden.Action
import Keywarden.Disk.Tree

/-!
# Changing a disk

A change of a disk is a step, which happens as a whole or not at all.  A volume is a
disk together with the steps that made it what it is, so that the same steps can be
taken elsewhere.
-/

namespace Keywarden

/-- One change of a disk. -/
inductive Step
  /-- Makes a file hold some content; a file that was there keeps its protection. -/
  | write (path : String) (content : Bytes)
  /-- Makes a private file where nothing was. -/
  | create (path : String) (content : Bytes)
  | makeDirectory (path : String)
  /-- Moves a file over another one. -/
  | rename (source target : String)
  /-- Makes a file private. -/
  | restrict (path : String)
  /-- Makes a location hold a file of some content, or nothing. -/
  | replace (location : Location) (content : Option Bytes)
deriving DecidableEq

namespace Disk

def write (path : String) (content : Bytes) (disk : Disk) : Except FileFault Disk := do
  checkPath path
  let location ← disk.walk [] (Path.names path)
  if Path.endsInSlash path then
    throw .isADirectory
  match disk.node? location with
  | some .directory => throw .isADirectory
  | some (.file isPrivate _) => return disk.put location (.file isPrivate content)
  | none => return disk.put location (.file false content)

/-- Makes a private file where nothing was. -/
def create (path : String) (content : Bytes) (disk : Disk) : Except FileFault Disk := do
  let location ← disk.locate path
  match disk.node? location with
  | some _ => throw .alreadyExists
  | none => return disk.put location (.file true content)

def makeDirectory (path : String) (disk : Disk) : Except FileFault Disk := do
  checkPath path
  let location ← disk.walk [] (Path.names path)
  match disk.node? location with
  | some _ => throw .alreadyExists
  | none => return disk.put location .directory

/-- Moves a file over another one, or to where nothing was.  A target that ends in the name
of the same or the outer place has to stay what it is. -/
def rename (source target : String) (disk : Disk) : Except FileFault Disk := do
  checkPath target
  let origin ← disk.locate source
  let node ← disk.lookUp source
  let location ← disk.walk [] (Path.names target)
  if !Path.endsInName target then
    throw .busy
  if Path.endsInSlash target then
    throw .notADirectory
  match disk.node? location with
  | some .directory => throw .isADirectory
  | _ => return (disk.remove origin).put location node

def restrict (path : String) (disk : Disk) : Except FileFault Disk := do
  let location ← disk.locate path
  match disk.node? location with
  | some (.file _ content) => return disk.put location (.file true content)
  | some .directory => return disk
  | none => throw .notFound

/-- Makes a location hold a file of some content, or nothing, if it is in a directory and is
none itself; a file that was there keeps its protection. -/
def replace (location : Location) (content : Option Bytes) (disk : Disk) : Disk :=
  if disk.node? location.dropLast = some .directory then
    match disk.node? location, content with
    | some .directory, _ => disk
    | some (.file isPrivate _), some content => disk.put location (.file isPrivate content)
    | some (.file ..), none => disk.remove location
    | none, some content => disk.put location (.file false content)
    | none, none => disk
  else
    disk

end Disk

def Step.apply : Step → Disk → Except FileFault Disk
  | .write path content, disk => disk.write path content
  | .create path content, disk => disk.create path content
  | .makeDirectory path, disk => disk.makeDirectory path
  | .rename source target, disk => disk.rename source target
  | .restrict path, disk => disk.restrict path
  | .replace location content, disk => .ok (disk.replace location content)

/-- A disk and the steps that were taken on it. -/
structure Volume where
  disk : Disk
  /-- The steps, the last one first. -/
  journal : List Step

namespace Volume

/-- The volume on which no step was taken yet. -/
def ofDisk (disk : Disk) : Volume :=
  ⟨disk, []⟩

def examine {α : Type} (look : Disk → Except FileFault α) : Action Volume α := fun volume =>
  match look volume.disk with
  | .ok value => (.ok value, volume)
  | .error fault => (.error (.failed (.io fault)), volume)

/-- Takes a step; one that fails changes nothing. -/
def take (step : Step) : Action Volume Unit := fun volume =>
  match step.apply volume.disk with
  | .ok disk => (.ok (), ⟨disk, step :: volume.journal⟩)
  | .error fault => (.error (.failed (.io fault)), volume)

def takeAll : List Step → Action Volume Unit
  | [] => return ()
  | step :: rest => do
    take step
    takeAll rest

/-- Ignores a failure because the place is a directory already. -/
def unlessDirectory (path : String) : Except Failure Unit → Action Volume Unit
  | .ok () => return ()
  | .error failure => do
    if (← get).disk.isDirectory path then return ()
    else Action.fail failure

/-- Makes the directory at the end of some names, and those that it is in. -/
def makeAlong (names : List String) : Action Volume Unit := do
  let path := Path.ofNames names
  match ← Action.attempt (take (.makeDirectory path)) with
  | .error (.io .notFound) =>
    if _named : names = [] then
      Action.fail (.io .notFound)
    else
      makeAlong (Path.parentNames names)
      unlessDirectory path (← Action.attempt (take (.makeDirectory path)))
  | outcome => unlessDirectory path outcome
termination_by names.length
decreasing_by exact Path.length_parentNames_lt _named

def makeDirectories (path : String) : Action Volume Unit := do
  examine fun _ => Disk.checkPath path
  makeAlong (Path.names path)

end Volume

end Keywarden
