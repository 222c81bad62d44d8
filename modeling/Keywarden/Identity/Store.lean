import Keywarden.Disk.Volume
import Keywarden.Encoding.Base64
import Keywarden.Identity
import Keywarden.Json.Document
import Keywarden.Json.Printer

/-!
# Identities on disk

A directory holds one private file for each identity.  Saving never replaces a file;
loading passes over every file that holds no identity.
-/

namespace Keywarden.Identity

open Json (Value)

def pathIn (directory : String) (identity : Identity) : String :=
  Path.join directory (identity.recipientId ++ ".json")

/-- The content of the file of an identity. -/
def encode (identity : Identity) : Bytes :=
  (Value.ofMembers
    [("recipient_id", .ofText identity.recipientId),
      ("secret_key", .ofText (Base64.encode identity.secret))]).pretty

/-- The identity in the content of a file; the recipient that is named beside the secret
is not compared with it. -/
def decode (content : Bytes) : Except Failure Identity :=
  match Json.readAs (Json.askRecord "struct IdentityFile" ["recipient_id", "secret_key"])
      content with
  | .error refusal => .error (.identity ("bad identity JSON: " ++ refusal.message))
  | .ok texts =>
    match Base64.decode (Bytes.ofString (texts.getLastD "")) with
    | .error fault => .error (.identity ("bad secret key encoding: " ++ fault.message))
    | .ok secret =>
      match ofSecret? secret with
      | some identity => .ok identity
      | none => .error (.identity "secret key must be 32 bytes")

def directoryFailure : Failure → Failure
  | .io fault => .identity ("cannot create identities directory: " ++ fault.text)
  | failure => failure

def fileFailure (path : String) : Failure → Failure
  | .io .alreadyExists => .identity ("identity already exists at " ++ path)
  | .io fault => .identity ("failed to create identity: " ++ fault.text)
  | failure => failure

def contentFailure : Failure → Failure
  | .io fault => .identity ("failed to write identity: " ++ fault.text)
  | failure => failure

/-- Where the content of a file breaks off when it is written, and why. -/
structure Break where
  length : Nat
  fault : FileFault

def fill (place : String) (content : Bytes) : Option Break → Action Volume Unit
  | none => Volume.take (.write place content)
  | some broken =>
    if broken.length < content.length then do
      Volume.take (.write place (content.take broken.length))
      Action.fail (.io broken.fault)
    else
      Volume.take (.write place content)

/-- Saves an identity in a file of its own and returns the path of the file.  A relative
path starts at the working directory.  The file is made private before it is filled, and
stays as it is where the content breaks off. -/
def save (working directory : String) (broken : Option Break) (identity : Identity) :
    Action Volume String := do
  let path := identity.pathIn directory
  let place := Path.join working path
  Action.mapFailure directoryFailure (Volume.makeDirectories (Path.join working directory))
  Action.mapFailure (fileFailure path) (Volume.take (.create place []))
  Action.mapFailure contentFailure (fill place identity.encode broken)
  return path

/-- The identity in a file of a directory, or why there is none. -/
def load (disk : Disk) (directory name : String) : Except Failure Identity :=
  match disk.readFile (Path.join directory name) with
  | .ok content => decode content
  | .error fault => .error (.io fault)

/-- The files of a directory that should hold identities. -/
def candidates (names : List String) : List String :=
  names.filter fun name => Path.extension? name = some "json"

/-- Loads the identities of a directory; one that is missing holds none. -/
def loadAll (working directory : String) : Action Volume (List Identity) := do
  let disk := (← get).disk
  let directory := Path.join working directory
  if disk.holds directory then
    let names ← Volume.examine (·.listNames directory)
    return (candidates names).filterMap fun name => (load disk directory name).toOption
  else
    return []

/-- A file that is passed over when identities are loaded, and why. -/
structure Skipped where
  path : String
  cause : Failure
deriving DecidableEq

/-- The report on a file of a directory, if it is passed over. -/
def skipped? (disk : Disk) (directory name : String) : Option Skipped :=
  match load disk directory name with
  | .ok _ => none
  | .error cause => some ⟨Path.join directory name, cause⟩

/-- The files of a directory that are passed over when its identities are loaded. -/
def skipped (working directory : String) (disk : Disk) : List Skipped :=
  let directory := Path.join working directory
  match disk.listNames directory with
  | .ok names => (candidates names).filterMap (skipped? disk directory)
  | .error _ => []

end Keywarden.Identity
