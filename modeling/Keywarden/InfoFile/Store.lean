import Keywarden.Disk.Volume
import Keywarden.InfoFile.Reading
import Keywarden.InfoFile.Writing

/-!
# Info files on disk

An info file is written beside its place and then moved there, so that at every
moment its place holds either all of the old file or all of the new one.
-/

namespace Keywarden.InfoFile

def fileName : String := "_info.json"

def pathIn (directory : String) : String :=
  Path.join directory fileName

/-- Where an info file is written before it is moved to its place. -/
def draftPath (path : String) : String :=
  Path.ofNames <|
    Path.parentNames (Path.names path) ++ ["." ++ (Path.lastName? path).getD "" ++ ".tmp"]

def savingSteps (path : String) (info : InfoFile) : List Step :=
  [.write (draftPath path) info.encode, .rename (draftPath path) path]

def save (path : String) (info : InfoFile) : Action Volume Unit :=
  Volume.takeAll (savingSteps path info)

def load (path : String) : Action Volume InfoFile := do
  if (← get).disk.holds path then
    Action.ofExcept (decode (← Volume.examine (·.readFile path)))
  else
    Action.fail (.repositoryNotFound path)

end Keywarden.InfoFile
