import Keywarden.Sandbox

/-!
# A shelf of files

A content engine over files that are at hand.  One master key may be the only right
one; an unknown file holds a line that names it; handles are counted.
-/

namespace Keywarden.Sandbox

/-- The content and the right key; without one every key is right. -/
structure Shelf where
  key : Option Bytes
  files : List (String × Except Failure Bytes)
  /-- Why the index cannot be opened. -/
  indexFailure : Option Failure

namespace Shelf

def accepts (shelf : Shelf) (masterKey : MasterKey) : Bool :=
  match shelf.key with
  | some key => masterKey.bytes == key
  | none => true

def wrongKey (context : String) : Failure :=
  .primitive context "wrong master key"

def content (shelf : Shelf) (fileId : String) : Except Failure Bytes :=
  match shelf.files.lookup fileId with
  | some content => content
  | none => .ok (Bytes.ofString ("contents of " ++ fileId))

/-- The engine over a shelf; its state is the next handle. -/
def engine (shelf : Shelf) : Engine UInt64 where
  decryptFile masterKey fileId next :=
    if shelf.accepts masterKey then (shelf.content fileId, next)
    else (.error (wrongKey "Error decrypting file"), next)
  openIndex masterKey next :=
    if shelf.accepts masterKey then
      match shelf.indexFailure with
      | some failure => (.error failure, next)
      | none => (.ok next, next + 1)
    else (.error (wrongKey "Error opening index"), next)

end Shelf

end Keywarden.Sandbox
