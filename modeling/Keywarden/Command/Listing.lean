import Keywarden.Audit.Record
import Keywarden.InfoFile
import Keywarden.Text.Table

/-!
# Tables of keys and records

What is shown of a repository's keys and of its audit trail.  Of a passphrase nothing
but its position is shown.
-/

namespace Keywarden

def KeyEntry.shown : KeyEntry → String
  | .passphrase _ => "(passphrase)"
  | .asymmetric entry => entry.recipientId

namespace InfoFile

/-- The rows of the keys, counted from a position on. -/
def keyRows (index : Nat) : List KeyEntry → List Text.Row
  | [] => []
  | key :: rest => [toString index, key.label, key.shown] :: keyRows (index + 1) rest

def legacyRow : Text.Row :=
  ["-", "legacy", "(passphrase, run \x60repokey upgrade\x60)"]

def keyTable (info : InfoFile) : Text.Table where
  header := ["Index", "Type", "Key"]
  rows := keyRows 0 info.keys ++ if info.hasLegacyPassphrase then [legacyRow] else []

end InfoFile

namespace Audit

def Record.row (record : Record) : Text.Row :=
  [record.instant.shown, record.event.operation, record.event.factor.getD "-",
    record.event.details.getD ""]

def recordTable (records : List Record) : Text.Table where
  header := ["Time", "Operation", "Key", "Details"]
  rows := records.map Record.row

end Audit

end Keywarden
