import Keywarden.Instant

/-!
# Records of the audit trail

What is kept of an operation on a repository's keys.  No record holds a passphrase, a key, a
salt or a hash.
-/

namespace Keywarden.Audit

/-- What is recorded about an operation. -/
structure Event where
  operation : String
  factor : Option String
  details : Option String
deriving DecidableEq

/-- A recorded operation. -/
structure Record where
  number : Int
  /-- The time in the form in which it is stored, which others may have changed. -/
  time : String
  event : Event
deriving DecidableEq

namespace Record

/-- The time of a record; a text that is no time counts as the beginning of 1970. -/
def instant (record : Record) : Instant :=
  (Instant.read? record.time).getD .epoch

def greatest (limit : Nat) (records : List Record) : List Record :=
  (records.mergeSort fun left right => right.number ≤ left.number).take limit

end Record

end Keywarden.Audit
