import Keywarden.InfoFile
import Keywarden.Encoding.Base64
import Keywarden.Json.Printer

/-!
# Writing info files

The document of an info file.  Byte strings are in base64; the legacy fields appear
only where they are present.
-/

namespace Keywarden

open Json (Value)

/-- The document of a byte string. -/
def bytesValue (bytes : Bytes) : Value :=
  .ofText (Base64.encode bytes)

def DerivationCost.toValue (cost : DerivationCost) : Value :=
  .ofMembers
    [("memory_kib", .ofInt cost.memoryKib.toNat), ("iterations", .ofInt cost.iterations.toNat),
      ("parallelism", .ofInt cost.parallelism.toNat)]

def KeyEntry.toValue : KeyEntry → Value
  | .passphrase entry =>
    .ofMembers
      [("type", .ofText "passphrase"), ("salt", bytesValue entry.salt),
        ("confirmation_hash", bytesValue entry.confirmationHash),
        ("wrapped_key", bytesValue entry.wrappedKey), ("argon2", entry.cost.toValue)]
  | .asymmetric entry =>
    .ofMembers
      [("type", .ofText "asymmetric"), ("recipient_id", .ofText entry.recipientId),
        ("wrapped_key", bytesValue entry.wrappedKey)]

namespace InfoFile

/-- A member that appears only where there is something to write. -/
def optionalMember (name : String) (value : Option Value) : List (String × Value) :=
  value.toList.map fun value => (name, value)

def toValue (info : InfoFile) : Value :=
  .ofMembers <|
    [("app", .ofText info.app), ("version", .ofInt info.version.toInt),
      ("keys", .array (info.keys.map KeyEntry.toValue))] ++
    optionalMember "salt" (info.legacySalt.map bytesValue) ++
    optionalMember "confirmation_hash" (info.legacyHash.map bytesValue) ++
    optionalMember "argon2" (info.legacyCost.map DerivationCost.toValue)

def encode (info : InfoFile) : Bytes :=
  info.toValue.pretty

end InfoFile

end Keywarden
