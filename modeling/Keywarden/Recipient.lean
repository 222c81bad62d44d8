import Keywarden.Encoding.Hex
import Keywarden.Failure
import Keywarden.Text.Blank
import Keywarden.Text.Quoted

/-!
# Recipients

A recipient is known by the hexadecimal text of its public key.  Any case and
white space around the text are accepted.
-/

namespace Keywarden

/-- A public key of 32 bytes. -/
@[ext]
structure PublicKey where
  bytes : Bytes
  length_eq : bytes.length = 32

namespace PublicKey

instance : DecidableEq PublicKey := fun left right =>
  decidable_of_iff (left.bytes = right.bytes) PublicKey.ext_iff.symm

/-- The identifier by which others address the key. -/
def recipientId (key : PublicKey) : String :=
  Hex.encode key.bytes

end PublicKey

namespace Recipient

/-- What is wrong with the hexadecimal text, in words. -/
def hexFault : Hex.Fault → String
  | .oddLength => "Odd number of digits"
  | .invalidDigit byte index =>
    "Invalid character " ++ Text.quotedChar (Char.ofNat byte.toNat) ++
      " at position " ++ toString index

def failure (detail : String) : Failure :=
  .primitive "Error encrypting the master key for the recipient" detail

/-- The public key that an identifier names.  The length message counts the
bytes of the identifier with its white space. -/
def parse (id : String) : Except Failure PublicKey :=
  match Hex.decode (Bytes.ofString (Text.trim id)) with
  | .error fault => .error (failure ("recipient id is not hex: " ++ hexFault fault))
  | .ok bytes =>
    if length_eq : bytes.length = 32 then
      .ok ⟨bytes, length_eq⟩
    else
      .error <| failure <| "recipient id must be 64 hex characters, got " ++
        toString (Bytes.ofString id).length

end Recipient

end Keywarden
