import Keywarden.Encoding.Base64
import Keywarden.Json.Number
import Keywarden.Json.Text
import Keywarden.Text.Quoted

/-!
# Mismatches

What can be wrong with a document that is asked for a certain shape, and the words
for it.
-/

namespace Keywarden.Json

/-- What a value is at first sight, without a look inside. -/
inductive Head
  | null
  | bool (value : Bool)
  | number (value : Number)
  | string (text : String)
  | array
  | object
deriving DecidableEq

def Head.shown : Head → String
  | .null => "null"
  | .bool value => "boolean \x60" ++ (if value then "true" else "false") ++ "\x60"
  | .number (.unsigned value) => "integer \x60" ++ toString value ++ "\x60"
  | .number (.negative value) => "integer \x60" ++ toString value ++ "\x60"
  | .number (.float isNegative magnitude) =>
    "floating point \x60" ++ Number.floatText isNegative magnitude ++ "\x60"
  | .string text => "string " ++ Text.quoted text
  | .array => "sequence"
  | .object => "map"

/-- Why a document does not have the shape that is asked for. -/
inductive Mismatch
  | invalidType (found : Head) (expected : String)
  | invalidInteger (value : Int) (expected : String)
  | invalidLength (length : Nat) (expected : String)
  | missingField (name : String)
  | duplicateField (name : String)
  | unknownVariant (name : String) (known : List String)
  /-- Values are nested too deeply. -/
  | tooDeep
  | numberOutOfRange
  | invalidText (fault : Text.Fault)
  | invalidBase64 (fault : Base64.Fault)
  /-- An array goes on where it should end. -/
  | trailingItems
deriving DecidableEq

namespace Mismatch

/-- A name between grave accents. -/
def marked (name : String) : String :=
  "\x60" ++ name ++ "\x60"

/-- The choice among names. -/
def oneOf : List String → String
  | [] => "there are no variants"
  | [only] => marked only
  | [first, second] => marked first ++ " or " ++ marked second
  | names => "one of " ++ ", ".intercalate (names.map marked)

def message : Mismatch → String
  | .invalidType found expected => "invalid type: " ++ found.shown ++ ", expected " ++ expected
  | .invalidInteger value expected =>
    "invalid value: integer " ++ marked (toString value) ++ ", expected " ++ expected
  | .invalidLength length expected =>
    "invalid length " ++ toString length ++ ", expected " ++ expected
  | .missingField name => "missing field " ++ marked name
  | .duplicateField name => "duplicate field " ++ marked name
  | .unknownVariant name known =>
    "unknown variant " ++ marked name ++ ", expected " ++ oneOf known
  | .tooDeep => "recursion limit exceeded"
  | .numberOutOfRange => "number out of range"
  | .invalidText .loneSurrogate => "lone leading surrogate in hex escape"
  | .invalidText .endOfEscape => "unexpected end of hex escape"
  | .invalidText .invalidCodePoint => "invalid unicode code point"
  | .invalidBase64 fault => fault.message
  | .trailingItems => "trailing characters"

end Mismatch

end Keywarden.Json
