import Keywarden.Bytes

/-!
# JSON documents

A document is kept as it was written: numbers and strings stay in the spelling of
the text, members stay in order, and a name may occur twice.  What a number or a
string stands for is settled when somebody asks for it.
-/

namespace Keywarden.Json

/-- A number as it is written. -/
structure NumberText where
  isNegative : Bool
  /-- The digits before the point. -/
  whole : Bytes
  /-- The digits after the point. -/
  fraction : Option Bytes
  /-- The digits of the exponent, and whether a minus stands before them. -/
  exponent : Option (Bool × Bytes)
deriving DecidableEq

/-- A document.  Strings and names are the bytes between their quotation marks,
escapes included. -/
inductive Value
  | null
  | bool (value : Bool)
  | number (text : NumberText)
  | string (raw : Bytes)
  | array (items : List Value)
  | object (members : List (Bytes × Value))

end Keywarden.Json
