/-!
# White space

The characters with the Unicode property White_Space, and the removal of white
space around a text.
-/

namespace Keywarden.Text

/-- Whether a character has the property White_Space. -/
def isBlank (char : Char) : Bool :=
  let code := char.toNat
  (9 ≤ code && code ≤ 13) || code == 0x20 || code == 0x85 || code == 0xa0 ||
    code == 0x1680 || (0x2000 ≤ code && code ≤ 0x200a) || code == 0x2028 ||
    code == 0x2029 || code == 0x202f || code == 0x205f || code == 0x3000

/-- The characters between the outer white space. -/
def trimChars (chars : List Char) : List Char :=
  ((chars.dropWhile isBlank).reverse.dropWhile isBlank).reverse

/-- A text without the white space around it. -/
def trim (text : String) : String :=
  String.ofList (trimChars text.toList)

/-- Whether a text is the same as another one up to the case of ASCII letters. -/
def equalFold (left right : String) : Bool :=
  left.toList.map Char.toLower == right.toList.map Char.toLower

end Keywarden.Text
