import Keywarden.Text.WidthClass

/-!
# Width of text on a terminal

How many places a text takes.  Most characters take one place, wide ones two and marks
none; characters that are drawn as one (a picture made of several, a flag, letters that
are joined) take the places of what is drawn.

A text is read from its end: the places of a character depend on what follows it, which
is kept as a `Following`.
-/

namespace Keywarden.Text

/-- The form that a selector asks of the character before it. -/
inductive Form
  | text
  | picture
  /-- A quotation mark as wide as an ideograph. -/
  | wide
deriving DecidableEq

/-- What is drawn after a character, as far as it can be drawn as one with it. -/
inductive Neighbour
  /-- Nothing that a character can be joined with. -/
  | plain
  /-- An Arabic letter like alef. -/
  | alef
  /-- The Hebrew letter lamed, and whether a joiner stands before it. -/
  | lamed (joined : Bool)
  /-- The Buginese letter ya, and whether a joiner stands before it. -/
  | ya (joined : Bool)
  /-- The Buginese vowel i that is joined with ya. -/
  | vowelAndYa
  /-- A Khmer letter that has a form below another. -/
  | khmerLetter
  /-- A consonant of Tifinagh, and whether a joiner stands before it. -/
  | tifinagh (joined : Bool)
  /-- The joiner of Tifinagh and a consonant. -/
  | joinedTifinagh
  /-- A Lisu letter for the later part of a tone. -/
  | lisuTone
  /-- The Old Turkic letter i, and whether a joiner stands before it. -/
  | orkhonI (joined : Bool)
  /-- The Kirat Rai vowel e. -/
  | kiratE
  /-- The Kirat Rai vowel ai. -/
  | kiratAi
  /-- A tone that colours skin. -/
  | skinTone
  /-- A letter of a flag's name. -/
  | flagLetter
  /-- More letters of flags' names. -/
  | flagLetters
  /-- A picture. -/
  | picture
  /-- A joiner and a picture. -/
  | joinedPicture
  /-- A key's frame that is joined with a picture. -/
  | joinedKey
  /-- One letter of a flag's name, joined with a picture. -/
  | joinedFlagLetter
  /-- An even number of such letters: they are whole flags. -/
  | evenFlagLetters
  /-- An odd number of such letters, more than one. -/
  | oddFlagLetters
  /-- The last tag of a flag that is joined with a picture, and some letters before it. -/
  | tagLetters (count : Nat)
  /-- The same with digits in front of the letters. -/
  | tagDigits (count : Nat)
deriving DecidableEq

namespace Neighbour

/-- Whether it is a letter that marks do not part from the one before it, as far as they
are not shown. -/
def isLetter : Neighbour → Bool
  | lamed _ | ya _ | vowelAndYa | khmerLetter | tifinagh _ | joinedTifinagh | lisuTone
  | orkhonI _ | kiratE | kiratAi => true
  | _ => false

def joined : Neighbour → Neighbour
  | lamed _ => lamed true
  | ya _ => ya true
  | tifinagh _ => tifinagh true
  | orkhonI _ => orkhonI true
  | other => other

/-- What it is to a character in front of a selector for a form. -/
def behind (neighbour : Neighbour) (form : Form) : Neighbour :=
  if neighbour.isLetter || neighbour = .alef then neighbour
  else match form, neighbour with
    | .picture, joinedPicture | .picture, joinedKey => neighbour
    | _, _ => plain

end Neighbour

/-- What follows a character: a selector, if one stands directly behind it, and what is
drawn after that. -/
structure Following where
  form : Option Form
  neighbour : Neighbour
deriving DecidableEq

namespace Following

/-- What follows if nothing stands in between. -/
def directly (neighbour : Neighbour) : Following :=
  ⟨none, neighbour⟩

end Following

/-- Joins what stands on both sides. -/
def joiner : Char := '\u200d'

def askedForm (char : Char) : Option Form :=
  if char = '\ufe0e' then some .text
  else if char = '\ufe0f' then some .picture
  else if char = '\ufe01' then some .wide
  else none

/-- Whether a character changes the colour of skin in the picture before it. -/
def isSkinTone (char : Char) : Bool :=
  isWithin [(0x1f3fb, 0x1f3ff)] char

def isFlagLetter (char : Char) : Bool :=
  isWithin [(0x1f1e6, 0x1f1ff)] char

/-- Whether a character is a letter in the tags of a flag. -/
def isTagLetter (char : Char) : Bool :=
  isWithin [(0xe0061, 0xe007a)] char

/-- Whether a character is a digit in the tags of a flag. -/
def isTagDigit (char : Char) : Bool :=
  isWithin [(0xe0030, 0xe0039)] char

def blackFlag : Char := Char.ofNat 0x1f3f4

/-- Whether a character has two forms, one of them a picture. -/
def canBePicture (char : Char) : Bool :=
  isWithin signRanges char || isWithin dualPictureRanges char

/-- Whether a picture has a form as text that is narrower. -/
def canBeNarrow (char : Char) : Bool :=
  isWithin dualPictureRanges char && !isWithin [(0x1f200, 0x1f2ff)] char

/-- Whether a character is a quotation mark that has a wide form. -/
def isCurlyQuote (char : Char) : Bool :=
  isWithin [(0x2018, 0x2019), (0x201c, 0x201d)] char

/-- The places that a character takes on its own. -/
def charWidth (char : Char) : Nat :=
  if char ≤ '\u00a0' then 1
  else if char = '\u17d8' then 3
  else if isWithin widthlessRanges char then 0
  else if isWithin wideRanges char then 2
  else 1

def asNeighbour (char : Char) : Neighbour :=
  if isWithin pictureRanges char then .picture
  else if isSkinTone char then .skinTone
  else if isFlagLetter char then .flagLetter
  else if isWithin alefRanges char then .alef
  else if isWithin khmerLetterRanges char then .khmerLetter
  else if isWithin tifinaghRanges char then .tifinagh false
  else if isWithin [(0xa4fc, 0xa4fd)] char then .lisuTone
  else if char = '\u05dc' then .lamed false
  else if char = '\u1a10' then .ya false
  else if char = Char.ofNat 0x10c03 then .orkhonI false
  else if char = Char.ofNat 0x16d67 then .kiratE
  else if char = Char.ofNat 0x16d68 then .kiratAi
  else .plain

/-- What a character adds to the width if it is drawn as one with what follows it, and
what the two are to the character before them. -/
def joint (char : Char) : Neighbour → Option (Int × Neighbour)
  | .plain | .joinedKey => none
  | .alef =>
    if isWithin lamRanges char then some (0, .plain)
    else if charWidth char = 0 && !isWithin partingRanges char then some (0, .alef)
    else none
  | .lamed joined => if joined && char = '\u05d0' then some (0, .plain) else none
  | .ya joined => if joined && char = '\u1a17' then some (0, .vowelAndYa) else none
  | .vowelAndYa => if char = '\u1a15' then some (0, .plain) else none
  | .khmerLetter => if char = '\u17d2' then some (-1, .plain) else none
  | .tifinagh joined =>
    if char = '\u2d7f' then some (1, .joinedTifinagh)
    else if joined && isWithin tifinaghRanges char then some (0, .plain)
    else none
  | .joinedTifinagh => if isWithin tifinaghRanges char then some (-1, .plain) else none
  | .lisuTone => if isWithin [(0xa4f8, 0xa4fb)] char then some (0, .plain) else none
  | .orkhonI joined => if joined && char = Char.ofNat 0x10c32 then some (0, .plain) else none
  | .kiratE =>
    if char = Char.ofNat 0x16d67 then some (0, .kiratAi)
    else if char = Char.ofNat 0x16d68 then some (1, .kiratE)
    else if char = Char.ofNat 0x16d63 || char = Char.ofNat 0x16d69 then some (0, .plain)
    else none
  | .kiratAi => if char = Char.ofNat 0x16d63 then some (0, .plain) else none
  | .skinTone =>
    if isWithin skinRanges char then some (0, .picture)
    else if char = joiner then some (0, .joinedPicture)
    else none
  | .flagLetter => if isFlagLetter char then some (1, .flagLetters) else none
  | .flagLetters =>
    if isFlagLetter char then some (1, .flagLetters)
    else if char = joiner then some (0, .joinedPicture)
    else none
  | .picture => if char = joiner then some (0, .joinedPicture) else none
  | .joinedPicture =>
    if char = '\u20e3' then some (0, .joinedKey)
    else if isFlagLetter char then some (1, .joinedFlagLetter)
    else if isSkinTone char then some (0, .skinTone)
    else if char = Char.ofNat 0xe007f then some (0, .tagLetters 0)
    else if isWithin pictureRanges char then some (0, .picture)
    else none
  | .joinedFlagLetter => if isFlagLetter char then some (-1, .evenFlagLetters) else none
  | .evenFlagLetters =>
    if isFlagLetter char then some (3, .oddFlagLetters)
    else if char = joiner then some (0, .joinedPicture)
    else none
  | .oddFlagLetters =>
    if isFlagLetter char then some (-1, .evenFlagLetters)
    else if char = joiner then some (0, .joinedPicture)
    else none
  | .tagLetters count =>
    if count < 6 && isTagLetter char then some (0, .tagLetters (count + 1))
    else if count < 5 && isTagDigit char then some (0, .tagDigits 1)
    else if 3 ≤ count && char = blackFlag then some (0, .picture)
    else none
  | .tagDigits count =>
    if count < 3 && isTagDigit char then some (0, .tagDigits (count + 1))
    else if count = 3 && char = blackFlag then some (0, .picture)
    else none

/-- What a character adds to the width of what follows it, and what follows the character
before it. -/
def place (char : Char) (following : Following) : Int × Following :=
  if following.form = some .picture && canBePicture char then
    let isJoined := following.neighbour = .joinedPicture || following.neighbour = .joinedKey
    (if isJoined then 0 else 2, .directly .picture)
  else
    let isLost := following.form = some .picture && !following.neighbour.isLetter &&
      following.neighbour ≠ .alef
    let neighbour := if isLost then .plain else following.neighbour
    if char ≤ '\u00a0' then (1, .directly .plain)
    else match askedForm char with
      | some form => (0, ⟨some form, neighbour.behind form⟩)
      | none =>
        if following.form = some .text && canBeNarrow char then (1, .directly .plain)
        else if following.form = some .wide && isCurlyQuote char then (2, .directly .plain)
        else if neighbour.isLetter && char = joiner then (0, .directly neighbour.joined)
        else if neighbour.isLetter && isWithin invisibleMarkRanges char then
          (0, .directly neighbour)
        else match joint char neighbour with
          | some (places, joined) => (places, .directly joined)
          | none => (charWidth char, .directly (asNeighbour char))

/-- The places of the characters together, and what they are to a character before them. -/
def measured (chars : List Char) : Int × Following :=
  chars.foldr
    (fun char (total, following) =>
      let (places, next) := place char following
      (total + places, next))
    (0, .directly .plain)

def width (text : String) : Nat :=
  (measured text.toList).1.toNat

end Keywarden.Text
