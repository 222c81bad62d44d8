/-!
# TOML documents as they are written

A document is a sequence of sections, each of which assigns values to dotted keys.
Only texts and whole numbers are kept; of every other simple value it is enough to
know that it is written correctly.
-/

namespace Keywarden.Toml

/-- The keys between the points of a dotted key. -/
abbrev Keys := List String

inductive Written
  | text (value : String)
  | integer (value : Int)
  /-- A fraction, a truth value or a point in time. -/
  | other
  | array (items : List Written)
  | inlineTable (assignments : List (Keys × Written))

/-- What a section assigns to. -/
inductive Heading
  /-- The table of the document itself. -/
  | document
  /-- A table of its own. -/
  | table (keys : Keys)
  /-- A further table in an array of tables. -/
  | element (keys : Keys)
deriving DecidableEq

/-- A heading and the assignments below it. -/
structure Section where
  heading : Heading
  assignments : List (Keys × Written)

/-- The result of reading from the front of a text, and the rest of the text. -/
abbrev Reading (α : Type) := Option (α × List Char)

/-- The text without the blanks in front. -/
def skipBlanks (input : List Char) : List Char :=
  input.dropWhile fun char => char = ' ' || char = '\t'

def lineEnd? : List Char → Option (List Char)
  | '\n' :: rest => some rest
  | '\r' :: '\n' :: rest => some rest
  | _ => none

/-- Whether a character may stand in a string or a comment as itself. -/
def isPlain (char : Char) : Bool :=
  char = '\t' || (' ' ≤ char && char < '\x7f') || '\x7f' < char

def skipComment : List Char → List Char
  | '#' :: rest => rest.dropWhile isPlain
  | input => input

def skipFiller (inComment : Bool) : List Char → List Char
  | [] => []
  | '\n' :: rest => skipFiller false rest
  | '\r' :: '\n' :: rest => skipFiller false rest
  | char :: rest =>
    if inComment then
      if isPlain char then skipFiller true rest else char :: rest
    else if char = ' ' || char = '\t' then skipFiller false rest
    else if char = '#' then skipFiller true rest
    else char :: rest

end Keywarden.Toml
