import Keywarden.Toml.Syntax

/-!
# TOML strings

Four kinds of string: in double quotation marks, where a backslash starts an escape,
or in single ones, where nothing does; each on one line, or over several lines in
three quotation marks.
-/

namespace Keywarden.Toml

/-- The value of a hexadecimal digit. -/
def hexValue? (char : Char) : Option Nat :=
  if '0' ≤ char ∧ char ≤ '9' then some (char.toNat - 48)
  else if 'a' ≤ char ∧ char ≤ 'f' then some (char.toNat - 87)
  else if 'A' ≤ char ∧ char ≤ 'F' then some (char.toNat - 55)
  else none

/-- The character whose number some hexadecimal digits write. -/
def codePoint? (digits : List Char) : Option Char := do
  let values ← digits.mapM hexValue?
  let code := values.foldl (fun number value => 16 * number + value) 0
  if code.isValidChar then some (Char.ofNat code) else none

/-- The character that a letter after a backslash stands for. -/
def escape? : Char → Option Char
  | 'b' => some '\x08'
  | 't' => some '\t'
  | 'n' => some '\n'
  | 'f' => some '\x0c'
  | 'r' => some '\r'
  | '"' => some '"'
  | '\\' => some '\\'
  | _ => none

/-- The character that an escape stands for; the backslash was read before. -/
def readEscape : List Char → Reading Char
  | 'u' :: a :: b :: c :: d :: rest => (codePoint? [a, b, c, d]).map (·, rest)
  | 'U' :: a :: b :: c :: d :: e :: f :: g :: h :: rest =>
    (codePoint? [a, b, c, d, e, f, g, h]).map (·, rest)
  | sign :: rest => (escape? sign).map (·, rest)
  | [] => none

def before (char : Char) (reading : Reading (List Char)) : Reading (List Char) :=
  reading.map fun (chars, rest) => (char :: chars, rest)

/-- A string in double quotation marks, after the first one. -/
def readBasic (fuel : Nat) (input : List Char) : Reading (List Char) :=
  match fuel with
  | 0 => none
  | fuel + 1 =>
    match input with
    | [] => none
    | '"' :: rest => some ([], rest)
    | '\\' :: rest =>
      match readEscape rest with
      | some (char, rest) => before char (readBasic fuel rest)
      | none => none
    | char :: rest => if isPlain char then before char (readBasic fuel rest) else none

/-- A string in single quotation marks, after the first one. -/
def readLiteral : List Char → Reading (List Char)
  | [] => none
  | '\'' :: rest => some ([], rest)
  | char :: rest => if isPlain char then before char (readLiteral rest) else none

/-- The end of a string over several lines: one or two quotation marks more than three
belong to the string. -/
def readClosing (mark : Char) : List Char → Reading (List Char)
  | a :: b :: c :: d :: e :: rest =>
    if [a, b, c, d, e] = List.replicate 5 mark then some ([mark, mark], rest)
    else if [a, b, c, d] = List.replicate 4 mark then some ([mark], e :: rest)
    else if [a, b, c] = List.replicate 3 mark then some ([], d :: e :: rest)
    else none
  | [a, b, c, d] =>
    if [a, b, c, d] = List.replicate 4 mark then some ([mark], [])
    else if [a, b, c] = List.replicate 3 mark then some ([], [d])
    else none
  | [a, b, c] => if [a, b, c] = List.replicate 3 mark then some ([], []) else none
  | _ => none

def skipBlankLines : List Char → List Char
  | ' ' :: rest | '\t' :: rest | '\n' :: rest => skipBlankLines rest
  | '\r' :: '\n' :: rest => skipBlankLines rest
  | input => input

/-- What follows a backslash that joins lines, if nothing but blanks stands after it on
its line. -/
def joinedLine? (input : List Char) : Option (List Char) :=
  (lineEnd? (skipBlanks input)).map skipBlankLines

/-- A string over several lines, after the first quotation marks and the end of their
line. -/
def readLines (mark : Char) (fuel : Nat) (input : List Char) : Reading (List Char) :=
  match fuel with
  | 0 => none
  | fuel + 1 =>
    match readClosing mark input with
    | some ending => some ending
    | none =>
      match lineEnd? input, input with
      | some rest, _ => before '\n' (readLines mark fuel rest)
      | none, char :: rest =>
        if char = '\\' && mark = '"' then
          match joinedLine? rest with
          | some rest => readLines mark fuel rest
          | none =>
            match readEscape rest with
            | some (char, rest) => before char (readLines mark fuel rest)
            | none => none
        else if isPlain char then before char (readLines mark fuel rest)
        else none
      | none, [] => none

def readText (input : List Char) : Reading String :=
  let chars : Reading (List Char) :=
    match input with
    | '"' :: '"' :: '"' :: rest =>
      readLines '"' (input.length + 1) ((lineEnd? rest).getD rest)
    | '\'' :: '\'' :: '\'' :: rest =>
      readLines '\'' (input.length + 1) ((lineEnd? rest).getD rest)
    | '"' :: rest => readBasic (input.length + 1) rest
    | '\'' :: rest => readLiteral rest
    | _ => none
  chars.map fun (chars, rest) => (String.ofList chars, rest)

/-- Whether a character may stand in a key without quotation marks. -/
def isKeyChar (char : Char) : Bool :=
  char.isAlphanum || char = '_' || char = '-'

def readKey (input : List Char) : Reading String :=
  match input with
  | '"' :: rest => (readBasic (input.length + 1) rest).map fun (chars, rest) =>
    (String.ofList chars, rest)
  | '\'' :: rest => (readLiteral rest).map fun (chars, rest) => (String.ofList chars, rest)
  | input =>
    match input.span isKeyChar with
    | ([], _) => none
    | (chars, rest) => some (String.ofList chars, rest)

/-- How many keys a dotted key and how many levels a value may have. -/
def depthLimit : Nat := 79

/-- A dotted key with the blanks around its parts; `room` more parts are allowed. -/
def readKeys (room : Nat) (input : List Char) : Reading Keys :=
  match room with
  | 0 => none
  | room + 1 =>
    match readKey (skipBlanks input) with
    | none => none
    | some (key, rest) =>
      match skipBlanks rest with
      | '.' :: rest => (readKeys room rest).map fun (keys, rest) => (key :: keys, rest)
      | rest => some ([key], rest)

end Keywarden.Toml
