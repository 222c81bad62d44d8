import Keywarden.Toml.Scalar

/-!
# Reading TOML documents

A document is read line by line into sections.  Whether the sections fit together is a
question for later.
-/

namespace Keywarden.Toml

/-- The items of an array, after its opening bracket or a comma; every item takes at
least one unit of fuel. -/
def readItems (readValue : List Char → Reading Written) (fuel : Nat) (input : List Char) :
    Reading (List Written) :=
  match fuel with
  | 0 => none
  | fuel + 1 =>
    match skipFiller false input with
    | ']' :: rest => some ([], rest)
    | input =>
      match readValue input with
      | none => none
      | some (item, rest) =>
        match skipFiller false rest with
        | ']' :: rest => some ([item], rest)
        | ',' :: rest =>
          (readItems readValue fuel rest).map fun (items, rest) => (item :: items, rest)
        | _ => none

def readAssignment (readValue : List Char → Reading Written) (input : List Char) :
    Reading (Keys × Written) :=
  match readKeys depthLimit input with
  | some (keys, '=' :: rest) =>
    (readValue (skipBlanks rest)).map fun (value, rest) => ((keys, value), rest)
  | _ => none

def readInlineAssignments (readValue : List Char → Reading Written) (fuel : Nat)
    (input : List Char) : Reading (List (Keys × Written)) :=
  match fuel with
  | 0 => none
  | fuel + 1 =>
    match readAssignment readValue input with
    | none => none
    | some (assignment, rest) =>
      match skipBlanks rest with
      | '}' :: rest => some ([assignment], rest)
      | ',' :: rest =>
        (readInlineAssignments readValue fuel rest).map fun (assignments, rest) =>
          (assignment :: assignments, rest)
      | _ => none

/-- A value; `room` more levels of arrays and inline tables are allowed. -/
def readValue (room : Nat) (input : List Char) : Reading Written :=
  match input with
  | '[' :: rest =>
    match room with
    | 0 => none
    | room + 1 =>
      (readItems (readValue room) input.length rest).map fun (items, rest) =>
        (.array items, rest)
  | '{' :: rest =>
    match room with
    | 0 => none
    | room + 1 =>
      match skipBlanks rest with
      | '}' :: rest => some (.inlineTable [], rest)
      | rest =>
        (readInlineAssignments (readValue room) input.length rest).map
          fun (assignments, rest) => (.inlineTable assignments, rest)
  | '"' :: _ | '\'' :: _ => (readText input).map fun (text, rest) => (.text text, rest)
  | input => readScalar input

/-- What follows the line, on which nothing but blanks and a comment may be left. -/
def endLine? (input : List Char) : Option (List Char) :=
  match skipComment (skipBlanks input) with
  | [] => some []
  | rest => lineEnd? rest

/-- A heading, after its opening bracket. -/
def readHeading (input : List Char) : Reading Heading :=
  match input with
  | '[' :: rest =>
    match readKeys depthLimit rest with
    | some (keys, ']' :: ']' :: rest) => some (.element keys, rest)
    | _ => none
  | rest =>
    match readKeys depthLimit rest with
    | some (keys, ']' :: rest) => some (.table keys, rest)
    | _ => none

/-- The lines of a document below a heading, whose assignments so far stand with the last
one first. -/
def readSections (fuel : Nat) (heading : Heading) (assignments : List (Keys × Written))
    (input : List Char) : Option (List Section) :=
  match fuel with
  | 0 => none
  | fuel + 1 =>
    match skipBlanks input with
    | [] => some [⟨heading, assignments.reverse⟩]
    | '[' :: rest =>
      match readHeading rest with
      | none => none
      | some (next, rest) =>
        match endLine? rest with
        | none => none
        | some rest =>
          (readSections fuel next [] rest).map (⟨heading, assignments.reverse⟩ :: ·)
    | input =>
      match endLine? input with
      | some rest => readSections fuel heading assignments rest
      | none =>
        match readAssignment (readValue depthLimit) input with
        | none => none
        | some (assignment, rest) =>
          match endLine? rest with
          | none => none
          | some rest => readSections fuel heading (assignment :: assignments) rest

/-- The sections of a document; a mark of the byte order may stand in front. -/
def readDocument (text : String) : Option (List Section) :=
  let input :=
    match text.toList with
    | '\ufeff' :: rest => rest
    | input => input
  readSections (input.length + 1) .document [] input

end Keywarden.Toml
