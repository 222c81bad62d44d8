import Keywarden.Toml.Reader

/-!
# TOML tables

The sections of a document are put together into one table.  A key is assigned to only
once, and a table is opened in only one of the ways there are: by its own heading, as
the outer part of the heading of another one, or by a dotted key.
-/

namespace Keywarden.Toml

/-- How a table came about. -/
inductive Origin
  /-- By a heading of its own. -/
  | headed
  /-- As an outer part of the heading of another one. -/
  | implied
  /-- By a dotted key. -/
  | dotted
deriving DecidableEq

/-- What a key stands for. -/
inductive Entry
  | text (value : String)
  | integer (value : Int)
  /-- Any other value. -/
  | other
  | table (origin : Origin) (members : List (String × Entry))
  /-- An array of tables, of which only the last one can still grow. -/
  | tables (members : List (String × Entry))

/-- The keys of a table and what they stand for. -/
abbrev Members := List (String × Entry)

def Members.replace (key : String) (entry : Entry) (members : Members) : Members :=
  members.map fun member => if member.1 = key then (key, entry) else member

def assign (key : String) (entry : Entry) : (outer : Keys) → Members → Option Members
  | [], members =>
    match members.lookup key with
    | some _ => none
    | none => some (members ++ [(key, entry)])
  | name :: rest, members =>
    match members.lookup name with
    | none => do
      let inner ← assign key entry rest []
      some (members ++ [(name, .table .dotted inner)])
    | some (.table origin inner) =>
      if origin = .headed ∨ (rest = [] ∧ origin ≠ .dotted) then
        none
      else do
        let inner ← assign key entry rest inner
        some (Members.replace name (.table origin inner) members)
    | some (.tables inner) =>
      if rest = [] then
        none
      else do
        let inner ← assign key entry rest inner
        some (Members.replace name (.tables inner) members)
    | some _ => none

/-- Assigns to a dotted key whose last part is found first. -/
def assignAt (keys : Keys) (entry : Entry) (members : Members) : Option Members :=
  match keys.getLast? with
  | none => none
  | some key => assign key entry keys.dropLast members

mutual

def Written.toEntry : Written → Option Entry
  | .text value => some (.text value)
  | .integer value => some (.integer value)
  | .other => some .other
  | .array items => if Written.areConsistent items then some .other else none
  | .inlineTable assignments => (Written.collect [] assignments).map fun _ => .other

def Written.areConsistent : List Written → Bool
  | [] => true
  | item :: rest => (Written.toEntry item).isSome && Written.areConsistent rest

def Written.collect (members : Members) : List (Keys × Written) → Option Members
  | [] => some members
  | (keys, value) :: rest =>
    match Written.toEntry value with
    | none => none
    | some entry =>
      match assignAt keys entry members with
      | none => none
      | some members => Written.collect members rest

end

/-- Opens the table or the element that a heading names, below some outer ones, and
assigns to it. -/
def openTable (isElement : Bool) (key : String) (assignments : List (Keys × Written)) :
    (outer : Keys) → Members → Option Members
  | [], members =>
    match members.lookup key, isElement with
    | none, false => do
      let inner ← Written.collect [] assignments
      some (members ++ [(key, .table .headed inner)])
    | none, true => do
      let inner ← Written.collect [] assignments
      some (members ++ [(key, .tables inner)])
    | some (.table .implied inner), false => do
      let inner ← Written.collect inner assignments
      some (Members.replace key (.table .headed inner) members)
    | some (.tables _), true => do
      let inner ← Written.collect [] assignments
      some (Members.replace key (.tables inner) members)
    | some _, _ => none
  | name :: rest, members =>
    match members.lookup name with
    | none => do
      let inner ← openTable isElement key assignments rest []
      some (members ++ [(name, .table .implied inner)])
    | some (.table origin inner) => do
      let inner ← openTable isElement key assignments rest inner
      some (Members.replace name (.table origin inner) members)
    | some (.tables inner) => do
      let inner ← openTable isElement key assignments rest inner
      some (Members.replace name (.tables inner) members)
    | some _ => none

def addSection (members : Members) (part : Section) : Option Members :=
  let opened (isElement : Bool) (keys : Keys) : Option Members :=
    match keys.getLast? with
    | none => none
    | some key => openTable isElement key part.assignments keys.dropLast members
  match part.heading with
  | .document => Written.collect members part.assignments
  | .table keys => opened false keys
  | .element keys => opened true keys

def read? (text : String) : Option Members := do
  (← readDocument text).foldlM addSection []

end Keywarden.Toml
