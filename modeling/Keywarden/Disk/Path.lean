/-!
# Paths

A path is a text of names between slashes.  Joining is an operation on the text,
which is kept as it was written; the names are what a look-up walks along.
-/

namespace Keywarden.Path

/-- Whether a path starts at the root. -/
def isAbsolute (path : String) : Bool :=
  path.toList.head? == some '/'

/-- Whether a path can be handed on: texts end at the character that it must not hold. -/
def isUsable (path : String) : Bool :=
  !path.toList.contains '\x00'

def endsInSlash (path : String) : Bool :=
  path.toList.getLast? == some '/'

/-- A path below another one.  An absolute path replaces the one before it, and one
slash separates the two. -/
def join (base path : String) : String :=
  if isAbsolute path || base.isEmpty then path
  else if endsInSlash base then base ++ path
  else base ++ "/" ++ path

/-- The pieces between slashes, of which there is at least one. -/
def pieces : List Char → List (List Char)
  | [] => [[]]
  | char :: rest =>
    if char = '/' then
      [] :: pieces rest
    else
      match pieces rest with
      | [] => [[char]]
      | piece :: others => (char :: piece) :: others

def names (path : String) : List String :=
  ((pieces path.toList).filter fun piece => !piece.isEmpty).map String.ofList

/-- The names along a path that has to lead to a directory where it ends in a slash. -/
def steps (path : String) : List String :=
  if endsInSlash path then names path ++ ["."] else names path

def ofNames (names : List String) : String :=
  "/" ++ "/".intercalate names

/-- The names of the place that another name leads to: the same place, the outer one, or one
of those that it holds. -/
def follow (here : List String) (name : String) : List String :=
  if name = "." then here
  else if name = ".." then here.dropLast
  else here ++ [name]

/-- The location that names lead to, if all directories on the way are there. -/
def lead (here : List String) (listed : List String) : List String :=
  listed.foldl follow here

def along (here : List String) : List String → List (List String)
  | [] => []
  | name :: rest => follow here name :: along (follow here name) rest

/-- The names of the directory that a path is in: the last name is left out, and so
are names of the same place around it. -/
def parentNames (names : List String) : List String :=
  let withoutDots := fun (reversed : List String) => reversed.dropWhile (· = ".")
  (withoutDots (withoutDots names.reverse).tail).reverse

def lastName? (path : String) : Option String :=
  match (names path).reverse.dropWhile (· = ".") with
  | [] => none
  | name :: _ => if name = ".." then none else some name

/-- Whether a path ends in a name that a directory can give to what it holds. -/
def endsInName (path : String) : Bool :=
  match (names path).getLast? with
  | none => false
  | some name => name ≠ "." && name ≠ ".."

/-- The part of a file name after its last point; a point in front does not count. -/
def extension? (name : String) : Option String :=
  let (extension, rest) := name.toList.reverse.span (· ≠ '.')
  if rest.length ≤ 1 then none else some (String.ofList extension.reverse)

theorem length_parentNames_lt {names : List String} (named : names ≠ []) :
    (parentNames names).length < names.length := by
  have shorter (list : List String) :
      (list.dropWhile fun name => decide (name = ".")).length ≤ list.length :=
    (List.dropWhile_sublist _).length_le
  have first := shorter names.reverse
  have second := shorter (names.reverse.dropWhile fun name => decide (name = ".")).tail
  have positive : 0 < names.length := List.length_pos_iff.2 named
  simp only [parentNames, List.length_reverse, List.length_tail] at *
  omega

theorem pieces_ne_nil (chars : List Char) : pieces chars ≠ [] := by
  cases chars with
  | nil => simp [pieces]
  | cons char rest =>
    simp only [pieces]
    split
    · simp
    · split <;> simp

theorem pieces_of_no_slash {chars : List Char} (plain : '/' ∉ chars) :
    pieces chars = [chars] := by
  induction chars with
  | nil => rfl
  | cons char rest ih =>
    simp only [List.mem_cons, not_or] at plain
    simp [pieces, Ne.symm plain.1, ih plain.2]

theorem pieces_append_slash (left right : List Char) :
    pieces (left ++ '/' :: right) = pieces left ++ pieces right := by
  induction left with
  | nil => rfl
  | cons char rest ih =>
    simp only [List.cons_append, pieces, ih]
    split
    · rfl
    · cases split : pieces rest with
      | nil => exact absurd split (pieces_ne_nil rest)
      | cons piece others => rfl

/-- A simple name is added to the names of the directory that it is joined to. -/
theorem names_join (base name : String) (plain : '/' ∉ name.toList) (visible : name ≠ "") :
    names (join base name) = names base ++ [name] := by
  have relative : isAbsolute name = false := by
    unfold isAbsolute
    cases chars : name.toList with
    | nil => rfl
    | cons char rest =>
      rw [chars] at plain
      simp only [List.mem_cons, not_or] at plain
      simp [Ne.symm plain.1]
  have nonempty : name.toList ≠ [] := by simpa using visible
  have alone : ((pieces name.toList).filter fun piece => !piece.isEmpty).map String.ofList =
      [name] := by
    simp [pieces_of_no_slash plain, visible]
  unfold join
  simp only [relative, Bool.false_or]
  split
  · next empty =>
    have : base = "" := by simpa using empty
    subst this
    exact alone
  · split
    · next slash =>
      obtain ⟨front, split⟩ : ∃ front, base.toList = front ++ ['/'] := by
        have last : base.toList.getLast? = some '/' := by simpa [endsInSlash] using slash
        obtain ⟨front, split⟩ := List.getLast?_eq_some_iff.1 last
        exact ⟨front, split⟩
      have : (base ++ name).toList = front ++ '/' :: name.toList := by
        simp [split]
      simp only [names, this, split, pieces_append_slash, List.filter_append, List.map_append,
        alone]
      simp [pieces]
    · have : (base ++ "/" ++ name).toList = base.toList ++ '/' :: name.toList := by simp
      simp only [names, this, pieces_append_slash, List.filter_append, List.map_append, alone]

end Keywarden.Path
