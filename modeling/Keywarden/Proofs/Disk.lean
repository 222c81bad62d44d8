import Keywarden.Disk.Volume
import Keywarden.Proofs.Action
import Mathlib.Data.List.Induction

/-!
# Paths and steps on a disk

Where a path leads depends on the directories alone.  A step that succeeds puts something
at one location; only a move also takes something away.
-/

namespace Keywarden

/-- A name of something that a directory holds. -/
structure Path.Plain (name : String) : Prop where
  noSlash : '/' ∉ name.toList
  visible : name ≠ ""
  notHere : name ≠ "."
  notOuter : name ≠ ".."

instance (name : String) : Decidable (Path.Plain name) :=
  decidable_of_iff ('/' ∉ name.toList ∧ name ≠ "" ∧ name ≠ "." ∧ name ≠ "..")
    ⟨fun ⟨noSlash, visible, notHere, notOuter⟩ => ⟨noSlash, visible, notHere, notOuter⟩,
      fun plain => ⟨plain.noSlash, plain.visible, plain.notHere, plain.notOuter⟩⟩

namespace Path

theorem endsInSlash_append {name : String} (plain : Plain name) (front : String) :
    endsInSlash (front ++ name) = false := by
  have nonempty : name.toList ≠ [] := by simpa using plain.visible
  have last : (front ++ name).toList.getLast? = some (name.toList.getLast nonempty) := by
    rw [String.toList_append, List.getLast?_append, List.getLast?_eq_some_getLast nonempty,
      Option.some_or]
  have notSlash : name.toList.getLast nonempty ≠ '/' := by
    intro slash
    exact plain.noSlash (slash ▸ List.getLast_mem nonempty)
  rw [endsInSlash, last]
  simpa using notSlash

theorem join_eq_append (base path : String) : ∃ front, join base path = front ++ path := by
  unfold join
  split
  · exact ⟨"", by simp⟩
  · split
    · exact ⟨base, rfl⟩
    · exact ⟨base ++ "/", rfl⟩

/-- What is joined with a plain name ends in the name. -/
theorem steps_join {name : String} (plain : Plain name) (base : String) :
    steps (join base name) = names base ++ [name] := by
  obtain ⟨front, split⟩ := join_eq_append base name
  have noSlash : endsInSlash (join base name) = false := by
    rw [split]
    exact endsInSlash_append plain front
  rw [steps, noSlash]
  exact names_join base name plain.noSlash plain.visible

theorem names_append_slash (left right : String) :
    names (left ++ "/" ++ right) = names left ++ names right := by
  have split : (left ++ "/" ++ right).toList = left.toList ++ '/' :: right.toList := by simp
  simp only [names, split, pieces_append_slash, List.filter_append, List.map_append]

theorem names_empty : names "" = [] := by
  decide

/-- The names of a relative path follow those of the path that it is joined to. -/
theorem names_join_relative {path : String} (relative : isAbsolute path = false) (base : String) :
    names (join base path) = names base ++ names path := by
  unfold join
  rw [relative, Bool.false_or]
  split
  · rename_i empty
    have nothing : base = "" := by simpa using empty
    rw [nothing, names_empty, List.nil_append]
  · split
    · rename_i slash
      have last : base.toList.getLast? = some '/' := by simpa [endsInSlash] using slash
      obtain ⟨front, split⟩ := List.getLast?_eq_some_iff.mp last
      have spelled : base = String.ofList front ++ "/" ++ "" := by
        rw [← String.toList_inj]
        simp [split]
      have whole : base ++ path = String.ofList front ++ "/" ++ path := by
        rw [← String.toList_inj]
        simp [split]
      have baseNames : names base = names (String.ofList front) := by
        rw [spelled, names_append_slash, names_empty, List.append_nil]
      rw [whole, names_append_slash, baseNames]
    · exact names_append_slash base path

private theorem isAbsolute_append {front : String} (nonempty : front ≠ "") (rest : String) :
    isAbsolute (front ++ rest) = isAbsolute front := by
  rw [isAbsolute, isAbsolute, String.toList_append]
  cases chars : front.toList with
  | nil => exact absurd (by simpa using chars) nonempty
  | cons first others => rfl

theorem isAbsolute_plain {name : String} (plain : Plain name) : isAbsolute name = false := by
  unfold isAbsolute
  cases chars : name.toList with
  | nil => rfl
  | cons first rest =>
    have notSlash : first ≠ '/' := by
      rintro rfl
      exact plain.noSlash (by simp [chars])
    simpa using notSlash

theorem isAbsolute_join {name : String} (plain : Plain name) (base : String) :
    isAbsolute (join base name) = isAbsolute base := by
  unfold join
  rw [isAbsolute_plain plain, Bool.false_or]
  split
  · rename_i empty
    have nothing : base = "" := by simpa using empty
    rw [nothing, isAbsolute_plain plain]
    decide
  · rename_i nonempty
    have visible : base ≠ "" := by simpa using nonempty
    split
    · exact isAbsolute_append visible name
    · rw [String.append_assoc, isAbsolute_append visible]

theorem names_join_join {name : String} (plain : Plain name) (outer base : String) :
    names (join outer (join base name)) = names (join outer base) ++ [name] := by
  have inner := names_join base name plain.noSlash plain.visible
  have same := isAbsolute_join plain base
  cases absolute : isAbsolute base with
  | true =>
    rw [absolute] at same
    simp only [join.eq_def outer, same, absolute, Bool.true_or, if_true, inner]
  | false =>
    rw [absolute] at same
    rw [names_join_relative same, names_join_relative absolute, inner, List.append_assoc]

theorem steps_join_join {name : String} (plain : Plain name) (outer base : String) :
    steps (join outer (join base name)) = names (join outer base) ++ [name] := by
  obtain ⟨first, inner⟩ := join_eq_append base name
  obtain ⟨second, whole⟩ := join_eq_append outer (join base name)
  have noSlash : endsInSlash (join outer (join base name)) = false := by
    rw [whole, inner, ← String.append_assoc]
    exact endsInSlash_append plain _
  rw [steps, noSlash, if_neg Bool.false_ne_true, names_join_join plain]

end Path

namespace Disk

def content? (disk : Disk) (location : Location) : Option Bytes :=
  match disk.node? location with
  | some (.file _ content) => some content
  | _ => none

theorem content?_congr {disk other : Disk} {location : Location}
    (same : other.node? location = disk.node? location) :
    other.content? location = disk.content? location := by
  rw [content?, content?, same]

theorem content?_put_of_ne {disk : Disk} {location other : Location} (apart : other ≠ location)
    (node : Node) : (disk.put location node).content? other = disk.content? other :=
  content?_congr (node?_put_of_ne apart node disk)

theorem content?_put_file {location : Location} (below : location ≠ []) (disk : Disk)
    (isPrivate : Bool) (content : Bytes) :
    (disk.put location (.file isPrivate content)).content? location = some content := by
  rw [content?, node?_put_self below]

theorem mem_shut_remove {disk : Disk} {location other : Location} :
    other ∈ (disk.remove location).shut ↔ other ∈ disk.shut ∧ other ≠ location := by
  simp [remove, keep]

theorem mem_shut_put {disk : Disk} {location other : Location} {node : Node} :
    other ∈ (disk.put location node).shut ↔ other ∈ disk.shut ∧ other ≠ location :=
  mem_shut_remove

/-- Of two things put at a location the second one counts. -/
theorem put_put (location : Location) (first second : Node) (disk : Disk) :
    (disk.put location first).put location second = disk.put location second := by
  simp [put, remove, keep, List.filter_filter]

theorem node?_nil (disk : Disk) : disk.node? [] = some .directory :=
  rfl

/-! ### Following names -/

theorem walk_concat {disk : Disk} {here location : Location} {front : List String}
    {name : String} (walked : disk.walk here (front ++ [name]) = .ok location) :
    ∃ directory, disk.walk here front = .ok directory ∧
      disk.node? directory = some .directory ∧ location = Path.follow directory name := by
  induction front generalizing here with
  | nil =>
    simp only [List.nil_append, walk] at walked
    split at walked
    · cases walked
    · cases walked
    · rename_i standing
      split at walked
      · cases walked
      · cases walked
        exact ⟨here, rfl, standing, rfl⟩
  | cons first front ih =>
    simp only [List.cons_append, walk] at walked
    split at walked
    · cases walked
    · cases walked
    · rename_i standing
      split at walked
      · cases walked
      · rename_i short
        obtain ⟨directory, before, isDirectory, last⟩ := ih walked
        refine ⟨directory, ?_, isDirectory, last⟩
        rw [walk, standing]
        simp only [if_neg short, before]

theorem walk_append {disk : Disk} {here between : Location} {front : List String}
    (walked : disk.walk here front = .ok between) (rest : List String) :
    disk.walk here (front ++ rest) = disk.walk between rest := by
  induction front generalizing here with
  | nil =>
    cases walked
    rfl
  | cons name front ih =>
    rw [walk] at walked
    rw [List.cons_append, walk]
    split at walked
    · cases walked
    · cases walked
    · split at walked
      · cases walked
      · rename_i short
        simp only [if_neg short]
        exact ih walked

def directories (disk : Disk) (location : Location) : Prop :=
  disk.node? location = some .directory

theorem directories_put {location : Location} {disk : Disk}
    (free : disk.node? location ≠ some .directory) (isPrivate : Bool) (content : Bytes) :
    (disk.put location (.file isPrivate content)).directories = disk.directories := by
  funext other
  unfold directories
  by_cases here : other = location
  · have below : location ≠ [] := by
      rintro rfl
      exact free (node?_nil disk)
    simp [here, node?_put_self below, free]
  · rw [node?_put_of_ne here]

theorem directories_remove {location : Location} {disk : Disk}
    (free : disk.node? location ≠ some .directory) :
    (disk.remove location).directories = disk.directories := by
  funext other
  unfold directories
  by_cases here : other = location
  · have below : location ≠ [] := by
      rintro rfl
      exact free (node?_nil disk)
    simp [here, node?_remove_self below, free]
  · rw [node?_remove_of_ne here]

/-- Names lead the same way where the same directories are. -/
theorem walk_congr {disk other : Disk} (same : other.directories = disk.directories)
    {here location : Location} {names : List String}
    (walked : other.walk here names = .ok location) : disk.walk here names = .ok location := by
  induction names generalizing here with
  | nil => exact walked
  | cons name names ih =>
    rw [walk] at walked
    split at walked
    · cases walked
    · cases walked
    · rename_i standing
      split at walked
      · cases walked
      · rename_i short
        have directory : disk.node? here = some .directory :=
          (congrFun same here).mp standing
        rw [walk, directory]
        simp only [if_neg short]
        exact ih walked

/-- A path whose last name is plain leads to a location that ends in the name. -/
theorem walk_plain {disk : Disk} {location : Location} {front : List String} {name : String}
    (plain : Path.Plain name) (walked : disk.walk [] (front ++ [name]) = .ok location) :
    ∃ directory, disk.node? directory = some .directory ∧ location = directory ++ [name] := by
  obtain ⟨directory, -, isDirectory, rfl⟩ := walk_concat walked
  refine ⟨directory, isDirectory, ?_⟩
  rw [Path.follow, if_neg plain.notHere, if_neg plain.notOuter]

theorem checkPath_eq_ok {path : String} :
    checkPath path = .ok () ↔ Path.isUsable path = true ∧ path.utf8ByteSize ≤ pathLimit := by
  unfold checkPath
  cases Path.isUsable path with
  | false => simp
  | true =>
    by_cases long : pathLimit < path.utf8ByteSize
    · simp [long]
    · simp [long, Nat.not_lt.mp long]

theorem locate_eq_ok {disk : Disk} {path : String} {location : Location} :
    disk.locate path = .ok location ↔
      checkPath path = .ok () ∧ disk.walk [] (Path.steps path) = .ok location := by
  rw [locate, bind_eq_ok]
  constructor
  · rintro ⟨_, checked, walked⟩
    exact ⟨checked, walked⟩
  · rintro ⟨checked, walked⟩
    exact ⟨(), checked, walked⟩

theorem locate_congr {disk other : Disk} (same : other.directories = disk.directories)
    (path : String) (location : Location) :
    other.locate path = .ok location ↔ disk.locate path = .ok location := by
  rw [locate_eq_ok, locate_eq_ok]
  exact and_congr_right' ⟨walk_congr same, walk_congr same.symm⟩

theorem lookUp_eq_ok {disk : Disk} {path : String} {node : Node} :
    disk.lookUp path = .ok node ↔
      ∃ location, disk.locate path = .ok location ∧ disk.node? location = some node := by
  rw [lookUp, bind_eq_ok]
  refine exists_congr fun location => and_congr_right' ?_
  cases disk.node? location with
  | none => exact iff_of_false nofun nofun
  | some found => simp [pure, Except.pure]

theorem readFile_eq_ok {disk : Disk} {path : String} {content : Bytes} :
    disk.readFile path = .ok content ↔
      ∃ location, disk.locate path = .ok location ∧ disk.content? location = some content := by
  rw [readFile, bind_eq_ok]
  constructor
  · rintro ⟨node, found, read⟩
    obtain ⟨location, located, standing⟩ := lookUp_eq_ok.mp found
    cases node with
    | directory => cases read
    | file isPrivate held =>
      cases read
      exact ⟨location, located, by rw [content?, standing]⟩
  · rintro ⟨location, located, held⟩
    unfold content? at held
    split at held
    · rename_i standing
      cases held
      exact ⟨_, lookUp_eq_ok.mpr ⟨location, located, standing⟩, rfl⟩
    · cases held

theorem holds_eq_false {disk : Disk} {path : String} :
    disk.holds path = false ↔
      ∀ location, disk.locate path = .ok location → disk.node? location = none := by
  unfold holds
  cases found : disk.lookUp path with
  | ok node =>
    obtain ⟨location, located, standing⟩ := lookUp_eq_ok.mp found
    simp [Except.toOption, located, standing]
  | error fault =>
    refine iff_of_true rfl fun location located => ?_
    cases standing : disk.node? location with
    | none => rfl
    | some node =>
      have other := lookUp_eq_ok.mpr ⟨location, located, standing⟩
      rw [found] at other
      cases other

theorem holds_of_locate {disk : Disk} {path : String} {location : Location}
    (located : disk.locate path = .ok location) :
    disk.holds path = (disk.node? location).isSome := by
  unfold holds lookUp
  rw [located]
  cases standing : disk.node? location <;> simp [bind, Except.bind, standing] <;> rfl

theorem exists_locate_of_holds {disk : Disk} {path : String} (holds : disk.holds path = true) :
    ∃ location, disk.locate path = .ok location := by
  cases located : disk.locate path with
  | ok location => exact ⟨location, rfl⟩
  | error fault =>
    have absent : disk.holds path = false := by
      refine holds_eq_false.mpr fun location found => ?_
      rw [located] at found
      cases found
    rw [absent] at holds
    cases holds

/-! ### Trees -/

/-- Whatever something stands in is a directory. -/
def IsTree (disk : Disk) : Prop :=
  ∀ location name, disk.node? (location ++ [name]) ≠ none →
    disk.node? location = some .directory

theorem IsTree.of_append {disk : Disk} (tree : disk.IsTree) {here : Location}
    {below : List String} (standing : disk.node? (here ++ below) = some .directory) :
    disk.node? here = some .directory := by
  induction below using List.reverseRecOn with
  | nil => simpa using standing
  | append_singleton below name ih =>
    refine ih (tree _ name ?_)
    rw [List.append_assoc, standing]
    exact Option.some_ne_none _

/-- Without a name of the outer place, names lead below where they start. -/
theorem isPrefix_of_walk {disk : Disk} {here location : Location} {names : List String}
    (inner : ".." ∉ names) (walked : disk.walk here names = .ok location) :
    here <+: location := by
  induction names generalizing here with
  | nil =>
    cases walked
    exact List.prefix_rfl
  | cons name names ih =>
    simp only [List.mem_cons, not_or] at inner
    simp only [walk] at walked
    split at walked
    · cases walked
    · cases walked
    · split at walked
      · cases walked
      · have below := ih inner.2 walked
        rw [Path.follow, if_neg (Ne.symm inner.1)] at below
        split at below
        · exact below
        · exact (List.prefix_append here [name]).trans below

/-- Where names lead to a directory of a tree on some disk, they lead there on the tree. -/
theorem IsTree.walk {disk other : Disk} (tree : disk.IsTree) {here location : Location}
    {names : List String} (inner : ".." ∉ names)
    (standing : disk.node? location = some .directory)
    (walked : other.walk here names = .ok location) : disk.walk here names = .ok location := by
  induction names generalizing here with
  | nil => exact walked
  | cons name names ih =>
    obtain ⟨below, rfl⟩ := isPrefix_of_walk inner walked
    simp only [List.mem_cons, not_or] at inner
    rw [Disk.walk] at walked ⊢
    rw [tree.of_append standing]
    split at walked
    · cases walked
    · cases walked
    · split at walked
      · cases walked
      · rename_i short
        simp only [if_neg short]
        exact ih inner.2 walked

/-! ### Steps -/

section Steps

variable {disk after : Disk} {path : String} {content : Bytes}

theorem locate_of_walk {location : Location} (checked : checkPath path = .ok ())
    (slashless : Path.endsInSlash path = false)
    (walked : disk.walk [] (Path.names path) = .ok location) :
    disk.locate path = .ok location := by
  refine locate_eq_ok.mpr ⟨checked, ?_⟩
  rw [Path.steps, slashless]
  exact walked

theorem of_write (written : disk.write path content = .ok after) :
    Path.endsInSlash path = false ∧ ∃ location isPrivate,
      disk.locate path = .ok location ∧ disk.node? location ≠ some .directory ∧
        after = disk.put location (.file isPrivate content) := by
  obtain ⟨_, checked, written⟩ := bind_eq_ok.mp written
  obtain ⟨location, walked, written⟩ := bind_eq_ok.mp written
  dsimp only at written
  split at written
  · cases written
  · rename_i slashless
    rw [Bool.not_eq_true] at slashless
    have located := locate_of_walk checked slashless walked
    split at written
    · cases written
    · rename_i standing
      cases written
      exact ⟨slashless, location, _, located, by simp [standing], rfl⟩
    · rename_i standing
      cases written
      exact ⟨slashless, location, _, located, by simp [standing], rfl⟩

theorem of_create (created : disk.create path content = .ok after) :
    ∃ location, disk.locate path = .ok location ∧ disk.node? location = none ∧
      after = disk.put location (.file true content) := by
  obtain ⟨location, located, created⟩ := bind_eq_ok.mp created
  split at created
  · cases created
  · rename_i nothing
    cases created
    exact ⟨location, located, nothing, rfl⟩

theorem of_makeDirectory (made : disk.makeDirectory path = .ok after) :
    ∃ location, disk.node? location = none ∧ after = disk.put location .directory := by
  obtain ⟨_, -, made⟩ := bind_eq_ok.mp made
  obtain ⟨location, -, made⟩ := bind_eq_ok.mp made
  split at made
  · cases made
  · rename_i nothing
    cases made
    exact ⟨location, nothing, rfl⟩

theorem of_restrict (restricted : disk.restrict path = .ok after) :
    after = disk ∨ ∃ location isPrivate content, disk.locate path = .ok location ∧
      disk.node? location = some (.file isPrivate content) ∧
        after = disk.put location (.file true content) := by
  obtain ⟨location, located, restricted⟩ := bind_eq_ok.mp restricted
  split at restricted
  · rename_i standing
    cases restricted
    exact .inr ⟨location, _, _, located, standing, rfl⟩
  · cases restricted
    exact .inl rfl
  · cases restricted

theorem replace_cases (location : Location) (content : Option Bytes) (disk : Disk) :
    disk.replace location content = disk ∨
      (∃ isPrivate held, content = some held ∧ disk.node? location.dropLast = some .directory ∧
        disk.node? location ≠ some .directory ∧
        disk.replace location content = disk.put location (.file isPrivate held)) ∨
      (content = none ∧ disk.node? location.dropLast = some .directory ∧
        disk.node? location ≠ some .directory ∧
        disk.replace location content = disk.remove location) := by
  unfold replace
  split
  · rename_i around
    cases standing : disk.node? location with
    | none =>
      cases content with
      | none => exact .inl rfl
      | some held => exact .inr (.inl ⟨false, held, rfl, around, nofun, rfl⟩)
    | some node =>
      cases node with
      | directory => exact .inl rfl
      | file isPrivate old =>
        cases content with
        | none => exact .inr (.inr ⟨rfl, around, nofun, rfl⟩)
        | some held => exact .inr (.inl ⟨isPrivate, held, rfl, around, nofun, rfl⟩)
  · exact .inl rfl

theorem directories_replace (location : Location) (content : Option Bytes) (disk : Disk) :
    (disk.replace location content).directories = disk.directories := by
  rcases replace_cases location content disk with same | ⟨isPrivate, held, -, -, free, written⟩ |
    ⟨-, -, free, removed⟩
  · rw [same]
  · rw [written]
    exact directories_put free isPrivate held
  · rw [removed]
    exact directories_remove free

theorem node?_replace_of_ne {location other : Location} (different : other ≠ location)
    (content : Option Bytes) (disk : Disk) :
    (disk.replace location content).node? other = disk.node? other := by
  rcases replace_cases location content disk with same | ⟨isPrivate, held, -, -, -, written⟩ |
    ⟨-, -, -, removed⟩
  · rw [same]
  · rw [written]
    exact node?_put_of_ne different _ disk
  · rw [removed]
    exact node?_remove_of_ne different disk

theorem content?_replace {location : Location} (free : disk.node? location ≠ some .directory)
    (around : disk.node? location.dropLast = some .directory) (content : Option Bytes) :
    (disk.replace location content).content? location = content := by
  have below : location ≠ [] := by
    rintro rfl
    exact free (node?_nil disk)
  unfold replace
  rw [if_pos around]
  cases standing : disk.node? location with
  | none =>
    cases content with
    | none => simp only [content?, standing]
    | some held => exact content?_put_file below disk false held
  | some node =>
    cases node with
    | directory => exact absurd standing free
    | file isPrivate old =>
      cases content with
      | none => simp only [content?, node?_remove_self below]
      | some held => exact content?_put_file below disk isPrivate held

theorem of_rename {source target : String} (renamed : disk.rename source target = .ok after) :
    ∃ origin node location, disk.locate source = .ok origin ∧ disk.node? origin = some node ∧
      disk.locate target = .ok location ∧ disk.node? location ≠ some .directory ∧
      after = (disk.remove origin).put location node := by
  obtain ⟨_, checked, renamed⟩ := bind_eq_ok.mp renamed
  obtain ⟨origin, source, renamed⟩ := bind_eq_ok.mp renamed
  obtain ⟨node, found, renamed⟩ := bind_eq_ok.mp renamed
  obtain ⟨location, walked, renamed⟩ := bind_eq_ok.mp renamed
  dsimp only at renamed
  split at renamed
  · cases renamed
  · split at renamed
    · cases renamed
    · rename_i slashless
      rw [Bool.not_eq_true] at slashless
      split at renamed
      · cases renamed
      · rename_i free
        cases renamed
        obtain ⟨other, again, standing⟩ := lookUp_eq_ok.mp found
        rw [source] at again
        cases again
        exact ⟨origin, node, location, source, standing,
          locate_of_walk checked slashless walked, free, rfl⟩

end Steps

end Disk

end Keywarden
