import Keywarden.Proofs.Disk.Beside
import Keywarden.Proofs.Disk.Grown

/-!
# What stands in a directory

A path that leads to a directory, joined with a plain name, leads to what stands there under the
name.  What a file in a directory holds therefore depends on the place of the directory alone,
and so does what the directory lists.
-/

namespace Keywarden

namespace Path

private theorem endsInSlash_append_of_ne {path : String} (nonempty : path ≠ "") (front : String) :
    endsInSlash (front ++ path) = endsInSlash path := by
  have visible : path.toList ≠ [] := by simpa using nonempty
  rw [endsInSlash, endsInSlash, String.toList_append, List.getLast?_append,
    List.getLast?_eq_some_getLast visible, Option.some_or]

/-- Joining a plain name does not depend on the order in which paths are joined. -/
theorem join_join {name : String} (plain : Plain name) (outer base : String) :
    join outer (join base name) = join (join outer base) name := by
  have relative := isAbsolute_plain plain
  have inner := isAbsolute_join plain base
  cases absolute : isAbsolute base with
  | true =>
    rw [absolute] at inner
    simp only [join.eq_def outer, inner, absolute, Bool.true_or, if_true]
  | false =>
    rw [absolute] at inner
    have plainJoin (front : String) : join front name = if front.isEmpty then name
        else if endsInSlash front then front ++ name else front ++ "/" ++ name := by
      rw [join, relative, Bool.false_or]
    simp only [join.eq_def outer, inner, absolute, Bool.false_or]
    by_cases outerEmpty : outer = ""
    · simp [outerEmpty]
    by_cases empty : base = ""
    · subst empty
      by_cases slash : endsInSlash outer = true
      · simp [plainJoin, outerEmpty, slash]
      · have closed : endsInSlash (outer ++ "/") = true :=
          (endsInSlash_append_of_ne (by decide) outer).trans (by decide)
        simp [plainJoin, outerEmpty, slash, closed]
    · have ends := endsInSlash_append_of_ne empty
      have within : endsInSlash (outer ++ ("/" ++ base)) = endsInSlash base := by
        rw [← String.append_assoc]
        exact ends _
      by_cases slash : endsInSlash outer = true <;> by_cases inside : endsInSlash base = true <;>
        simp [plainJoin, outerEmpty, empty, slash, ends, within, inside, String.append_assoc]

end Path

namespace Disk

/-- A disk as a file system has it: whatever something stands in is a directory, and all names
are plain. -/
structure Proper (disk : Disk) : Prop where
  tree : disk.IsTree
  plain : ∀ location, disk.node? location ≠ none → ∀ name ∈ location, Path.Plain name

/-- It is enough to look at what stands on the disk. -/
theorem proper_of_entries {disk : Disk}
    (each : ∀ entry ∈ disk.entries, (∀ name ∈ entry.1, Path.Plain name) ∧
      disk.node? entry.1.dropLast = some .directory) : disk.Proper := by
  have found (location : Location) (standing : disk.node? location ≠ none) :
      location = [] ∨ ∃ entry ∈ disk.entries, entry.1 = location := by
    unfold node? at standing
    split at standing
    · exact .inl ‹_›
    · rw [Ne, List.lookup_eq_none_iff] at standing
      simp only [bne_iff_ne, ne_eq, not_forall, not_not] at standing
      obtain ⟨entry, member, here⟩ := standing
      exact .inr ⟨entry, member, here.symm⟩
  constructor
  · intro location name standing
    rcases found _ standing with root | ⟨entry, member, here⟩
    · simp at root
    · have outer := (each entry member).2
      rwa [here, List.dropLast_concat] at outer
  · intro location standing
    rcases found location standing with rfl | ⟨entry, member, rfl⟩
    · simp
    · exact (each entry member).1

theorem Proper.grown {before after : Disk} (proper : before.Proper) (grown : before.Grown after) :
    ∀ location, after.node? location ≠ none → ∀ name ∈ location, Path.Plain name := by
  intro location standing
  rcases grown location with same | made
  · rw [same.node] at standing
    exact proper.plain location standing
  · exact made.plain

theorem namesIn_eq_nil {disk : Disk} {place : Location} (tree : disk.IsTree)
    (nothing : disk.node? place = none) : disk.namesIn place = [] := by
  refine List.eq_nil_iff_forall_not_mem.mpr fun name member => ?_
  have standing := tree place name (mem_namesIn.mp member)
  rw [nothing] at standing
  cases standing

/-- A directory lists one name more once something new stands in it. -/
theorem perm_namesIn_put {disk : Disk} {place : Location} {name : String} (node : Node)
    (nothing : disk.node? (place ++ [name]) = none) :
    ((disk.put (place ++ [name]) node).namesIn place).Perm (disk.namesIn place ++ [name]) := by
  have fresh : name ∉ disk.namesIn place := by
    rw [mem_namesIn]
    exact fun other => other nothing
  have nodup : (disk.namesIn place ++ [name]).Nodup := by
    rw [← List.concat_eq_append]
    exact (List.nodup_concat _ _).mpr ⟨fresh, nodup_namesIn disk place⟩
  refine (List.perm_ext_iff_of_nodup (nodup_namesIn _ place) nodup).mpr fun other => ?_
  rw [mem_namesIn, List.mem_append, List.mem_singleton, mem_namesIn]
  by_cases here : other = name
  · rw [here, node?_put_self (by simp)]
    simp
  · rw [node?_put_of_ne (by simpa using here)]
    simp [here]

theorem listNames_eq {disk : Disk} {path : String} {place : Location}
    (located : disk.locate path = .ok place) (standing : disk.node? place = some .directory) :
    disk.listNames path =
      if place ∈ disk.shut then .error .accessDenied else .ok (disk.namesIn place) := by
  unfold listNames
  rw [located]
  simp only [bind, Except.bind, standing]
  split <;> rfl

/-- Where the names of a path lead to a directory, so does the path, even if it ends in a slash. -/
theorem locate_of_directory {disk : Disk} {path : String} {place : Location}
    (checked : checkPath path = .ok ()) (walked : disk.walk [] (Path.names path) = .ok place)
    (standing : disk.node? place = some .directory) : disk.locate path = .ok place := by
  refine locate_eq_ok.mpr ⟨checked, ?_⟩
  unfold Path.steps
  split
  · have short : ¬ nameLimit < ".".utf8ByteSize := by decide
    rw [walk_append walked, walk, standing]
    simp only [if_neg short]
    rfl
  · exact walked

private theorem walk_names {disk : Disk} {path : String} {place : Location}
    (located : disk.locate path = .ok place) : disk.walk [] (Path.names path) = .ok place := by
  have walked := (locate_eq_ok.mp located).2
  unfold Path.steps at walked
  split at walked
  · obtain ⟨directory, front, -, rfl⟩ := walk_concat walked
    exact front
  · exact walked

section Within

variable {disk : Disk} {path name : String} {place : Location} (plain : Path.Plain name)
include plain

theorem locate_join (located : disk.locate path = .ok place)
    (standing : disk.node? place = some .directory) (location : Location) :
    disk.locate (Path.join path name) = .ok location ↔
      checkPath (Path.join path name) = .ok () ∧ ¬ nameLimit < name.utf8ByteSize ∧
        location = place ++ [name] := by
  have last : disk.walk place [name] = .ok location ↔
      ¬ nameLimit < name.utf8ByteSize ∧ location = place ++ [name] := by
    rw [walk, standing]
    by_cases long : nameLimit < name.utf8ByteSize
    · simp [long]
    · simp [long, walk, Path.follow, plain.notHere, plain.notOuter, eq_comm]
  rw [locate_eq_ok, Path.steps_join plain, walk_append (walk_names located), last]

/-- Directories at one place hold the same under a name as soon as their files hold the same. -/
theorem readFile_join_congr {other : Disk} (located : disk.locate path = .ok place)
    (standing : disk.node? place = some .directory) (otherLocated : other.locate path = .ok place)
    (otherStanding : other.node? place = some .directory)
    (same : other.content? (place ++ [name]) = disk.content? (place ++ [name])) (content : Bytes) :
    other.readFile (Path.join path name) = .ok content ↔
      disk.readFile (Path.join path name) = .ok content := by
  rw [readFile_eq_ok, readFile_eq_ok]
  refine exists_congr fun location => ?_
  rw [locate_join plain located standing, locate_join plain otherLocated otherStanding]
  refine and_congr_right fun ⟨_, _, here⟩ => ?_
  rw [here, same]

end Within

end Disk

end Keywarden
