import Keywarden.Proofs.Disk.Within

/-!
# Direct paths

A path that leads to a location leads through all directories around it, whatever turns it
takes, so that the names of the location alone lead there as well.
-/

namespace Keywarden

/-! ### The characters of a path -/

namespace Path

theorem isUsable_iff {path : String} : isUsable path = true ↔ '\x00' ∉ path.toList := by
  simp [isUsable]

private theorem mem_of_mem_pieces {chars piece : List Char} {letter : Char}
    (member : piece ∈ pieces chars) (inside : letter ∈ piece) : letter ∈ chars := by
  induction chars generalizing piece with
  | nil =>
    have empty : piece = [] := by simpa [pieces] using member
    simp [empty] at inside
  | cons char rest ih =>
    simp only [pieces] at member
    split at member
    · rcases List.mem_cons.mp member with rfl | member
      · cases inside
      · exact List.mem_cons_of_mem _ (ih member inside)
    · split at member
      · have single : piece = [char] := by simpa using member
        rw [single, List.mem_singleton] at inside
        simp [inside]
      · rename_i first others found
        rcases List.mem_cons.mp member with rfl | member
        · rcases List.mem_cons.mp inside with rfl | inside
          · exact List.mem_cons_self
          · exact List.mem_cons_of_mem _ (ih (by simp [found]) inside)
        · exact List.mem_cons_of_mem _ (ih (by simp [found, member]) inside)

private theorem isUsable_of_mem_names {path name : String} (usable : isUsable path = true)
    (member : name ∈ names path) : isUsable name = true := by
  obtain ⟨piece, found, rfl⟩ := List.mem_map.mp member
  have listed := (List.mem_filter.mp found).1
  rw [isUsable_iff] at usable ⊢
  rw [String.toList_ofList]
  exact fun held => usable (mem_of_mem_pieces listed held)

private theorem mem_of_mem_lead {here : Location} {listed : List String} {name : String}
    (member : name ∈ lead here listed) : name ∈ here ∨ name ∈ listed := by
  induction listed generalizing here with
  | nil => exact .inl member
  | cons first rest ih =>
    rcases ih member with inside | inRest
    · unfold follow at inside
      split at inside
      · exact .inl inside
      · split at inside
        · exact .inl ((List.dropLast_sublist here).subset inside)
        · rcases List.mem_append.mp inside with inHere | last
          · exact .inl inHere
          · exact .inr (by simp [List.mem_singleton.mp last])
    · exact .inr (List.mem_cons_of_mem _ inRest)

private theorem isUsable_ofNames {listed : List String}
    (usable : ∀ name ∈ listed, isUsable name = true) :
    isUsable (ofNames listed) = true := by
  have spelled : '\x00' ∉ ("/".intercalate listed).toList := by
    induction listed with
    | nil => simp
    | cons name rest ih =>
      have first := isUsable_iff.mp (usable name (by simp))
      have others := ih fun other member => usable other (by simp [member])
      cases rest with
      | nil => simpa using first
      | cons next rest =>
        rw [String.intercalate_cons_cons]
        simp only [String.toList_append, List.mem_append, not_or]
        exact ⟨⟨first, by decide⟩, others⟩
  rw [isUsable_iff, ofNames, String.toList_append]
  simp only [List.mem_append, not_or]
  exact ⟨by decide, spelled⟩

theorem isUsable_join {name : String} (plain : Plain name) (usable : isUsable name = true)
    (base : String) : isUsable (join base name) = isUsable base := by
  have nameUsable := isUsable_iff.mp usable
  rw [Bool.eq_iff_iff, isUsable_iff, isUsable_iff]
  unfold join
  rw [isAbsolute_plain plain, Bool.false_or]
  split
  · rename_i empty
    have nothing : base = "" := by simpa using empty
    simp [nothing, nameUsable]
  · split <;> simp [nameUsable]

/-! ### The length of a path -/

/-- The bytes of some names, and a slash for each of them. -/
def width : List String → Nat
  | [] => 0
  | name :: rest => name.utf8ByteSize + 1 + width rest

theorem width_append (front rest : List String) :
    width (front ++ rest) = width front + width rest := by
  induction front with
  | nil => simp [width]
  | cons name front ih =>
    simp only [List.cons_append, width, ih]
    omega

theorem width_le_of_sublist {fewer listed : List String} (sublist : fewer.Sublist listed) :
    width fewer ≤ width listed := by
  induction sublist with
  | slnil => exact Nat.le_refl _
  | cons name _ ih =>
    simp only [width]
    omega
  | cons_cons name _ ih =>
    simp only [width]
    omega

private theorem size_ofNames_le (listed : List String) :
    (ofNames listed).utf8ByteSize ≤ width listed + 1 := by
  induction listed using List.reverseRecOn with
  | nil => decide
  | append_singleton front name ih =>
    have slash : "/".utf8ByteSize = 1 := rfl
    rw [ofNames_concat, width_append, String.utf8ByteSize_append, String.utf8ByteSize_append, slash]
    simp only [width]
    split
    · rw [String.utf8ByteSize_empty]
      omega
    · omega

private theorem width_lead_le (here : Location) (listed : List String) :
    width (lead here listed) ≤ width here + width listed := by
  induction listed generalizing here with
  | nil => exact Nat.le_add_right _ _
  | cons name rest ih =>
    have next : width (follow here name) ≤ width here + width [name] := by
      unfold follow
      split
      · exact Nat.le_add_right _ _
      · split
        · have shorter := width_le_of_sublist (List.dropLast_sublist here)
          exact shorter.trans (Nat.le_add_right _ _)
        · rw [width_append]
    have farther := ih (follow here name)
    have together := width_append [name] rest
    change width (lead (follow here name) rest) ≤ width here + width ([name] ++ rest)
    omega

private theorem size_ofList_cons (char : Char) (rest : List Char) :
    (String.ofList (char :: rest)).utf8ByteSize =
      char.utf8Size + (String.ofList rest).utf8ByteSize := by
  rw [String.ofList_cons, String.utf8ByteSize_append, String.utf8ByteSize_singleton]

private theorem width_pieces (chars : List Char) :
    width ((pieces chars).map String.ofList) = (String.ofList chars).utf8ByteSize + 1 := by
  induction chars with
  | nil => rfl
  | cons char rest ih =>
    rw [pieces]
    split
    · rename_i slash
      have single : Char.utf8Size '/' = 1 := rfl
      rw [List.map_cons, width, ih, slash, size_ofList_cons, single]
      simp
      omega
    · split
      · rename_i nothing
        exact absurd nothing (pieces_ne_nil rest)
      · rename_i piece others found
        rw [found, List.map_cons, width] at ih
        rw [List.map_cons, width, size_ofList_cons, size_ofList_cons]
        omega

private theorem width_names_le (path : String) : width (names path) ≤ path.utf8ByteSize + 1 := by
  have all := width_pieces path.toList
  rw [String.ofList_toList] at all
  rw [← all]
  exact width_le_of_sublist (List.filter_sublist.map String.ofList)

/-- Wherever the names of a path lead, the place has no longer path of its own. -/
theorem size_ofNames_lead_le {path : String} {front : List String} (before : front <+: names path) :
    (ofNames (lead [] front)).utf8ByteSize ≤ path.utf8ByteSize + 2 := by
  obtain ⟨rest, whole⟩ := before
  have all := width_names_le path
  have led := width_lead_le [] front
  have size := size_ofNames_le (lead [] front)
  have nothing : width [] = 0 := rfl
  rw [← whole, width_append] at all
  omega

theorem size_le_join {name : String} (plain : Plain name) (base : String) :
    base.utf8ByteSize + name.utf8ByteSize ≤ (join base name).utf8ByteSize := by
  unfold join
  rw [isAbsolute_plain plain, Bool.false_or]
  split
  · rename_i empty
    have nothing : base = "" := by simpa using empty
    rw [nothing, String.utf8ByteSize_empty, Nat.zero_add]
  · split
    · rw [String.utf8ByteSize_append]
    · rw [String.utf8ByteSize_append, String.utf8ByteSize_append]
      omega

end Path

/-! ### Walking directly -/

namespace Disk

variable {disk : Disk} {here location : Location}

/-- One name further, and the place is still reached by its own names. -/
theorem walk_follow {name : String} (plain : ∀ other ∈ here, Path.Plain other)
    (direct : disk.walk [] here = .ok here) (standing : disk.node? here = some .directory)
    (short : ¬ nameLimit < name.utf8ByteSize) :
    disk.walk [] (Path.follow here name) = .ok (Path.follow here name) := by
  unfold Path.follow
  split
  · exact direct
  · rename_i notHere
    split
    · rcases List.eq_nil_or_concat' here with rfl | ⟨outer, last, rfl⟩
      · rfl
      · obtain ⟨directory, walked, -, -⟩ := walk_concat direct
        have outerPlain : ∀ other ∈ outer, Path.Plain other := fun other member =>
          plain other (List.mem_append_left _ member)
        rw [List.dropLast_concat, walked, eq_lead_of_walk walked, Path.lead_of_plain outerPlain]
    · rename_i notOuter
      rw [walk_append direct, walk, standing]
      simp only [if_neg short, walk, Path.follow, if_neg notHere, if_neg notOuter]

/-- All that a walk leads along are directories, each of which is reached by its own names. -/
theorem walk_along {listed : List String} (plain : ∀ name ∈ here, Path.Plain name)
    (whole : ∀ name ∈ listed, Path.Whole name) (direct : disk.walk [] here = .ok here)
    (walked : disk.walk here listed = .ok location)
    (standing : disk.node? location = some .directory) :
    ∀ place ∈ Path.along here listed,
      disk.walk [] place = .ok place ∧ disk.node? place = some .directory := by
  induction listed generalizing here with
  | nil => nofun
  | cons name rest ih =>
    rw [walk] at walked
    split at walked
    · cases walked
    · cases walked
    · rename_i around
      split at walked
      · cases walked
      · rename_i short
        have next := walk_follow plain direct around short
        have nextStanding : disk.node? (Path.follow here name) = some .directory := by
          cases rest with
          | nil =>
            cases walked
            exact standing
          | cons =>
            rw [walk] at walked
            split at walked
            · cases walked
            · cases walked
            · assumption
        have farther := ih (Path.plain_of_mem_follow plain (whole name (by simp)))
          (fun other member => whole other (by simp [member])) next walked
        exact List.forall_mem_cons.mpr ⟨⟨next, nextStanding⟩, farther⟩

/-- What a path leads along to a directory can be looked up, if the path is short enough. -/
theorem lookUp_along {path : String} (usable : Path.isUsable path = true)
    (short : path.utf8ByteSize + 2 ≤ pathLimit)
    (walked : disk.walk [] (Path.names path) = .ok location)
    (standing : disk.node? location = some .directory) :
    ∀ place ∈ Path.along [] (Path.names path),
      disk.lookUp (Path.ofNames place) = .ok .directory := by
  intro place member
  obtain ⟨direct, isDirectory⟩ := walk_along (by simp) (fun _ => Path.whole_of_mem_names) rfl walked
    standing place member
  obtain ⟨front, within, rfl⟩ := Path.exists_of_mem_along member
  have plain : ∀ name ∈ Path.lead [] front, Path.Plain name :=
    Path.plain_of_mem_lead (by simp) fun name member =>
      Path.whole_of_mem_names (within.subset member)
  have spelled := Path.names_ofNames_whole fun name member => (plain name member).whole
  have usable : Path.isUsable (Path.ofNames (Path.lead [] front)) = true :=
    Path.isUsable_ofNames fun name member => Path.isUsable_of_mem_names usable
      (within.subset ((Path.mem_of_mem_lead member).resolve_left List.not_mem_nil))
  have size := Path.size_ofNames_lead_le within
  have fits : ¬ pathLimit < (Path.ofNames (Path.lead [] front)).utf8ByteSize := by omega
  have checked : checkPath (Path.ofNames (Path.lead [] front)) = .ok () := by
    simp only [checkPath, usable, if_neg fits, Bool.not_true, Bool.false_eq_true, if_false]
  have reached : disk.walk [] (Path.names (Path.ofNames (Path.lead [] front))) =
      .ok (Path.lead [] front) := by
    rw [spelled]
    exact direct
  exact lookUp_eq_ok.mpr ⟨_, locate_of_directory checked reached isDirectory, isDirectory⟩

/-- A file that is written stays as private as it was. -/
theorem write_of_file {path : String} {isPrivate : Bool} {held : Bytes}
    (located : disk.locate path = .ok location) (slashless : Path.endsInSlash path = false)
    (standing : disk.node? location = some (.file isPrivate held)) (content : Bytes) :
    disk.write path content = .ok (disk.put location (.file isPrivate content)) := by
  obtain ⟨checked, walked⟩ := locate_eq_ok.mp located
  rw [Path.steps, slashless, if_neg Bool.false_ne_true] at walked
  unfold write
  rw [checked]
  simp only [bind, Except.bind, walked, slashless, Bool.false_eq_true, if_false, standing]
  rfl

end Disk

end Keywarden
