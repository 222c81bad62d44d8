import Keywarden.Proofs.Disk
import Mathlib.Data.List.Infix

/-!
# Where paths lead

The names of a path say where it leads, if it leads anywhere: what stands on the way decides
only whether it does.  So it can be told from the names alone whether a path leads past a
location.
-/

namespace Keywarden

namespace Path

/-! ### Names of a path -/

/-- A name as it stands between two slashes. -/
def Whole (name : String) : Prop :=
  '/' ∉ name.toList ∧ name ≠ ""

theorem Plain.whole {name : String} (plain : Plain name) : Whole name :=
  ⟨plain.noSlash, plain.visible⟩

theorem Whole.plain {name : String} (whole : Whole name) (notHere : name ≠ ".")
    (notOuter : name ≠ "..") : Plain name :=
  ⟨whole.1, whole.2, notHere, notOuter⟩

private theorem noSlash_of_mem_pieces {chars piece : List Char} (member : piece ∈ pieces chars) :
    '/' ∉ piece := by
  induction chars generalizing piece with
  | nil =>
    have empty : piece = [] := by simpa [pieces] using member
    simp [empty]
  | cons char rest ih =>
    simp only [pieces] at member
    split at member
    · rcases List.mem_cons.mp member with rfl | member
      · simp
      · exact ih member
    · rename_i notSlash
      split at member
      · have single : piece = [char] := by simpa using member
        simp [single, Ne.symm notSlash]
      · rename_i first others found
        rcases List.mem_cons.mp member with rfl | member
        · have firstWhole : '/' ∉ first := ih (by simp [found])
          simp [Ne.symm notSlash, firstWhole]
        · exact ih (by simp [found, member])

theorem whole_of_mem_names {path name : String} (member : name ∈ names path) : Whole name := by
  obtain ⟨piece, found, rfl⟩ := List.mem_map.mp member
  obtain ⟨found, nonempty⟩ := List.mem_filter.mp found
  refine ⟨?_, ?_⟩
  · simpa using noSlash_of_mem_pieces found
  · simpa using nonempty

private theorem names_whole {name : String} (whole : Whole name) : names name = [name] := by
  simp [names, pieces_of_no_slash whole.1, whole.2]

theorem ofNames_concat (front : List String) (name : String) :
    ofNames (front ++ [name]) = (if front = [] then "" else ofNames front) ++ "/" ++ name := by
  split
  · rename_i alone
    rw [ofNames, alone, List.nil_append, String.intercalate_singleton, String.empty_append]
  · rename_i nonempty
    rw [ofNames, String.intercalate_append_of_ne_nil nonempty (List.cons_ne_nil _ _),
      String.intercalate_singleton, ofNames]
    simp only [String.append_assoc]

/-- A path is made of its names. -/
theorem names_ofNames_whole {listed : List String} (whole : ∀ name ∈ listed, Whole name) :
    names (ofNames listed) = listed := by
  induction listed using List.reverseRecOn with
  | nil => decide
  | append_singleton front name ih =>
    have frontWhole : names (ofNames front) = front :=
      ih fun other member => whole other (List.mem_append_left _ member)
    have nameWhole := names_whole (whole name (by simp))
    rw [ofNames_concat, names_append_slash, nameWhole]
    split
    · rename_i alone
      rw [alone, names_empty]
    · rw [frontWhole]

theorem parentNames_prefix (listed : List String) : parentNames listed <+: listed := by
  have dropped : (((listed.reverse.dropWhile (· = ".")).tail).dropWhile (· = ".")) <:+
      listed.reverse :=
    ((List.dropWhile_suffix _).trans (List.tail_suffix _)).trans (List.dropWhile_suffix _)
  have reversed := List.reverse_prefix.mpr dropped
  rwa [List.reverse_reverse] at reversed

/-- The names of the directory of something are those before its name, up to dots. -/
theorem parentNames_concat {name : String} (plain : Plain name) (front : List String) :
    parentNames (front ++ [name]) <+: front := by
  have visible : (name = ".") = False := eq_false plain.notHere
  have inside : parentNames (front ++ [name]) =
      (front.reverse.dropWhile (· = ".")).reverse := by
    simp [parentNames, visible]
  have dropped := List.reverse_prefix.mpr (List.dropWhile_suffix (l := front.reverse) (· = "."))
  rw [List.reverse_reverse] at dropped
  rwa [inside]

/-! ### Where names lead -/

theorem lead_append (here : Location) (front rest : List String) :
    lead here (front ++ rest) = lead (lead here front) rest :=
  List.foldl_append

theorem follow_plain {name : String} (plain : Plain name) (here : Location) :
    follow here name = here ++ [name] := by
  rw [follow, if_neg plain.notHere, if_neg plain.notOuter]

theorem lead_concat {name : String} (plain : Plain name) (here : Location)
    (front : List String) : lead here (front ++ [name]) = lead here front ++ [name] := by
  rw [lead_append]
  exact follow_plain plain _

theorem plain_of_mem_follow {here : Location} (plain : ∀ name ∈ here, Plain name) {next : String}
    (whole : Whole next) : ∀ name ∈ follow here next, Plain name := by
  intro name member
  unfold follow at member
  split at member
  · exact plain name member
  · rename_i notHere
    split at member
    · exact plain name ((List.dropLast_sublist here).subset member)
    · rename_i notOuter
      rcases List.mem_append.mp member with member | member
      · exact plain name member
      · rw [List.mem_singleton.mp member]
        exact whole.plain notHere notOuter

theorem plain_of_mem_lead {here : Location} {listed : List String}
    (plain : ∀ name ∈ here, Plain name) (whole : ∀ name ∈ listed, Whole name) :
    ∀ name ∈ lead here listed, Plain name := by
  induction listed generalizing here with
  | nil => exact plain
  | cons first rest ih =>
    have firstWhole := whole first (by simp)
    exact ih (plain_of_mem_follow plain firstWhole) fun name member =>
      whole name (List.mem_cons_of_mem _ member)

theorem lead_of_plain {listed : List String} (plain : ∀ name ∈ listed, Plain name) :
    lead [] listed = listed := by
  induction listed using List.reverseRecOn with
  | nil => rfl
  | append_singleton front name ih =>
    have frontPlain : lead [] front = front :=
      ih fun other member => plain other (List.mem_append_left _ member)
    rw [lead_concat (plain name (by simp)), frontPlain]

def Covered (places : List Location) (location : Location) : Prop :=
  ∃ place ∈ places, place <+: location

instance (places : List Location) (location : Location) : Decidable (Covered places location) :=
  inferInstanceAs (Decidable (∃ place ∈ places, place <+: location))

theorem Covered.below {places : List Location} {location : Location}
    (covered : Covered places location) {further : Location} (below : location <+: further) :
    Covered places further := by
  obtain ⟨place, member, leads⟩ := covered
  exact ⟨place, member, leads.trans below⟩

/-- However far the names are followed, they lead neither to one of the places nor below it. -/
def Avoids (places : List Location) (here : Location) (listed : List String) : Prop :=
  ∀ front, front <+: listed → ¬ Covered places (lead here front)

instance (places : List Location) (here : Location) (listed : List String) :
    Decidable (Avoids places here listed) :=
  decidable_of_iff (∀ front ∈ listed.inits, ¬ Covered places (lead here front)) <|
    forall_congr' fun front => by rw [List.mem_inits]

section Avoids

variable {places : List Location} {here : Location}

theorem Avoids.outside {listed : List String} (avoids : Avoids places here listed) :
    ¬ Covered places (lead here listed) :=
  avoids listed List.prefix_rfl

theorem Avoids.of_prefix {front listed : List String} (avoids : Avoids places here listed)
    (before : front <+: listed) : Avoids places here front :=
  fun first within => avoids first (within.trans before)

theorem Avoids.start {listed : List String} (avoids : Avoids places here listed) :
    ¬ Covered places here :=
  avoids [] List.nil_prefix

theorem Avoids.tail {name : String} {rest : List String}
    (avoids : Avoids places here (name :: rest)) : Avoids places (follow here name) rest := by
  intro front within
  exact avoids (name :: front) (List.prefix_cons_iff.mpr (.inr ⟨front, rfl, within⟩))

theorem Avoids.concat {front : List String} (avoids : Avoids places here front) {name : String}
    (past : ¬ Covered places (lead here (front ++ [name]))) :
    Avoids places here (front ++ [name]) := by
  intro first within
  rcases List.prefix_concat_iff.mp within with rfl | within
  · exact past
  · exact avoids first within

theorem Avoids.concat_plain {front : List String} (avoids : Avoids places here front)
    {name : String} (plain : Plain name) (elsewhere : lead here front ++ [name] ∉ places) :
    Avoids places here (front ++ [name]) := by
  refine avoids.concat ?_
  rw [lead_concat plain]
  rintro ⟨place, member, leads⟩
  rcases List.prefix_concat_iff.mp leads with same | inside
  · rw [same] at member
    exact elsewhere member
  · exact avoids.outside ⟨place, member, inside⟩

/-- Another name than the last ones of the places leads past them. -/
theorem Avoids.concat_of_ne {front : List String} (avoids : Avoids places here front)
    {name : String} (plain : Plain name) (other : ∀ place ∈ places, place.getLast? ≠ some name) :
    Avoids places here (front ++ [name]) := by
  refine avoids.concat_plain plain fun member => ?_
  exact other _ member List.getLast?_concat

private theorem lead_steps (path : String) : lead here (steps path) = lead here (names path) := by
  unfold steps
  split
  · rw [lead_append]
    rfl
  · rfl

theorem Avoids.steps {path : String} (avoids : Avoids places [] (names path)) :
    Avoids places [] (steps path) := by
  unfold Path.steps
  split
  · refine avoids.concat ?_
    rw [lead_append]
    exact avoids.outside
  · exact avoids

/-- Names without dots lead outside of some places through its outer directories alone. -/
theorem avoids_of_outside {listed : List String} (plain : ∀ name ∈ listed, Plain name)
    (outside : ¬ Covered places listed) : Avoids places [] listed := by
  intro front within inside
  have frontPlain : ∀ name ∈ front, Plain name := fun name member =>
    plain name (within.subset member)
  rw [lead_of_plain frontPlain] at inside
  exact outside (inside.below within)

/-- Each of the locations that names lead along is where a beginning of them leads. -/
theorem exists_of_mem_along {listed : List String} {location : Location}
    (member : location ∈ along here listed) : ∃ front, front <+: listed ∧
      location = lead here front := by
  induction listed generalizing here with
  | nil => cases member
  | cons name rest ih =>
    rcases List.mem_cons.mp member with rfl | member
    · exact ⟨[name], by simp, rfl⟩
    · obtain ⟨front, within, rfl⟩ := ih member
      exact ⟨name :: front, List.prefix_cons_iff.mpr (.inr ⟨front, rfl, within⟩), rfl⟩

end Avoids

end Path

namespace Disk

theorem eq_lead_of_walk {disk : Disk} {here location : Location} {listed : List String}
    (walked : disk.walk here listed = .ok location) : location = Path.lead here listed := by
  induction listed generalizing here with
  | nil =>
    cases walked
    rfl
  | cons name rest ih =>
    rw [walk] at walked
    split at walked
    · cases walked
    · cases walked
    · split at walked
      · cases walked
      · exact ih walked

theorem plain_of_walk {disk : Disk} {location : Location} {path : String}
    (walked : disk.walk [] (Path.names path) = .ok location) :
    ∀ name ∈ location, Path.Plain name := by
  rw [eq_lead_of_walk walked]
  exact Path.plain_of_mem_lead (by simp) fun name => Path.whole_of_mem_names

theorem eq_lead_of_locate {disk : Disk} {path : String} {location : Location}
    (located : disk.locate path = .ok location) : location = Path.lead [] (Path.names path) := by
  rw [← Path.lead_steps]
  exact eq_lead_of_walk (locate_eq_ok.mp located).2

theorem plain_of_locate {disk : Disk} {path : String} {location : Location}
    (located : disk.locate path = .ok location) : ∀ name ∈ location, Path.Plain name := by
  rw [eq_lead_of_locate located]
  exact Path.plain_of_mem_lead (by simp) fun name => Path.whole_of_mem_names

end Disk

end Keywarden
