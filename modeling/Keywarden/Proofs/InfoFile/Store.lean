import Keywarden.InfoFile.Store
import Keywarden.Proofs.Disk.Beside
import Keywarden.Proofs.InfoFile.RoundTrip

/-!
# Info files on disk

A saved file is what its path leads to afterwards, and every other info file of the disk is
as it was.  Only the last step of saving touches an info file, so that a save that stops
has changed none.
-/

namespace Keywarden.InfoFile

open Keywarden.Action

/-! ### Paths -/

theorem plain_fileName : Path.Plain fileName where
  noSlash := by decide
  visible := by decide
  notHere := by decide
  notOuter := by decide

theorem follow_fileName (parent : Location) :
    Path.follow parent fileName = parent ++ [fileName] := by
  rw [Path.follow, if_neg plain_fileName.notHere, if_neg plain_fileName.notOuter]

theorem names_pathIn (directory : String) :
    Path.names (pathIn directory) = Path.names directory ++ [fileName] :=
  Path.names_join directory fileName plain_fileName.noSlash plain_fileName.visible

theorem steps_pathIn (directory : String) :
    Path.steps (pathIn directory) = Path.names directory ++ [fileName] :=
  Path.steps_join plain_fileName directory

private theorem lastName?_pathIn (directory : String) :
    Path.lastName? (pathIn directory) = some fileName := by
  have notHere : ¬ fileName = "." := plain_fileName.notHere
  have notOuter : ¬ fileName = ".." := plain_fileName.notOuter
  simp [Path.lastName?, names_pathIn, notHere, notOuter]

/-- The name of a file that is yet to be moved to its place. -/
def draftName : String := "._info.json.tmp"

theorem plain_draftName : Path.Plain draftName where
  noSlash := by decide
  visible := by decide
  notHere := by decide
  notOuter := by decide

theorem draftPath_pathIn (directory : String) :
    draftPath (pathIn directory) =
      Path.ofNames (Path.parentNames (Path.names (pathIn directory)) ++ [draftName]) := by
  have named : "." ++ (Path.lastName? (pathIn directory)).getD "" ++ ".tmp" = draftName := by
    rw [lastName?_pathIn]
    rfl
  rw [draftPath, named]

theorem names_draftPath (directory : String) :
    Path.names (draftPath (pathIn directory)) =
      Path.parentNames (Path.names (pathIn directory)) ++ [draftName] := by
  rw [draftPath_pathIn]
  apply Path.names_ofNames_whole
  intro name member
  rcases List.mem_append.mp member with member | member
  · exact Path.whole_of_mem_names ((Path.parentNames_prefix _).subset member)
  · rw [List.mem_singleton.mp member]
    exact plain_draftName.whole

theorem spares_draft (directory : String) (content : Bytes) :
    (Step.write (draftPath (pathIn directory)) content).Spares fileName := by
  have other : draftName ≠ fileName := by decide
  exact ⟨_, draftName, plain_draftName, other, names_draftPath directory⟩

theorem getLast?_of_locate_draft {disk : Disk} {directory : String} {location : Location}
    (located : disk.locate (draftPath (pathIn directory)) = .ok location) :
    location.getLast? = some draftName := by
  have slashless : Path.endsInSlash (draftPath (pathIn directory)) = false := by
    rw [draftPath_pathIn, Path.ofNames_concat]
    exact Path.endsInSlash_append plain_draftName _
  have walked := (Disk.locate_eq_ok.mp located).2
  rw [Path.steps, slashless, if_neg Bool.false_ne_true, names_draftPath] at walked
  obtain ⟨parent, -, rfl⟩ := Disk.walk_plain plain_draftName walked
  exact List.getLast?_concat

/-- The path of an info file leads to a place in a directory. -/
theorem of_locate_pathIn {disk : Disk} {directory : String} {location : Location}
    (located : disk.locate (pathIn directory) = .ok location) :
    ∃ parent, disk.walk [] (Path.names directory) = .ok parent ∧
      disk.node? parent = some .directory ∧ location = parent ++ [fileName] := by
  have walked := (Disk.locate_eq_ok.mp located).2
  rw [steps_pathIn] at walked
  obtain ⟨parent, before, isDirectory, rfl⟩ := Disk.walk_concat walked
  exact ⟨parent, before, isDirectory, follow_fileName parent⟩

/-! ### Loading -/

theorem holds_load {Holds : ∀ {α : Type}, Action Volume α → Prop}
    (looking : Volume.Looking Holds) (path : String) : Holds (load path) := by
  refine looking.bind looking.get fun volume => ?_
  split
  · exact looking.bind (looking.examine _) fun content => looking.ofExcept _
  · exact looking.fail _

theorem keeps_load {γ : Type} (view : Volume → γ) (path : String) : (load path).Keeps view :=
  holds_load (Volume.looking_keeps view) path

theorem returns_load {path : String} {volume : Volume} {content : Bytes} {info : InfoFile}
    (present : volume.disk.holds path = true) (found : volume.disk.readFile path = .ok content)
    (reads : decode content = .ok info) : (load path).Returns volume info volume := by
  refine returns_bind.mpr ⟨volume, volume, rfl, ?_⟩
  rw [if_pos present]
  have examined : (Volume.examine (·.readFile path)).Returns volume content volume := by
    simp only [Returns, Volume.examine, found]
  exact returns_bind.mpr ⟨content, volume, examined, returns_ofExcept.mpr ⟨reads, rfl⟩⟩

theorem of_load {path : String} {before after : Volume} {info : InfoFile}
    (loaded : (load path).Returns before info after) :
    ∃ content, before.disk.readFile path = .ok content ∧ decode content = .ok info := by
  obtain ⟨volume, between, got, loaded⟩ := returns_bind.mp loaded
  cases got
  split at loaded
  · obtain ⟨content, between, examined, decoded⟩ := returns_bind.mp loaded
    exact ⟨content, Volume.of_returns_examine examined, (returns_ofExcept.mp decoded).1⟩
  · exact (not_returns_fail loaded).elim

/-! ### Beside other places -/

section Beside

variable {places : List Location} {directory : String}
  (avoids : Path.Avoids places [] (Path.names directory))
  (other : ∀ place ∈ places, place.getLast? ≠ some fileName)
include avoids other

theorem avoids_pathIn : Path.Avoids places [] (Path.names (pathIn directory)) := by
  rw [names_pathIn]
  exact avoids.concat_of_ne plain_fileName other

theorem respects_load : (load (pathIn directory)).Respects (Volume.Beside places) := by
  have path := avoids_pathIn avoids other
  refine Volume.respects_get (fun first second beside => ?_) fun volume => ?_
  · rw [beside.holds_eq path]
  · split
    · exact (inherited_respects _).bind
        (Volume.respects_examine fun _ _ beside => beside.readFile_eq path) fun _ =>
          (inherited_respects _).ofExcept _
    · exact (inherited_respects _).fail _

theorem respects_save (draft : ∀ place ∈ places, place.getLast? ≠ some draftName) (info : InfoFile) :
    (save (pathIn directory) info).Respects (Volume.Beside places) := by
  have path := avoids_pathIn avoids other
  have outer : Path.parentNames (Path.names (pathIn directory)) <+: Path.names directory := by
    rw [names_pathIn]
    exact Path.parentNames_concat plain_fileName _
  have draftAvoids : Path.Avoids places [] (Path.names (draftPath (pathIn directory))) := by
    rw [names_draftPath]
    exact (avoids.of_prefix outer).concat_of_ne plain_draftName draft
  have written : (Step.write (draftPath (pathIn directory)) info.encode).Avoids places := draftAvoids
  have moved : (Step.rename (draftPath (pathIn directory)) (pathIn directory)).Avoids places :=
    ⟨draftAvoids, path⟩
  apply Volume.respects_takeAll
  simp only [savingSteps, List.mem_cons, List.not_mem_nil, or_false, forall_eq_or_imp, forall_eq]
  exact ⟨written, moved⟩

end Beside

/-! ### Saving -/

/-- The draft is written beside the info file, and what was written is moved. -/
theorem moved_of_save {directory : String} {info : InfoFile} {before after : Volume}
    (saved : (save (pathIn directory) info).Returns before () after) :
    ∃ draft location isPrivate, draft.getLast? = some draftName ∧
      location.getLast? = some fileName ∧
      before.disk.locate (draftPath (pathIn directory)) = .ok draft ∧
      before.disk.locate (pathIn directory) = .ok location ∧
      after.disk.directories = before.disk.directories ∧
      after.disk = ((before.disk.put draft (.file isPrivate info.encode)).remove draft).put location
        (.file isPrivate info.encode) := by
  simp only [save, savingSteps, Volume.takeAll, returns_bind, Volume.returns_take,
    returns_pure] at saved
  obtain ⟨-, _, ⟨drafted, drafting, rfl⟩, -, _, ⟨moved, moving, rfl⟩, -, rfl⟩ := saved
  have grown : drafted.directories = before.disk.directories := by
    apply (spares_draft directory info.encode).directories_eq _ drafting
    intro path same
    cases same
  obtain ⟨-, draft, isPrivate, located, free, rfl⟩ := Disk.of_write drafting
  obtain ⟨origin, node, location, source, standing, target, targetFree, rfl⟩ :=
    Disk.of_rename moving
  have same : origin = draft := by
    have again := (Disk.locate_congr grown _ _).mp source
    rw [located] at again
    cases again
    rfl
  subst same
  have belowDraft : origin ≠ [] := by
    rintro rfl
    exact free (Disk.node?_nil _)
  rw [Disk.node?_put_self belowDraft] at standing
  cases standing
  have originFree : (before.disk.put origin (.file isPrivate info.encode)).node? origin ≠
      some .directory := by
    simp [Disk.node?_put_self belowDraft]
  have removed := Disk.directories_remove originFree
  have stillFree : ((before.disk.put origin (.file isPrivate info.encode)).remove origin).node?
      location ≠ some .directory := by
    intro directory
    exact targetFree ((congrFun removed location).mp directory)
  obtain ⟨parent, -, -, inDirectory⟩ := of_locate_pathIn target
  refine ⟨origin, location, isPrivate, getLast?_of_locate_draft located, ?_, located,
    (Disk.locate_congr grown _ _).mp target, ?_, rfl⟩
  · rw [inDirectory, List.getLast?_concat]
  · exact (Disk.directories_put stillFree _ _).trans (removed.trans grown)

theorem of_save {directory : String} {info : InfoFile} {before after : Volume}
    (saved : (save (pathIn directory) info).Returns before () after) :
    after.disk.directories = before.disk.directories ∧
      ∃ location, before.disk.locate (pathIn directory) = .ok location ∧
        after.disk.content? location = some info.encode ∧
          ∀ other, other ≠ location →
            after.filesNamed fileName other = before.filesNamed fileName other := by
  obtain ⟨draft, location, isPrivate, draftNamed, named, -, target, same, moved⟩ :=
    moved_of_save saved
  have belowTarget : location ≠ [] := by
    rintro rfl
    cases named
  refine ⟨same, location, target, ?_, ?_⟩
  · rw [moved, Disk.content?_put_file belowTarget]
  · intro other apart
    rw [Volume.filesNamed, moved, Disk.filesNamed, Disk.content?_put_of_ne apart]
    unfold Volume.filesNamed Disk.filesNamed
    split
    · rename_i otherNamed
      have notDraft : other ≠ draft := by
        rintro rfl
        rw [draftNamed] at otherNamed
        exact absurd otherNamed (by decide)
      rw [Disk.content?_congr (Disk.node?_remove_of_ne notDraft _),
        Disk.content?_put_of_ne notDraft]
    · rfl

/-- Before the last step no info file is touched, and the last step does nothing when it
stops. -/
theorem keepsOnStop_save (directory : String) (info : InfoFile) :
    (save (pathIn directory) info).KeepsOnStop (Volume.filesNamed fileName) := by
  have draft := Volume.keeps_take (spares_draft directory info.encode)
  refine draft.bind_onStop fun _ => ?_
  refine KeepsOnStop.bind_unfailing ?_ fun _ => unfailing_pure ()
  intro before stop after stopped
  rw [Volume.keeps_of_stops_take stopped]

/-- The draft and the info file are all that saving touches. -/
theorem keeps_save {name : String} (notDraft : draftName ≠ name) (other : fileName ≠ name)
    (directory : String) (info : InfoFile) :
    (save (pathIn directory) info).Keeps (Volume.filesNamed name) := by
  have drafted : (Step.write (draftPath (pathIn directory)) info.encode).Spares name :=
    ⟨_, draftName, plain_draftName, notDraft, names_draftPath directory⟩
  have moves : (Volume.take (.rename (draftPath (pathIn directory)) (pathIn directory))).Keeps
      (Volume.filesNamed name) := by
    intro volume
    unfold Volume.take
    cases applied : (Step.rename (draftPath (pathIn directory)) (pathIn directory)).apply
      volume.disk with
    | error fault => rfl
    | ok after =>
      obtain ⟨origin, node, location, source, -, target, -, rfl⟩ := Disk.of_rename applied
      obtain ⟨parent, -, -, rfl⟩ := of_locate_pathIn target
      have apart : origin.getLast? ≠ some name := by
        rw [getLast?_of_locate_draft source]
        simpa using notDraft
      have elsewhere : (parent ++ [fileName]).getLast? ≠ some name := by
        simpa using other
      exact (Disk.filesNamed_put elsewhere _ _).trans (Disk.filesNamed_remove apart _)
  exact (Volume.keeps_take drafted).bind fun _ => moves.bind fun _ => keeps_pure _ ()

/-! ### Info files before and after -/

def Stands (path : String) (info : InfoFile) (disk : Disk) : Prop :=
  ∃ content, disk.readFile path = .ok content ∧ decode content = .ok info

/-- The path leads to an info file as it is written, and all other ones are as they were. -/
structure Placed (path : String) (info : InfoFile) (before after : Disk) : Prop where
  holds : after.readFile path = .ok info.encode
  reads : decode info.encode = .ok info
  others : ∀ location, after.locate path ≠ .ok location →
    after.filesNamed fileName location = before.filesNamed fileName location

/-- An info file took the place of another one. -/
structure Replaced (path : String) (old new : InfoFile) (before after : Disk) : Prop
    extends Placed path new before after where
  stood : Stands path old before
  inPlace : ∀ location, after.locate path = .ok location ↔ before.locate path = .ok location

/-- An info file was made for a directory.  Nothing was where it stands now if the
directory was there, or if the path of the directory never leads outwards. -/
structure Created (directory : String) (info : InfoFile) (before after : Disk) : Prop
    extends Placed (pathIn directory) info before after where
  absent : before.holds (pathIn directory) = false
  fresh : (before.holds directory = true ∨ before.IsTree ∧ ".." ∉ Path.names directory) →
    ∀ location, after.locate (pathIn directory) = .ok location → before.node? location = none

theorem placed_of_save {directory : String} {info : InfoFile} {before after : Volume}
    (reads : decode info.encode = .ok info)
    (saved : (save (pathIn directory) info).Returns before () after) :
    Placed (pathIn directory) info before.disk after.disk := by
  obtain ⟨same, location, located, held, others⟩ := of_save saved
  have stays := (Disk.locate_congr same _ _).mpr located
  refine ⟨Disk.readFile_eq_ok.mpr ⟨location, stays, held⟩, reads, ?_⟩
  intro other elsewhere
  apply others
  rintro rfl
  exact elsewhere stays

section Frames

variable {path : String} {info : InfoFile} {before after : Disk}

/-- What happens before to other files alone changes nothing of it. -/
theorem Placed.of_earlier {earlier : Disk} (placed : Placed path info before after)
    (same : before.filesNamed fileName = earlier.filesNamed fileName) :
    Placed path info earlier after := by
  refine ⟨placed.holds, placed.reads, fun location elsewhere => ?_⟩
  rw [placed.others location elsewhere, same]

/-- What happens later to other files alone changes nothing of it. -/
theorem Placed.later {directory : String} {later : Disk}
    (placed : Placed (pathIn directory) info before after)
    (sameDirectories : later.directories = after.directories)
    (sameFiles : later.filesNamed fileName = after.filesNamed fileName) :
    Placed (pathIn directory) info before later := by
  have leads := Disk.locate_congr sameDirectories (pathIn directory)
  refine ⟨?_, placed.reads, ?_⟩
  · obtain ⟨location, located, held⟩ := Disk.readFile_eq_ok.mp placed.holds
    obtain ⟨parent, -, -, rfl⟩ := of_locate_pathIn located
    have named := congrFun sameFiles (parent ++ [fileName])
    simp only [Disk.filesNamed, List.getLast?_concat, if_true] at named
    refine Disk.readFile_eq_ok.mpr ⟨_, (leads _).mpr located, ?_⟩
    rw [named, held]
  · intro location elsewhere
    have apart : after.locate (pathIn directory) ≠ .ok location := by
      intro located
      exact elsewhere ((leads location).mpr located)
    rw [congrFun sameFiles location, placed.others location apart]

end Frames

/-- Where a path that never leads outwards leads once more directories were made, there
was nothing if it led to nothing before. -/
theorem free_of_inner {directory : String} {before after : Disk} {location : Location}
    (tree : before.IsTree) (inner : ".." ∉ Path.names directory)
    (absent : before.holds (pathIn directory) = false)
    (located : after.locate (pathIn directory) = .ok location) :
    before.node? location = none := by
  have checked := (Disk.locate_eq_ok.mp located).1
  obtain ⟨parent, toParent, -, rfl⟩ := of_locate_pathIn located
  by_contra standing
  have isDirectory := tree parent fileName standing
  have short : ¬ Disk.nameLimit < fileName.utf8ByteSize := by decide
  have walked : before.walk [] (Path.steps (pathIn directory)) = .ok (parent ++ [fileName]) := by
    rw [steps_pathIn, Disk.walk_append (tree.walk inner isDirectory toParent), Disk.walk,
      isDirectory]
    simp only [if_neg short, Disk.walk, follow_fileName]
  exact standing (Disk.holds_eq_false.mp absent _ (Disk.locate_eq_ok.mpr ⟨checked, walked⟩))

end Keywarden.InfoFile
