import Keywarden.Proofs.Action.Inherited
import Keywarden.Proofs.Disk

/-!
# Files of one name

What the steps on a disk do to the files of a name, wherever they stand.  Making
directories and protecting files changes no content; writing and creating change it at one
location, whose last name is that of the path.  A step that makes no directory leaves
every path leading where it led.
-/

namespace Keywarden

namespace Disk

/-- What the files of a name hold, wherever they stand. -/
def filesNamed (name : String) (disk : Disk) (location : Location) : Option Bytes :=
  if location.getLast? = some name then disk.content? location else none

theorem filesNamed_congr {name : String} {disk other : Disk}
    (same : ∀ location, location.getLast? = some name →
      other.content? location = disk.content? location) :
    other.filesNamed name = disk.filesNamed name := by
  funext location
  unfold filesNamed
  split
  · exact same location ‹_›
  · rfl

theorem filesNamed_put {name : String} {location : Location}
    (elsewhere : location.getLast? ≠ some name) (disk : Disk) (node : Node) :
    (disk.put location node).filesNamed name = disk.filesNamed name := by
  apply filesNamed_congr
  intro other named
  apply content?_put_of_ne
  rintro rfl
  exact elsewhere named

theorem filesNamed_remove {name : String} {location : Location}
    (elsewhere : location.getLast? ≠ some name) (disk : Disk) :
    (disk.remove location).filesNamed name = disk.filesNamed name := by
  apply filesNamed_congr
  intro other named
  apply content?_congr
  apply node?_remove_of_ne
  rintro rfl
  exact elsewhere named

private theorem filesNamed_put_directory {location : Location} (name : String) {disk : Disk}
    (nothing : disk.node? location = none) :
    (disk.put location .directory).filesNamed name = disk.filesNamed name := by
  apply filesNamed_congr
  intro other named
  by_cases here : other = location
  · have below : location ≠ [] := by
      rintro rfl
      cases nothing
    rw [here, content?, content?, node?_put_self below, nothing]
  · exact content?_put_of_ne here _

private theorem filesNamed_put_private {location : Location} (name : String) {disk : Disk}
    {isPrivate : Bool} {content : Bytes}
    (standing : disk.node? location = some (.file isPrivate content)) :
    (disk.put location (.file true content)).filesNamed name = disk.filesNamed name := by
  apply filesNamed_congr
  intro other named
  by_cases here : other = location
  · have below : location ≠ [] := by
      rintro rfl
      cases standing
    rw [here, content?_put_file below, content?, standing]
  · exact content?_put_of_ne here _

end Disk

/-- The step makes or changes no file of the name, and moves none. -/
def Step.Spares (name : String) : Step → Prop
  | .write path _ => ∃ front last, Path.Plain last ∧ last ≠ name ∧
      Path.names path = front ++ [last]
  | .create path _ => ∃ front last, Path.Plain last ∧ last ≠ name ∧
      Path.steps path = front ++ [last]
  | .makeDirectory _ => True
  | .rename _ _ => False
  | .restrict _ => True
  | .replace location _ => location.getLast? ≠ some name

theorem Step.Spares.filesNamed_eq {name : String} {step : Step} (spares : step.Spares name)
    {disk after : Disk} (applied : step.apply disk = .ok after) :
    after.filesNamed name = disk.filesNamed name := by
  cases step with
  | write path content =>
    obtain ⟨front, last, plain, other, path⟩ := spares
    obtain ⟨slashless, location, isPrivate, located, -, rfl⟩ := Disk.of_write applied
    have walked := (Disk.locate_eq_ok.mp located).2
    rw [Path.steps, slashless, if_neg Bool.false_ne_true, path] at walked
    obtain ⟨directory, -, rfl⟩ := Disk.walk_plain plain walked
    exact Disk.filesNamed_put (by simpa using other) disk _
  | create path content =>
    obtain ⟨front, last, plain, other, path⟩ := spares
    obtain ⟨location, located, -, rfl⟩ := Disk.of_create applied
    have walked := (Disk.locate_eq_ok.mp located).2
    rw [path] at walked
    obtain ⟨directory, -, rfl⟩ := Disk.walk_plain plain walked
    exact Disk.filesNamed_put (by simpa using other) disk _
  | makeDirectory path =>
    obtain ⟨location, nothing, rfl⟩ := Disk.of_makeDirectory applied
    exact Disk.filesNamed_put_directory name nothing
  | rename source target => exact spares.elim
  | restrict path =>
    rcases Disk.of_restrict applied with rfl | ⟨location, isPrivate, content, -, standing, rfl⟩
    · rfl
    · exact Disk.filesNamed_put_private name standing
  | replace location content =>
    cases applied
    rcases Disk.replace_cases location content disk with same | ⟨isPrivate, held, -, -, -, written⟩ |
      ⟨-, -, -, removed⟩
    · rw [same]
    · rw [written]
      exact Disk.filesNamed_put spares disk _
    · rw [removed]
      exact Disk.filesNamed_remove spares disk

theorem Step.Spares.directories_eq {name : String} {step : Step} (spares : step.Spares name)
    (noDirectory : ∀ path, step ≠ .makeDirectory path) {disk after : Disk}
    (applied : step.apply disk = .ok after) : after.directories = disk.directories := by
  cases step with
  | write path content =>
    obtain ⟨-, location, isPrivate, -, free, rfl⟩ := Disk.of_write applied
    exact Disk.directories_put free isPrivate content
  | create path content =>
    obtain ⟨location, -, nothing, rfl⟩ := Disk.of_create applied
    exact Disk.directories_put (by simp [nothing]) true content
  | makeDirectory path => exact absurd rfl (noDirectory path)
  | rename source target => exact spares.elim
  | restrict path =>
    rcases Disk.of_restrict applied with rfl | ⟨location, isPrivate, content, -, standing, rfl⟩
    · rfl
    · exact Disk.directories_put (by simp [standing]) true content
  | replace location content =>
    cases applied
    exact Disk.directories_replace location content disk

/-! ### Actions on a volume -/

namespace Volume

open Keywarden.Action

def filesNamed (name : String) (volume : Volume) : Location → Option Bytes :=
  volume.disk.filesNamed name

/-- Where the directories of a volume are, and what the files of a name hold. -/
def outline (name : String) (volume : Volume) : (Location → Prop) × (Location → Option Bytes) :=
  (volume.disk.directories, volume.filesNamed name)

theorem keeps_examine {α γ : Type} (view : Volume → γ) (look : Disk → Except FileFault α) :
    (examine look).Keeps view := by
  intro volume
  unfold examine
  split <;> rfl

theorem of_returns_examine {α : Type} {look : Disk → Except FileFault α}
    {before after : Volume} {value : α}
    (returned : (examine look).Returns before value after) : look before.disk = .ok value := by
  unfold Returns examine at returned
  split at returned
  · rename_i found
    cases returned
    exact found
  · cases returned

private theorem reports_examine {α : Type} (look : Disk → Except FileFault α) :
    (examine look).Reports := by
  intro volume stop after stopped
  unfold Stops examine at stopped
  split at stopped
  · cases stopped
  · cases stopped
    exact ⟨_, rfl⟩

structure Looking (Holds : ∀ {α : Type}, Action Volume α → Prop) : Prop extends
    Inherited Holds where
  get : Holds (MonadState.get : Action Volume Volume)
  examine : ∀ {α : Type} (look : Disk → Except FileFault α), Holds (Volume.examine look)

theorem looking_keeps {γ : Type} (view : Volume → γ) :
    Looking fun action => action.Keeps view where
  toInherited := inherited_keeps view
  get := keeps_get view
  examine := keeps_examine view

theorem looking_reports : Looking fun action => action.Reports where
  toInherited := inherited_reports
  get := unfailing_get.reports
  examine := reports_examine

theorem returns_take {step : Step} {before after : Volume} {value : Unit} :
    (take step).Returns before value after ↔
      ∃ disk, step.apply before.disk = .ok disk ∧ after = ⟨disk, step :: before.journal⟩ := by
  unfold Returns take
  cases applied : step.apply before.disk with
  | error fault =>
    constructor
    · intro returned
      cases returned
    · rintro ⟨disk, other, -⟩
      cases other
  | ok disk =>
    constructor
    · intro returned
      cases returned
      exact ⟨disk, rfl, rfl⟩
    · rintro ⟨other, same, rfl⟩
      cases same
      rfl

theorem keeps_of_stops_take {step : Step} {before after : Volume} {stop : Stop}
    (stopped : (take step).Stops before stop after) : after = before := by
  unfold Stops take at stopped
  split at stopped
  · cases stopped
  · cases stopped
    rfl

theorem keeps_take {name : String} {step : Step} (spares : step.Spares name) :
    (take step).Keeps (filesNamed name) := by
  intro volume
  unfold take
  cases applied : step.apply volume.disk with
  | error fault => rfl
  | ok disk => exact spares.filesNamed_eq applied

theorem keeps_outline_take {name : String} {step : Step} (spares : step.Spares name)
    (noDirectory : ∀ path, step ≠ .makeDirectory path) :
    (take step).Keeps (outline name) := by
  intro volume
  unfold take
  cases applied : step.apply volume.disk with
  | error fault => rfl
  | ok disk =>
    exact Prod.ext (spares.directories_eq noDirectory applied) (spares.filesNamed_eq applied)

theorem reports_take (step : Step) : (take step).Reports := by
  intro volume stop after stopped
  unfold Stops take at stopped
  split at stopped
  · cases stopped
  · cases stopped
    exact ⟨_, rfl⟩

/-! ### Making directories -/

section Making

variable {Holds : ∀ {α : Type}, Action Volume α → Prop} (looking : Looking Holds)
include looking

private theorem holds_unlessDirectory (path : String) (made : Except Failure Unit) :
    Holds (unlessDirectory path made) := by
  cases made with
  | ok _ => exact looking.pure ()
  | error failure =>
    refine looking.bind looking.get fun volume => ?_
    split
    · exact looking.pure ()
    · exact looking.fail failure

variable (makes : ∀ path, Holds (take (.makeDirectory path)))
include makes

/-- What holds of looking and of making one directory holds of making as many as are missing. -/
theorem holds_makeAlong (names : List String) : Holds (makeAlong names) := by
  have make (path : String) : Holds (attempt (take (.makeDirectory path))) :=
    looking.attempt (makes path)
  rw [makeAlong]
  refine looking.bind (make _) fun made => ?_
  split
  · split
    · exact looking.fail _
    · rename_i named
      exact looking.bind (holds_makeAlong (Path.parentNames names)) fun _ =>
        looking.bind (make _) fun again => holds_unlessDirectory looking _ again
  · exact holds_unlessDirectory looking _ made
termination_by names.length
decreasing_by exact Path.length_parentNames_lt ‹_›

theorem holds_makeDirectories (path : String) : Holds (makeDirectories path) :=
  looking.bind (looking.examine _) fun _ => holds_makeAlong looking makes (Path.names path)

end Making

/-- Making directories changes no content. -/
theorem keeps_makeDirectories (name path : String) :
    (makeDirectories path).Keeps (filesNamed name) := by
  have spares (path : String) : (Step.makeDirectory path).Spares name := trivial
  exact holds_makeDirectories (looking_keeps _) (fun path => keeps_take (spares path)) path

end Volume

end Keywarden
