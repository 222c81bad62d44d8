import Keywarden.Proofs.InfoFile.Store

/-!
# Saves that are interrupted

A save writes a draft beside the info file and moves it to its place.  The machine may stop
between the two steps or within the first one, and a step may fail for reasons that no disk
shows.  Whatever happens, the place holds all of the old file until it holds all of the new one.
-/

namespace Keywarden

/-- What a step may leave when it breaks off.  Only a file that is written can be left half
done, with some first part of its content. -/
inductive Step.BreaksOff (before : Disk) : Step → Disk → Prop
  | undone (step : Step) : BreaksOff before step before
  | begun {path : String} {content part : Bytes} {after : Disk} (first : part <+: content)
      (written : before.write path part = .ok after) : BreaksOff before (.write path content) after

/-- What steps in a row may leave when they are interrupted: some of them were taken, and the
next one broke off. -/
inductive Disk.Interrupted : List Step → Disk → Disk → Prop
  | broken {step : Step} {rest : List Step} {before after : Disk}
      (breaks : step.BreaksOff before after) : Interrupted (step :: rest) before after
  | later {step : Step} {rest : List Step} {before between after : Disk}
      (taken : step.apply before = .ok between) (interrupted : Interrupted rest between after) :
      Interrupted (step :: rest) before after

/-- Steps of which one fails are interrupted there. -/
theorem Volume.interrupted_of_stops {steps : List Step} {before after : Volume} {stop : Stop}
    (stopped : (takeAll steps).Stops before stop after) :
    Disk.Interrupted steps before.disk after.disk := by
  induction steps generalizing before with
  | nil => exact (Action.not_stops_pure stopped).elim
  | cons step rest ih =>
    rcases Action.stops_bind.mp stopped with failed | ⟨_, between, returned, stopped⟩
    · rw [keeps_of_stops_take failed]
      exact .broken (.undone step)
    · obtain ⟨disk, taken, rfl⟩ := returns_take.mp returned
      exact .later taken (ih stopped)

namespace InfoFile

open Keywarden.Action

/-- The info file of a directory is what it was, and so is everything but its draft. -/
structure Spared (directory : String) (before after : Disk) : Prop where
  sameHolds : after.holds (pathIn directory) = before.holds (pathIn directory)
  sameContent : ∀ content, after.readFile (pathIn directory) = .ok content ↔
    before.readFile (pathIn directory) = .ok content
  others : ∀ location, before.locate (draftPath (pathIn directory)) ≠ .ok location →
    after.node? location = before.node? location

/-- The info file of a directory was replaced by another one, and nothing else is different but
for the draft, which is gone. -/
structure Exchanged (directory : String) (info : InfoFile) (before after : Disk) : Prop where
  content : after.readFile (pathIn directory) = .ok info.encode
  draftGone : after.holds (draftPath (pathIn directory)) = false
  others : ∀ location, after.locate (pathIn directory) ≠ .ok location →
    after.locate (draftPath (pathIn directory)) ≠ .ok location →
      after.node? location = before.node? location

variable {directory : String} {info : InfoFile}

theorem Spared.refl (directory : String) (disk : Disk) : Spared directory disk disk :=
  ⟨rfl, fun _ => Iff.rfl, fun _ _ => rfl⟩

/-- Where a path leads the same way to the same thing, it holds the same. -/
theorem holds_congr {disk other : Disk} {path : String}
    (leads : ∀ location, other.locate path = .ok location ↔ disk.locate path = .ok location)
    (same : ∀ location, disk.locate path = .ok location →
      other.node? location = disk.node? location) : other.holds path = disk.holds path := by
  have absent : other.holds path = false ↔ disk.holds path = false := by
    rw [Disk.holds_eq_false, Disk.holds_eq_false]
    constructor
    · intro nothing location located
      rw [← same location located]
      exact nothing location ((leads location).mpr located)
    · intro nothing location located
      have located := (leads location).mp located
      rw [same location located]
      exact nothing location located
  cases held : disk.holds path with
  | false => exact absent.mpr held
  | true =>
    by_contra missing
    rw [Bool.not_eq_true] at missing
    rw [absent.mp missing] at held
    cases held

/-- Whatever is written as the draft, the info file does not show it. -/
theorem spared_of_draft {content : Bytes} {before after : Disk}
    (written : before.write (draftPath (pathIn directory)) content = .ok after) :
    Spared directory before after := by
  have grown : after.directories = before.directories := by
    apply (spares_draft directory content).directories_eq _ written
    intro path same
    cases same
  have leads := Disk.locate_congr grown (pathIn directory)
  obtain ⟨-, draft, isPrivate, located, free, rfl⟩ := Disk.of_write written
  have draftNamed := getLast?_of_locate_draft located
  have apart (location : Location) (target : before.locate (pathIn directory) = .ok location) :
      location ≠ draft := by
    obtain ⟨parent, -, -, rfl⟩ := of_locate_pathIn target
    rintro rfl
    rw [List.getLast?_concat] at draftNamed
    exact absurd draftNamed (by decide)
  refine ⟨?_, ?_, ?_⟩
  · apply holds_congr leads
    intro location target
    exact Disk.node?_put_of_ne (apart location target) _ _
  · intro found
    rw [Disk.readFile_eq_ok, Disk.readFile_eq_ok]
    constructor
    · rintro ⟨location, target, held⟩
      have target := (leads location).mp target
      rw [Disk.content?_put_of_ne (apart location target)] at held
      exact ⟨location, target, held⟩
    · rintro ⟨location, target, held⟩
      refine ⟨location, (leads location).mpr target, ?_⟩
      rw [Disk.content?_put_of_ne (apart location target), held]
  · intro location elsewhere
    apply Disk.node?_put_of_ne
    rintro rfl
    exact elsewhere located

/-- An interrupted save has at most begun or finished the draft. -/
theorem spared_of_interrupted {before after : Disk}
    (interrupted : Disk.Interrupted (savingSteps (pathIn directory) info) before after) :
    Spared directory before after := by
  cases interrupted with
  | broken breaks =>
    cases breaks with
    | undone => exact .refl directory before
    | begun first written => exact spared_of_draft written
  | later taken interrupted =>
    cases interrupted with
    | broken breaks =>
      cases breaks with
      | undone => exact spared_of_draft taken
    | later taken interrupted => cases interrupted

private theorem exchanged_of_save {before after : Volume}
    (saved : (save (pathIn directory) info).Returns before () after) :
    Exchanged directory info before.disk after.disk := by
  obtain ⟨draft, location, isPrivate, draftNamed, named, origin, target, same, moved⟩ :=
    moved_of_save saved
  have apart : draft ≠ location := by
    rintro rfl
    rw [draftNamed] at named
    exact absurd named (by decide)
  have belowTarget : location ≠ [] := by
    rintro rfl
    cases named
  have belowDraft : draft ≠ [] := by
    rintro rfl
    cases draftNamed
  have stays := (Disk.locate_congr same _ _).mpr target
  have draftStays := (Disk.locate_congr same _ _).mpr origin
  refine ⟨?_, ?_, ?_⟩
  · apply Disk.readFile_eq_ok.mpr
    refine ⟨location, stays, ?_⟩
    rw [moved, Disk.content?_put_file belowTarget]
  · apply Disk.holds_eq_false.mpr
    intro other located
    rw [draftStays] at located
    cases located
    rw [moved, Disk.node?_put_of_ne apart, Disk.node?_remove_self belowDraft]
  · intro other elsewhere notDraft
    have otherApart : other ≠ location := by
      rintro rfl
      exact elsewhere stays
    have otherDraft : other ≠ draft := by
      rintro rfl
      exact notDraft draftStays
    rw [moved, Disk.node?_put_of_ne otherApart, Disk.node?_remove_of_ne otherDraft,
      Disk.node?_put_of_ne otherDraft]

private theorem returns_load_of_exchanged {before : Disk} {after : Volume}
    (exchanged : Exchanged directory info before after.disk) (marked : info.app = appName)
    (saltShown : info.legacySalt ≠ some []) (hashShown : info.legacyHash ≠ some []) :
    (load (pathIn directory)).Returns after info after := by
  have found := exchanged.content
  have present : after.disk.holds (pathIn directory) = true := by
    by_contra missing
    rw [Bool.not_eq_true, Disk.holds_eq_false] at missing
    obtain ⟨location, located, held⟩ := Disk.readFile_eq_ok.mp found
    rw [Disk.content?, missing location located] at held
    cases held
  exact returns_load present found (decode_encode marked saltShown hashShown)

/-- A save happens as a whole or not at all.  Interrupted anywhere, or refused by the disk, it
leaves the info file as it was; done, it has put all of the new file there, removed its draft
and touched nothing else, and what was saved is what is loaded. -/
theorem save_all_or_nothing (directory : String) (info : InfoFile) (before : Volume) :
    (∀ after, Disk.Interrupted (savingSteps (pathIn directory) info) before.disk after →
      Spared directory before.disk after) ∧
    (∀ stop after, (save (pathIn directory) info).Stops before stop after →
      Disk.Interrupted (savingSteps (pathIn directory) info) before.disk after.disk ∧
        Spared directory before.disk after.disk) ∧
    ∀ after, (save (pathIn directory) info).Returns before () after →
      Exchanged directory info before.disk after.disk ∧
        (info.app = appName → info.legacySalt ≠ some [] → info.legacyHash ≠ some [] →
          (load (pathIn directory)).Returns after info after) := by
  refine ⟨fun after => spared_of_interrupted, ?_, ?_⟩
  · intro stop after stopped
    have interrupted := Volume.interrupted_of_stops stopped
    exact ⟨interrupted, spared_of_interrupted interrupted⟩
  · intro after saved
    have exchanged := exchanged_of_save saved
    exact ⟨exchanged, returns_load_of_exchanged exchanged⟩

/-! ### Directories with a stale draft and with something in the way -/

/-- An info file of the second version, and beside it a draft that somebody left. -/
def staleDisk : Disk where
  entries := [(["repo"], .directory),
    (["repo", "_info.json"], .file false (encode { empty with version := 2 })),
    (["repo", "._info.json.tmp"], .file true [1, 2, 3])]
  distinct := by simp
  shut := []

def blockedDisk : Disk where
  entries := [(["repo"], .directory), (["repo", "_info.json"], .directory)]
  distinct := by simp
  shut := []

/-- Broken off after three bytes the save leaves the old file; taken to its end it leaves the
new one, which is loaded again; and where a directory is in the way, nothing takes its place. -/
theorem save_over_stale :
    (∃ torn, Disk.Interrupted (savingSteps (pathIn "/repo") empty) staleDisk torn ∧
      torn.readFile "/repo/._info.json.tmp" = .ok (empty.encode.take 3) ∧
      Spared "/repo" staleDisk torn) ∧
    (∃ saved, (save (pathIn "/repo") empty).Returns (.ofDisk staleDisk) () saved ∧
      Exchanged "/repo" empty staleDisk saved.disk ∧
      (load (pathIn "/repo")).Returns saved empty saved) ∧
    ∃ left, (save (pathIn "/repo") empty).Stops (.ofDisk blockedDisk)
        (.failed (.io .isADirectory)) left ∧
      Spared "/repo" blockedDisk left.disk := by
  obtain ⟨crashes, -, succeeds⟩ := save_all_or_nothing "/repo" empty (.ofDisk staleDisk)
  refine ⟨?_, ?_, ?_⟩
  · have readBack : (staleDisk.write (draftPath (pathIn "/repo")) (empty.encode.take 3)).bind
        (·.readFile "/repo/._info.json.tmp") = .ok (empty.encode.take 3) := by decide +kernel
    cases written : staleDisk.write (draftPath (pathIn "/repo")) (empty.encode.take 3) with
    | error fault =>
      rw [written] at readBack
      cases readBack
    | ok torn =>
      rw [written] at readBack
      have interrupted : Disk.Interrupted (savingSteps (pathIn "/repo") empty) staleDisk torn :=
        .broken (.begun (List.take_prefix 3 _) written)
      exact ⟨torn, interrupted, readBack, crashes torn interrupted⟩
  · have succeeded : (save (pathIn "/repo") empty (.ofDisk staleDisk)).1 = .ok () := by
      decide +kernel
    rcases run : save (pathIn "/repo") empty (.ofDisk staleDisk) with ⟨outcome, saved⟩
    rw [run] at succeeded
    change outcome = .ok () at succeeded
    subst succeeded
    obtain ⟨exchanged, loads⟩ := succeeds saved run
    exact ⟨saved, run, exchanged, loads rfl nofun nofun⟩
  · obtain ⟨-, refuses, -⟩ := save_all_or_nothing "/repo" empty (.ofDisk blockedDisk)
    have refused : (save (pathIn "/repo") empty (.ofDisk blockedDisk)).1 =
        .error (.failed (.io .isADirectory)) := by decide +kernel
    rcases run : save (pathIn "/repo") empty (.ofDisk blockedDisk) with ⟨outcome, left⟩
    rw [run] at refused
    change outcome = .error (.failed (.io .isADirectory)) at refused
    subst refused
    exact ⟨left, run, (refuses _ left run).2⟩

end InfoFile

end Keywarden
