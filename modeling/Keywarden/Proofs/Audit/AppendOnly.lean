import Keywarden.Proofs.Audit.Store
import Keywarden.Proofs.Disk.Direct

/-!
# Trails in a database that appends

What a trail needs of its database is a table that keeps its records in their order and takes
further ones at its end, under greater and greater numbers.  Where the directory of a repository
is there and such a database can be used in it, the trail is opened, added to and read without a
failure.
-/

namespace Keywarden.Audit

open Keywarden.Action

def Answers {α : Type} (request : Request α) (before : Files) (value : α) (after : Files) : Prop :=
  request before = (.ok value, after)

theorem Answers.bind {α β : Type} {first : Request α} {next : α → Request β}
    {before between after : Files} {value : α} {result : β}
    (front : Answers first before value between) (rest : Answers (next value) between result after) :
    Answers (first >>= next) before result after := by
  unfold Answers at front
  change ExceptT.bindCont next (first before).1 (first before).2 = _
  rw [front]
  exact rest

/-- Each record has a greater number than all before it. -/
def Record.Increasing (records : List Record) : Prop :=
  records.Pairwise fun first second => first.number < second.number

/-- How far a database is made ready. -/
inductive Stage
  | stored
  | connected
  | begun

/-- The database keeps a table of records, with room for more of them, in files that can be used at
admitted paths.  Once the table is begun, a record that is inserted follows all others under a
greater number, and nothing else changes the records. -/
structure Database.AppendOnly (database : Database) (admits : String → Prop)
    (Keeps : Stage → Nat → List Record → Files → Prop) : Prop where
  files : ∀ {stage room records files}, Keeps stage room records files →
    ∀ part, files part ≠ .directory
  increasing : ∀ {stage room records files}, Keeps stage room records files →
    Record.Increasing records
  few : ∀ {stage room records files}, Keeps stage room records files →
    records.length ≤ selectionLimit
  less : ∀ {stage room records files}, Keeps stage (room + 1) records files →
    Keeps stage room records files
  stored : ∀ {stage room records files}, Keeps stage room records files →
    Keeps .stored room records files
  connect : ∀ {room records files path way}, admits path →
    (∀ place ∈ way, place = .ok .directory) → Keeps .stored room records files →
      ∃ after, Answers (database.connect path way) files () after ∧
        Keeps .connected room records after
  createTable : ∀ {room records files}, Keeps .connected room records files →
    ∃ after, Answers database.createTable files () after ∧ Keeps .begun room records after
  insert : ∀ {room records files} (time : String) (event : Event),
    Keeps .begun (room + 1) records files → ∃ number after,
      Answers (database.insert time event) files () after ∧
        Keeps .begun room (records ++ [⟨number, time, event⟩]) after
  prepare : ∀ {room records files}, Keeps .begun room records files →
    ∃ after, Answers database.prepare files () after ∧ Keeps .begun room records after
  select : ∀ {room records files limit}, limit ≤ selectionLimit →
    Keeps .begun room records files →
      ∃ after, Answers (database.select limit) files (Record.greatest limit records) after ∧
        Keeps .begun room records after

/-- Under increasing numbers the records with the greatest ones are the last. -/
theorem Record.greatest_eq {records : List Record} (increasing : Increasing records) (limit : Nat) :
    greatest limit records = records.reverse.take limit := by
  have distinct : (records.map number).Nodup := List.pairwise_map.mpr (increasing.imp Int.ne_of_lt)
  have sorted : (records.mergeSort fun left right => right.number ≤ left.number).Pairwise
      fun left right => decide (right.number ≤ left.number) = true := by
    apply List.pairwise_mergeSort
    · intro left middle right first second
      simp only [decide_eq_true_eq] at first second ⊢
      omega
    · intro left right
      simp only [Bool.or_eq_true, decide_eq_true_eq]
      omega
  have reversed : records.reverse.Pairwise
      fun left right => decide (right.number ≤ left.number) = true := by
    refine List.pairwise_reverse.mpr (increasing.imp fun less => ?_)
    exact decide_eq_true (Int.le_of_lt less)
  have permuted : (records.mergeSort fun left right => right.number ≤ left.number).Perm
      records.reverse := (List.mergeSort_perm _ _).trans (List.reverse_perm records).symm
  refine congrArg (List.take limit) (permuted.eq_of_pairwise ?_ sorted reversed)
  intro left right leftListed rightListed first second
  rw [List.mem_mergeSort] at leftListed
  rw [List.mem_reverse] at rightListed
  simp only [decide_eq_true_eq] at first second
  exact List.inj_on_of_nodup_map distinct leftListed rightListed (Int.le_antisymm second first)

/-! ### Files that are left -/

def Standing.ofContent : Option Bytes → Standing
  | none => .nothing
  | some content => .file content

theorem Standing.ofContent_content? {standing : Standing} (file : standing ≠ .directory) :
    ofContent standing.content? = standing := by
  cases standing with
  | nothing => rfl
  | directory => exact absurd rfl file
  | file content => rfl

section Within

variable {home : Location} {disk other : Disk}

theorem within_eq_directory {part : Part} :
    Files.within home disk part = .directory ↔
      disk.node? (part.placeIn home) = some .directory := by
  unfold Files.within
  cases disk.node? (part.placeIn home) with
  | none => simp [Standing.ofNode]
  | some node => cases node <;> simp [Standing.ofNode]

theorem within_eq_ofContent {part : Part}
    (free : disk.node? (part.placeIn home) ≠ some .directory) :
    Files.within home disk part = .ofContent (disk.content? (part.placeIn home)) := by
  unfold Files.within Disk.content?
  cases standing : disk.node? (part.placeIn home) with
  | none => rfl
  | some node =>
    cases node with
    | directory => exact absurd standing free
    | file isPrivate content => rfl

/-- Files of the same content are the same database, if no directory is in the place of one. -/
theorem within_congr
    (same : ∀ part : Part, other.filesNamed part.fileName = disk.filesNamed part.fileName)
    (before : ∀ part, Files.within home disk part ≠ .directory)
    (after : ∀ part, Files.within home other part ≠ .directory) :
    Files.within home other = Files.within home disk := by
  funext part
  have content := congrFun (same part) (part.placeIn home)
  simp only [Disk.filesNamed, part.getLast?_placeIn, if_true] at content
  rw [within_eq_ofContent (mt within_eq_directory.mpr (after part)),
    within_eq_ofContent (mt within_eq_directory.mpr (before part)), content]

private theorem within_takeAll {parts : List Part} {files : Files} {before after : Volume}
    (plain : ∀ part, files part ≠ .directory)
    (taken : (Volume.takeAll (parts.map fun part =>
      .replace (part.placeIn home) (files part).content?)).Returns before () after)
    (around : before.disk.node? home = some .directory)
    (free : ∀ part, Files.within home before.disk part ≠ .directory) :
    after.disk.directories = before.disk.directories ∧ ∀ part,
      Files.within home after.disk part =
        if part ∈ parts then files part else Files.within home before.disk part := by
  induction parts generalizing before with
  | nil =>
    obtain ⟨-, rfl⟩ := returns_pure.mp taken
    exact ⟨rfl, fun part => by simp⟩
  | cons first rest ih =>
    obtain ⟨_, between, replaced, taken⟩ := returns_bind.mp taken
    obtain ⟨disk, applied, rfl⟩ := Volume.returns_take.mp replaced
    cases applied
    have sameDirectories := Disk.directories_replace (first.placeIn home) (files first).content?
      before.disk
    have stillAround := (congrFun sameDirectories home).mpr around
    have stillFree (part : Part) : Files.within home
        (before.disk.replace (first.placeIn home) (files first).content?) part ≠ .directory := by
      rw [Ne, within_eq_directory, ← Disk.directories, sameDirectories, Disk.directories,
        ← within_eq_directory]
      exact free part
    obtain ⟨same, left⟩ := ih taken stillAround stillFree
    refine ⟨same.trans sameDirectories, fun part => ?_⟩
    rw [left part]
    by_cases later : part ∈ rest
    · rw [if_pos later, if_pos (List.mem_cons_of_mem _ later)]
    · rw [if_neg later]
      by_cases here : part = first
      · subst here
        have outer : before.disk.node? (part.placeIn home).dropLast = some .directory := by
          rwa [part.dropLast_placeIn]
        rw [if_pos List.mem_cons_self,
          within_eq_ofContent (mt within_eq_directory.mpr (stillFree part)),
          Disk.content?_replace (mt within_eq_directory.mpr (free part)) outer,
          Standing.ofContent_content? (plain part)]
      · have elsewhere : part.placeIn home ≠ first.placeIn home := fun same =>
          here (Part.placeIn_injective same).2
        rw [if_neg (by simp [here, later]), Files.within, Files.within,
          Disk.node?_replace_of_ne elsewhere]

/-- Where the directory is there, a request finds the files as an earlier one left them. -/
theorem exists_ask {α : Type} {request : Request α} {value : α} {files : Files} {volume : Volume}
    (around : volume.disk.node? home = some .directory)
    (free : ∀ part, Files.within home volume.disk part ≠ .directory)
    (answered : Answers request (.within home volume.disk) value files)
    (plain : ∀ part, files part ≠ .directory) :
    ∃ after, (ask home request).Returns volume (.ok value) after ∧
      Files.within home after.disk = files ∧ after.disk.directories = volume.disk.directories := by
  have returned {after : Volume} (left : (leave home files).Returns volume () after) :
      (ask home request).Returns volume (.ok value) after := by
    refine returns_bind.mpr ⟨volume, volume, rfl, ?_⟩
    rw [answered]
    exact returns_bind.mpr ⟨(), after, left, returns_pure.mpr ⟨rfl, rfl⟩⟩
  rcases returns_or_stops (leave home files) volume with ⟨_, after, left⟩ | ⟨stop, after, stopped⟩
  · obtain ⟨same, found⟩ := within_takeAll plain left around free
    refine ⟨after, returned left, funext fun part => ?_, same⟩
    rw [found part, if_pos part.mem_all]
  · exact (unfailing_leave home files volume stop after stopped).elim

end Within

/-! ### Using a trail -/

/-- The directory of a repository is there, and its path is short enough to be followed however it
is written. -/
structure Found (directory : String) (disk : Disk) : Prop where
  usable : Path.isUsable directory = true
  short : directory.utf8ByteSize + 2 ≤ Disk.pathLimit
  walked : disk.walk [] (Path.names directory) = .ok (homeOf directory)
  standing : disk.node? (homeOf directory) = some .directory

section Using

variable {database : Database} {admits : String → Prop}
  {Keeps : Stage → Nat → List Record → Files → Prop} {directory : String} {volume : Volume}
  {room : Nat} {records : List Record}

theorem Found.congr {disk other : Disk} (found : Found directory disk)
    (same : other.directories = disk.directories) : Found directory other where
  usable := found.usable
  short := found.short
  walked := Disk.walk_congr same.symm found.walked
  standing := (congrFun same _).mpr found.standing

theorem Found.way {disk : Disk} (found : Found directory disk) :
    ∀ place ∈ wayTo directory disk, place = .ok .directory := by
  intro place member
  obtain ⟨location, listed, rfl⟩ := List.mem_map.mp member
  exact Disk.lookUp_along found.usable found.short found.walked found.standing location listed

variable (lawful : database.AppendOnly admits Keeps) (found : Found directory volume.disk)
include lawful found

/-- An answer that leaves the table in a state is found in it. -/
theorem exists_ask_keeps {α : Type} {request : Request α} {value : α} {files : Files}
    {stage later : Stage} {other : Nat} {others : List Record}
    (kept : Keeps stage room records (.within (homeOf directory) volume.disk))
    (answered : Answers request (.within (homeOf directory) volume.disk) value files)
    (left : Keeps later other others files) :
    ∃ after, (ask (homeOf directory) request).Returns volume (.ok value) after ∧
      Found directory after.disk ∧
      Keeps later other others (.within (homeOf directory) after.disk) := by
  obtain ⟨after, returned, same, directories⟩ :=
    exists_ask found.standing (lawful.files kept) answered (lawful.files left)
  exact ⟨after, returned, found.congr directories, same ▸ left⟩

/-- A trail is opened, and begun where there is none. -/
theorem returns_openTrail (admitted : admits (pathIn directory))
    (kept : Keeps .stored room records (.within (homeOf directory) volume.disk)) :
    ∃ after, (openTrail database directory).Returns volume (some (homeOf directory)) after ∧
      Found directory after.disk ∧
      Keeps .begun room records (.within (homeOf directory) after.disk) := by
  obtain ⟨files, answered, left⟩ := lawful.connect admitted found.way kept
  obtain ⟨connected, connecting, found, kept⟩ := exists_ask_keeps lawful found kept answered left
  obtain ⟨attempted, restricted, restricting⟩ : ∃ attempted restricted,
      (attempt (Volume.take (.restrict (pathIn directory)))).Returns connected attempted
        restricted := by
    rcases returns_or_stops (attempt (Volume.take (.restrict (pathIn directory)))) connected with
      returned | ⟨stop, after, stopped⟩
    · exact returned
    · exact ((Volume.reports_take _).unfailing_attempt connected stop after stopped).elim
  have outline (name : String) : restricted.outline name = connected.outline name := by
    have spares : (Step.restrict (pathIn directory)).Spares name := trivial
    exact (Volume.keeps_outline_take spares fun _ => nofun).attempt.of_returns restricting
  have directories : restricted.disk.directories = connected.disk.directories :=
    congrArg Prod.fst (outline "")
  have free (part : Part) : Files.within (homeOf directory) restricted.disk part ≠ .directory := by
    rw [Ne, within_eq_directory, ← Disk.directories, directories, Disk.directories,
      ← within_eq_directory]
    exact lawful.files kept part
  have same := within_congr (fun part => congrArg Prod.snd (outline part.fileName))
    (lawful.files kept) free
  rw [← same] at kept
  obtain ⟨_, answered, left⟩ := lawful.createTable kept
  obtain ⟨after, creating, found, begun⟩ :=
    exists_ask_keeps lawful (found.congr directories) kept answered left
  refine ⟨after, ?_, found, begun⟩
  refine returns_bind.mpr ⟨volume, volume, rfl, returns_bind.mpr ⟨_, connected, connecting, ?_⟩⟩
  exact returns_bind.mpr ⟨attempted, restricted, restricting, returns_bind.mpr
    ⟨_, after, creating, returns_pure.mpr ⟨rfl, rfl⟩⟩⟩

theorem returns_noted (admitted : admits (pathIn directory))
    (kept : Keeps .stored (room + 1) records (.within (homeOf directory) volume.disk))
    (time : Instant) (event : Event) :
    ∃ number after, (note database directory time event).Returns volume () after ∧
      Keeps .stored room (records ++ [⟨number, time.stored, event⟩])
        (.within (homeOf directory) after.disk) := by
  obtain ⟨opened, opening, found, begun⟩ := returns_openTrail lawful found admitted kept
  obtain ⟨number, _, answered, left⟩ := lawful.insert time.stored event begun
  obtain ⟨after, inserting, -, grown⟩ := exists_ask_keeps lawful found begun answered left
  exact ⟨number, after, returns_bind.mpr ⟨_, opened, opening, returns_bind.mpr
    ⟨_, after, inserting, returns_pure.mpr ⟨rfl, rfl⟩⟩⟩, lawful.stored grown⟩

/-- The last records are shown, the newest first. -/
theorem returns_query (begun : Keeps .begun room records (.within (homeOf directory) volume.disk))
    (limit : Nat) :
    ∃ after, (query database (homeOf directory) limit).Returns volume (records.reverse.take limit)
        after ∧ Keeps .stored room records (.within (homeOf directory) after.disk) := by
  have few := lawful.few begun
  have shown : Record.greatest (min limit selectionLimit) records =
      records.reverse.take limit := by
    rw [Record.greatest_eq (lawful.increasing begun), List.take_eq_take_iff, List.length_reverse]
    omega
  obtain ⟨_, answered, left⟩ := lawful.prepare begun
  obtain ⟨prepared, preparing, found, begun⟩ := exists_ask_keeps lawful found begun answered left
  obtain ⟨_, answered, left⟩ := lawful.select (Nat.min_le_right limit selectionLimit) begun
  obtain ⟨after, selecting, -, begun⟩ := exists_ask_keeps lawful found begun answered left
  refine ⟨after, returns_bind.mpr ⟨_, prepared, preparing, returns_bind.mpr
    ⟨_, after, selecting, ?_⟩⟩, lawful.stored begun⟩
  exact returns_pure.mpr ⟨shown, rfl⟩

end Using

end Keywarden.Audit
