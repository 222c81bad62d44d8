import Keywarden.Proofs.Audit.Ledger
import Keywarden.Proofs.Command.Passive
import Mathlib.Data.List.ReduceOption

/-!
# The trail of a session

As long as the trail of a repository can be used, it is the history of the session: one record for
each command that succeeded in making, unlocking or changing the keys, in order, and nothing else.
-/

namespace Keywarden

open Keywarden.Action Machine

variable {σ : Type} {around : Surroundings σ} {place : Place}

/-! ### Trails and runs -/

namespace Commands

/-- Where the info file of a place can be found, its trail can be opened. -/
theorem found_of_locate {disk : Disk} {found : Location}
    (located : disk.locate place.infoPath = .ok found) : Audit.Found place.repository disk := by
  obtain ⟨parent, walked, standing, -⟩ := InfoFile.of_locate_pathIn located
  obtain rfl : parent = Audit.homeOf place.repository := Disk.eq_lead_of_walk walked
  obtain ⟨usable, short⟩ := Disk.checkPath_eq_ok.mp (Disk.locate_eq_ok.mp located).1
  rw [Place.infoPath, InfoFile.pathIn] at usable short
  rw [Path.isUsable_join InfoFile.plain_fileName (by decide)] at usable
  refine ⟨usable, ?_, walked, standing⟩
  have size := Path.size_le_join InfoFile.plain_fileName place.repository
  have name : InfoFile.fileName.utf8ByteSize = 10 := by decide
  have limit : Disk.pathLimit = 4095 := rfl
  omega

section Kept

variable {database : Audit.Database} {admits : String → Prop}
  {Keeps : Audit.Stage → Nat → List Audit.Record → Audit.Files → Prop}
  {room : Nat} {records : List Audit.Record} {machine after : Machine σ}
  (lawful : around.database.AppendOnly admits Keeps)
  (admitted : admits (Audit.pathIn place.repository))
include lawful admitted

private theorem kept_of_note {event : Audit.Event}
    (found : Audit.Found place.repository machine.volume.disk)
    (kept : Keeps .stored (room + 1) records
      (.within (Audit.homeOf place.repository) machine.volume.disk))
    (notes : (note around place event).Returns machine () after) :
    ∃ number, Keeps .stored room (records ++ [⟨number, around.now.stored, event⟩])
      (.within (Audit.homeOf place.repository) after.volume.disk) := by
  obtain ⟨volume, noting, rfl⟩ := returns_onVolume.mp notes
  obtain ⟨number, noted, returned, grown⟩ :=
    Audit.returns_noted lawful found admitted kept around.now event
  have same : volume = noted := congrArg Prod.snd (noting.symm.trans returned)
  rw [same]
  exact ⟨number, grown⟩

/-- Showing the trail begins it at most. -/
theorem kept_showAudit {limit : Nat} {outcome : Except Stop Unit}
    (kept : Keeps .stored room records
      (.within (Audit.homeOf place.repository) machine.volume.disk))
    (ran : showAudit around place limit machine = (outcome, after)) :
    Keeps .stored room records (.within (Audit.homeOf place.repository) after.volume.disk) := by
  have looked : (Machine.holds place.infoPath).Returns machine
      (machine.volume.disk.holds place.infoPath) machine := returns_holds.mpr ⟨rfl, rfl⟩
  have same : after = (showAudit around place limit machine).2 := by rw [ran]
  rw [same]
  unfold showAudit
  rw [looked.bind_eq]
  split
  · rename_i present
    obtain ⟨infoLocation, located⟩ := Disk.exists_locate_of_holds present
    obtain ⟨opened, opening, found, begun⟩ :=
      Audit.returns_openTrail lawful (found_of_locate located) admitted kept
    obtain ⟨queried, querying, left⟩ := Audit.returns_query lawful found begun limit
    have opens : (onVolume (Audit.openTrail around.database place.repository)).Returns machine
        (some (Audit.homeOf place.repository)) { machine with volume := opened } :=
      returns_onVolume.mpr ⟨opened, opening, rfl⟩
    have queries : (onVolume (Audit.query around.database (Audit.homeOf place.repository)
        limit)).Returns { machine with volume := opened } (records.reverse.take limit)
          { machine with volume := queried } := returns_onVolume.mpr ⟨queried, querying, rfl⟩
    rw [opens.bind_eq]
    dsimp only
    rw [queries.bind_eq]
    split
    · exact left
    · exact left
  · exact kept

/-- A command that stops leaves the trail as it was, as long as it makes no directory there. -/
theorem kept_of_stops {invocation : Invocation} {stop : Stop}
    (located : (locate around invocation).Returns machine place machine)
    (kept : Keeps .stored room records
      (.within (Audit.homeOf place.repository) machine.volume.disk))
    (free : ∀ part, Audit.Files.within (Audit.homeOf place.repository) after.volume.disk part ≠
      .directory)
    (stopped : (invocation.run around).Stops machine stop after) :
    Keeps .stored room records (.within (Audit.homeOf place.repository) after.volume.disk) := by
  have runs : runAt around place invocation.command machine = (.error stop, after) := by
    rw [← stopped, Invocation.run, located.bind_eq]
  by_cases shows : ∃ limit, invocation.command = .showAudit limit
  · obtain ⟨limit, shows⟩ := shows
    rw [shows] at runs
    exact kept_showAudit lawful admitted kept runs
  · rw [not_exists] at shows
    have same (part : Audit.Part) := keepsOnStop_trails part around place shows _ _ _ runs
    rw [Audit.within_congr same (lawful.files kept) free]
    exact kept

/-- A command that succeeds adds what it records to the trail. -/
theorem kept_of_returns {command : Command}
    (kept : Keeps .stored (room + 1) records
      (.within (Audit.homeOf place.repository) machine.volume.disk))
    (free : ∀ part, Audit.Files.within (Audit.homeOf place.repository) after.volume.disk part ≠
      .directory)
    (returned : (runAt around place command).Returns machine () after) :
    ∃ event rows, Recorded around place machine after command event ∧
      rows.map Audit.Record.event = event.toList ∧
      Keeps .stored room (records ++ rows)
        (.within (Audit.homeOf place.repository) after.volume.disk) := by
  by_cases shows : ∃ limit, command = .showAudit limit
  · obtain ⟨limit, rfl⟩ := shows
    have same := kept_showAudit lawful admitted (lawful.less kept) returned
    refine ⟨none, [], .audited ((keeps_showAudit around place limit).of_returns returned), rfl, ?_⟩
    rwa [List.append_nil]
  · rw [not_exists] at shows
    obtain ⟨event, recorded, closes⟩ := records_runAt shows returned
    cases closes with
    | quiet same =>
      refine ⟨none, [], recorded, rfl, ?_⟩
      rw [List.append_nil, Audit.within_congr same (lawful.files kept) free]
      exact lawful.less kept
    | @noted event written told location same located notes last =>
      have outline := (keeps_note around place event).of_returns notes
      have directories : told.volume.disk.directories = written.volume.disk.directories :=
        congrArg Prod.fst outline
      rw [last] at free ⊢
      have writtenFree (part : Audit.Part) : Audit.Files.within (Audit.homeOf place.repository)
          written.volume.disk part ≠ .directory := by
        rw [Ne, Audit.within_eq_directory, ← Disk.directories, ← directories, Disk.directories,
          ← Audit.within_eq_directory]
        exact free part
      rw [← Audit.within_congr same (lawful.files kept) writtenFree] at kept
      obtain ⟨number, grown⟩ :=
        kept_of_note lawful admitted (found_of_locate located) kept notes
      exact ⟨some event, _, recorded, rfl, grown⟩

end Kept

end Commands

/-! ### Runs of command lines -/

namespace CommandLine

/-- What a run of a command line comes to. -/
inductive Ran (around : Surroundings σ) (arguments : List Bytes) (machine : Machine σ) :
    Ending → Machine σ → Prop
  | refused {refusal : Refusal} {ending : Ending} {after : Machine σ}
      (asked : read arguments = .error refusal) (same : after.volume = machine.volume) :
      Ran around arguments machine ending after
  | stopped {invocation : Invocation} {stop : Stop} {ending : Ending} {between after : Machine σ}
      (asked : read arguments = .ok invocation)
      (stopped : (invocation.run around).Stops machine stop between)
      (unsuccessful : ending ≠ .finished 0) (same : after.volume = between.volume) :
      Ran around arguments machine ending after
  | performed {invocation : Invocation} {ending : Ending} {after : Machine σ}
      (asked : read arguments = .ok invocation)
      (returned : (invocation.run around).Returns machine () after)
      (succeeded : ending = .finished 0) :
      Ran around arguments machine ending after

private theorem ran_run (around : Surroundings σ) (arguments : List Bytes) (machine : Machine σ) :
    Ran around arguments machine (run around arguments machine).1
      (run around arguments machine).2 := by
  unfold run
  cases asked : read arguments with
  | error refusal =>
    refine .refused asked ?_
    cases refusal <;> rfl
  | ok invocation =>
    dsimp only
    rcases performed : invocation.run around machine with ⟨stop | _, after⟩
    · cases stop with
      | failed failure => exact .stopped asked performed (by simp) rfl
      | aborted => exact .stopped asked performed (by simp) rfl
      | awaiting => exact .stopped asked performed (by simp) rfl
    · exact .performed asked performed rfl

end CommandLine

/-! ### Turns -/

/-- What a turn leaves in the trail: the event of its command, if that succeeded. -/
inductive Turn.Recorded (turn : Turn σ) : Option Audit.Event → Prop
  | refused {refusal : CommandLine.Refusal}
      (asked : CommandLine.read turn.call.arguments = .error refusal) : Recorded turn none
  | unsuccessful (failed : turn.ending ≠ .finished 0) : Recorded turn none
  | performed {invocation : Invocation} {place : Place} {event : Option Audit.Event}
      (asked : CommandLine.read turn.call.arguments = .ok invocation)
      (located : (Commands.locate turn.call.around invocation).Returns turn.machine place
        turn.machine)
      (succeeded : turn.ending = .finished 0)
      (recorded : Commands.Recorded turn.call.around place turn.machine turn.after
        invocation.command event) : Recorded turn event

/-- The turn is about the repository in a directory, under a path that the database admits, and
makes no directory in the place of a file of the trail. -/
structure Turn.Tends (database : Audit.Database) (admits : String → Prop) (home : Location)
    (turn : Turn σ) : Prop where
  database : turn.call.around.database = database
  reaches : ∀ invocation place,
    CommandLine.read turn.call.arguments = .ok invocation →
    (Commands.locate turn.call.around invocation).Returns turn.machine place turn.machine →
    Audit.homeOf place.repository = home ∧ admits (Audit.pathIn place.repository)
  free : ∀ part : Audit.Part, turn.disk.node? (part.placeIn home) ≠ some .directory

section Laws

variable {database : Audit.Database} {admits : String → Prop}
  {Keeps : Audit.Stage → Nat → List Audit.Record → Audit.Files → Prop}
  (lawful : database.AppendOnly admits Keeps) {home : Location}
include lawful

theorem Turn.recorded_of_kept {turn : Turn σ} (tends : turn.Tends database admits home)
    {room : Nat} {records : List Audit.Record}
    (kept : Keeps .stored (room + 1) records (.within home turn.before)) :
    ∃ event rows, turn.Recorded event ∧ rows.map Audit.Record.event = event.toList ∧
      Keeps .stored room (records ++ rows) (.within home turn.disk) := by
  obtain ⟨rfl, reaches, occupied⟩ := tends
  have free (part : Audit.Part) : Audit.Files.within home turn.disk part ≠ .directory :=
    mt Audit.within_eq_directory.mp (occupied part)
  have ran := CommandLine.ran_run turn.call.around turn.call.arguments turn.machine
  change CommandLine.Ran _ _ _ turn.ending turn.after at ran
  cases ran with
  | refused asked same =>
    refine ⟨none, [], .refused asked, rfl, ?_⟩
    rw [List.append_nil, Turn.disk, same]
    exact lawful.less kept
  | stopped asked stopped unsuccessful same =>
    refine ⟨none, [], .unsuccessful unsuccessful, rfl, ?_⟩
    rw [Turn.disk, same] at free ⊢
    rw [List.append_nil]
    rcases stops_bind.mp stopped with lost | ⟨place, _, located, -⟩
    · have unchanged := (Commands.keeps_locate _ _).onStop _ _ _ lost
      rw [unchanged]
      exact lawful.less kept
    · obtain rfl := Commands.of_locate located
      obtain ⟨rfl, admitted⟩ := reaches _ _ asked located
      exact Commands.kept_of_stops lawful admitted located (lawful.less kept) free stopped
  | performed asked returned succeeded =>
    obtain ⟨place, _, located, returned⟩ := returns_bind.mp returned
    obtain rfl := Commands.of_locate located
    obtain ⟨rfl, admitted⟩ := reaches _ _ asked located
    obtain ⟨event, rows, recorded, same, grown⟩ :=
      Commands.kept_of_returns lawful admitted kept free returned
    exact ⟨event, rows, .performed asked located succeeded recorded, same, grown⟩

/-! ### Sessions -/

namespace Session

private theorem kept_of_turns {calls : List (Call σ)} {old : List Audit.Record} {start : Disk}
    (kept : Keeps .stored calls.length old (.within home start))
    (tends : ∀ turn ∈ turns calls start, turn.Tends database admits home) :
    ∃ (events : List (Option Audit.Event)) (rows : List Audit.Record),
      List.Forall₂ Turn.Recorded (turns calls start) events ∧
      rows.map Audit.Record.event = events.reduceOption ∧
      Keeps .stored 0 (old ++ rows) (.within home (disk calls start)) := by
  -- Each turn hands its disk on, with the trail that it leaves, to the rest of the session.
  induction calls generalizing old start with
  | nil =>
    refine ⟨[], [], .nil, rfl, ?_⟩
    rwa [List.append_nil]
  | cons call rest ih =>
    simp only [turns, List.forall_mem_cons] at tends
    obtain ⟨event, added, recorded, same, after⟩ := Turn.recorded_of_kept lawful tends.1 kept
    obtain ⟨events, rows, each, others, last⟩ := ih after tends.2
    refine ⟨event :: events, added ++ rows, .cons recorded each, ?_, ?_⟩
    · rw [List.map_append, same, others]
      cases event <;> rfl
    · rw [← List.append_assoc]
      exact last

/-- As long as the database of a repository can be used and appends, each turn of a session adds the
event of its command if that succeeded, and none else, under a greater number than all before, and
the last records are shown on request, the newest first. -/
theorem trail_is_history {calls : List (Call σ)} {old : List Audit.Record} {start : Disk}
    (kept : Keeps .stored calls.length old (.within home start))
    (tends : ∀ turn ∈ turns calls start, turn.Tends database admits home) :
    ∃ (events : List (Option Audit.Event)) (rows : List Audit.Record),
      List.Forall₂ Turn.Recorded (turns calls start) events ∧
      rows.map Audit.Record.event = events.reduceOption ∧
      Audit.Record.Increasing (old ++ rows) ∧
      Keeps .stored 0 (old ++ rows) (.within home (disk calls start)) ∧
      ∀ directory, Audit.homeOf directory = home → admits (Audit.pathIn directory) →
        Audit.Found directory (disk calls start) → ∀ limit, ∃ shown opened after,
          (Audit.openTrail database directory).Returns (.ofDisk (disk calls start)) (some home)
            opened ∧
          (Audit.query database home limit).Returns opened shown after ∧
          shown = (old ++ rows).reverse.take limit ∧
          shown.length = min limit (old ++ rows).length := by
  obtain ⟨events, rows, each, same, last⟩ := kept_of_turns lawful kept tends
  refine ⟨events, rows, each, same, lawful.increasing last, last, ?_⟩
  rintro directory rfl admitted found limit
  have holds : Keeps .stored 0 (old ++ rows)
      (.within (Audit.homeOf directory) (Volume.ofDisk (disk calls start)).disk) := last
  obtain ⟨opened, opening, found, begun⟩ := Audit.returns_openTrail lawful found admitted holds
  obtain ⟨after, queried, -⟩ := Audit.returns_query lawful found begun limit
  exact ⟨_, opened, after, opening, queried, rfl, by rw [List.length_take, List.length_reverse]⟩

end Session

end Laws

/-! ### A session -/

theorem Session.call_mem_of_mem_turns {calls : List (Call σ)} {start : Disk} {turn : Turn σ}
    (member : turn ∈ turns calls start) : turn.call ∈ calls := by
  induction calls generalizing start with
  | nil => cases member
  | cons call rest ih =>
    rcases List.mem_cons.mp member with rfl | member
    · exact List.mem_cons_self
    · exact List.mem_cons_of_mem _ (ih member)

namespace CommandLine

private theorem tends_of_located {turn : Turn Bytes} {found : Place}
    (around : turn.call.around = workplace)
    (located : (read turn.call.arguments).toOption.map (fun invocation =>
      (Commands.locate turn.call.around invocation turn.machine).1) = some (.ok found))
    (reaches : Audit.homeOf found.repository = standardHome ∧
      Audit.Ledger.admits (Audit.pathIn found.repository) = true)
    (free : ∀ part : Audit.Part, turn.disk.node? (part.placeIn standardHome) ≠ some .directory) :
    turn.Tends Audit.Ledger.database (fun path => Audit.Ledger.admits path = true)
      standardHome := by
  refine ⟨by rw [around]; rfl, fun invocation place asked returned => ?_, free⟩
  rw [asked, Except.toOption, Option.map_some, returned] at located
  cases located
  exact reaches

/-- An upgrade is recorded once, and neither a second one that has nothing to do, nor a test that
fails, nor a listing is. -/
theorem trail_of_upgrades :
    let start := (machineWith { InfoFile.empty with version := 2 }).volume.disk
    let calls := [callOf ["upgrade"], callOf ["upgrade"], callOf ["keys", "test"],
      callOf ["keys", "list"]]
    (Session.turns calls start).map Turn.ending =
        [.finished 0, .finished 0, .finished 1, .finished 0] ∧
      (((Session.disk calls start).content? standardTrail).bind Audit.Ledger.decode?).map
        (fun ledger => ledger.records.map Audit.Record.event) =
          some [⟨"upgrade", none, some "2 -> 3"⟩] ∧
      ∃ (events : List (Option Audit.Event)) (rows : List Audit.Record),
        List.Forall₂ Turn.Recorded (Session.turns calls start) events ∧
        rows.map Audit.Record.event = events.reduceOption ∧
        Audit.Record.Increasing ([] ++ rows) ∧
        Audit.Ledger.Keeps .stored 0 ([] ++ rows) (.within standardHome (Session.disk calls start)) ∧
        ∀ directory, Audit.homeOf directory = standardHome →
          Audit.Ledger.admits (Audit.pathIn directory) = true →
          Audit.Found directory (Session.disk calls start) → ∀ limit, ∃ shown opened after,
            (Audit.openTrail Audit.Ledger.database directory).Returns
              (.ofDisk (Session.disk calls start)) (some standardHome) opened ∧
            (Audit.query Audit.Ledger.database standardHome limit).Returns opened shown after ∧
            shown = ([] ++ rows).reverse.take limit ∧
            shown.length = min limit ([] ++ rows).length := by
  intro start calls
  have reaches : Audit.homeOf standardPlace.repository = standardHome ∧
      Audit.Ledger.admits (Audit.pathIn standardPlace.repository) = true := by decide +kernel
  have kept : Audit.Ledger.Keeps .stored calls.length [] (.within standardHome start) := by
    have unused : Audit.Files.within standardHome start = Audit.Files.none := by
      funext part
      cases part <;> decide +kernel
    rw [unused]
    exact ⟨nofun, .empty, .missing rfl, Audit.Ledger.numbered_empty, by decide, rfl⟩
  have turns : ∀ turn ∈ Session.turns calls start,
      (read turn.call.arguments).toOption.map (fun invocation =>
        (Commands.locate turn.call.around invocation turn.machine).1) = some (.ok standardPlace) ∧
      ∀ part ∈ Audit.Part.all, turn.disk.node? (part.placeIn standardHome) ≠
        some .directory := by decide +kernel
  refine ⟨by decide +kernel, by decide +kernel,
    Session.trail_is_history Audit.Ledger.appendOnly_database kept ?_⟩
  intro turn member
  obtain ⟨located, free⟩ := turns turn member
  have around : ∀ call ∈ calls, call.around = workplace := by
    simp only [calls, List.forall_mem_cons]
    exact ⟨rfl, rfl, rfl, rfl, nofun⟩
  exact tends_of_located (around _ (Session.call_mem_of_mem_turns member)) located reaches
    fun part => free part part.mem_all

end CommandLine

end Keywarden
