import Keywarden.Proofs.Audit.Passive
import Keywarden.Proofs.Command.Coupled
import Keywarden.Proofs.Command.Line
import Keywarden.Proofs.Command.Session

/-!
# The audit trail tells commands nothing

Only the command that shows the trail reads it for an answer.  All others end alike and print
alike whatever stands where the trail is kept, and leave the same in all other places, as long
as the paths that they follow lead past it.
-/

namespace Keywarden

open Keywarden.Action Machine

variable {σ α : Type} {around : Surroundings σ} {place : Place} {places : List Location}

/-! ### Machines with disks that differ at some places -/

namespace Machine

/-- The disks of the machines differ at most at some places and below them, and all the rest of
the machines is the same. -/
structure Beside (places : List Location) (first second : Machine σ) : Prop where
  volume : Volume.Beside places first.volume second.volume
  console : first.console = second.console
  printed : first.printed = second.printed
  host : first.host = second.host

theorem coupled_beside : Coupled (Beside places : Machine σ → Machine σ → Prop) where
  host beside := beside.host
  drawn _ beside := { beside with host := rfl }
  print texts beside := { beside with printed := congrArg (· ++ texts) beside.printed }

theorem steady : Inherited fun action : Action (Machine σ) _ => action.Respects (Beside places) :=
  inherited_respects _

theorem steady_print (printed : Printed) :
    (print printed : Action (Machine σ) Unit).Respects (Beside places) :=
  coupled_beside.respects_print printed

theorem steady_told {printed : Printed} {next : Action (Machine σ) α}
    (rest : next.Respects (Beside places)) :
    (print printed >>= fun _ => next).Respects (Beside places) :=
  steady.bind (steady_print printed) fun _ => rest

theorem steady_onVolume {action : Action Volume α}
    (respects : action.Respects (Volume.Beside places)) :
    (onVolume action : Action (Machine σ) α).Respects (Beside places) := by
  intro first second beside
  obtain ⟨outcome, after⟩ := respects first.volume second.volume beside.volume
  exact ⟨outcome, { beside with volume := after }⟩

theorem steady_source (prompt : Prompt) :
    ((source prompt).acquire : Action (Machine σ) String).Respects (Beside places) := by
  intro first second beside
  simp only [source, focus, beside.console]
  exact ⟨rfl, { beside with console := rfl }⟩

theorem steady_holds {path : String} (avoids : Path.Avoids places [] (Path.names path)) :
    (holds path : Action (Machine σ) Bool).Respects (Beside places) := by
  intro first second beside
  exact ⟨congrArg Except.ok (beside.volume.holds_eq avoids), beside⟩

end Machine

/-- The machines differ at most where the trail of a repository is kept. -/
abbrev Machine.BesideTrail (home : Location) : Machine σ → Machine σ → Prop :=
  Beside (Audit.placesIn home)

/-! ### Settings -/

theorem Settings.plain_fileName : Path.Plain Settings.fileName where
  noSlash := by decide
  visible := by decide
  notHere := by decide
  notOuter := by decide

theorem Settings.respects_load {project : String}
    (avoids : Path.Avoids places [] (Path.names project))
    (other : ∀ place ∈ places, place.getLast? ≠ some Settings.fileName) :
    (load project).Respects (Volume.Beside places) := by
  have along : Path.Avoids places [] (Path.names (Path.join project fileName)) := by
    rw [Path.names_join _ _ plain_fileName.noSlash plain_fileName.visible]
    exact avoids.concat_of_ne plain_fileName other
  refine Volume.respects_get (fun first second beside => ?_) fun volume => ?_
  · rw [beside.holds_eq along]
  · split
    · exact (inherited_respects _).bind
        (Volume.respects_examine fun _ _ beside => beside.readFile_eq along) fun _ =>
          (inherited_respects _).ofExcept _
    · exact (inherited_respects _).pure _

/-! ### Commands -/

def Command.Avoids (places : List Location) (around : Surroundings σ) (place : Place) :
    Command → Prop
  | .listKeys => Path.Avoids places [] (Path.names place.repository)
  | .newIdentity =>
    Path.Avoids places [] (Path.names (Path.join around.directory place.identities))
  | _ => Path.Avoids places [] (Path.names place.repository) ∧
      Path.Avoids places [] (Path.names (Path.join around.directory place.identities))

namespace Commands

variable {home : Location}

theorem getLast?_ne {name : String} (other : ∀ part : Audit.Part, part.fileName ≠ name) :
    ∀ place ∈ Audit.placesIn home, place.getLast? ≠ some name := by
  intro place member named
  obtain ⟨part, rfl⟩ := Audit.mem_placesIn.mp member
  rw [part.getLast?_placeIn] at named
  exact other part (Option.some.inj named)

theorem unidentified_placesIn : Identity.Unidentified (Audit.placesIn home) := by
  intro place member name named
  obtain ⟨part, rfl⟩ := Audit.mem_placesIn.mp member
  rw [part.getLast?_placeIn] at named
  cases named
  cases part <;> decide

private theorem blind_locate (invocation : Invocation)
    (avoids : Path.Avoids (Audit.placesIn home) [] (Path.names around.directory)) :
    (locate around invocation).Respects (BesideTrail home) := by
  have other : ∀ place ∈ Audit.placesIn home, place.getLast? ≠ some Settings.fileName :=
    getLast?_ne fun part => by cases part <;> decide
  refine steady.bind (steady_onVolume (Settings.respects_load avoids other))
    fun settings first second beside => ⟨?_, beside⟩
  change Except.ok _ = Except.ok _
  rw [beside.console]

/-- The building blocks respect the relation of machines that differ where a trail is kept. -/
abbrev Blind (home : Location) (primitives : Primitives (Machine σ)) : Prop :=
  primitives.Working (fun action => action.Respects (BesideTrail home))
    (fun edit => edit.Respects (Edit.Alongside (BesideTrail home)))

section Identities

variable (identities : Path.Avoids (Audit.placesIn home) []
  (Path.names (Path.join around.directory place.identities)))
include identities

private theorem blind_loadPrimitives :
    (loadPrimitives around place).Respects (BesideTrail home) := by
  have loads := Identity.respects_loadAll unidentified_placesIn identities
  exact steady.bind (steady_onVolume loads) fun _ => steady.pure _

private theorem blind_reportSkipped :
    (reportSkipped around place).Respects (BesideTrail home) := by
  intro first second beside
  have same := Identity.skipped_eq unidentified_placesIn identities beside.volume
  have printed := coupled_beside.print ((Identity.skipped around.directory place.identities
    second.volume.disk).map .report) beside
  refine ⟨rfl, ?_⟩
  change Beside _ (reported around place first) (reported around place second)
  unfold reported
  rw [same]
  exact printed

theorem blind_equipped {next : Primitives (Machine σ) → Action (Machine σ) Unit}
    (rest : ∀ primitives, Blind home primitives →
      (next primitives).Respects (BesideTrail home)) :
    (equip around place >>= next).Respects (BesideTrail home) := by
  refine (selective_respects _).bind_yields (steady.bind (blind_reportSkipped identities) fun _ =>
    blind_loadPrimitives identities) fun primitives yields => ?_
  obtain ⟨before, after, equipped⟩ := yields
  obtain ⟨loaded, rfl⟩ := standard_of_loadPrimitives (returns_equip.mp equipped).1.yields
  exact rest _ (coupled_beside.working_standard around.entropy place.cost loaded)

private theorem blind_newIdentity : (newIdentity around place).Respects (BesideTrail home) := by
  have generates : (Identity.generate (Machine.entropy around.entropy)).Respects
      (BesideTrail home) :=
    Identity.holds_generate steady (coupled_beside.respects_draw around.entropy)
      fun _ _ states => ⟨rfl, states⟩
  refine steady.bind generates fun identity => ?_
  have saves := Identity.respects_save unidentified_placesIn identities around.broken identity
  refine steady.bind (steady_onVolume saves) fun path => ?_
  exact steady_told (steady_told (steady_told (steady_print _)))

end Identities

section Repository

variable (repository : Path.Avoids (Audit.placesIn home) [] (Path.names place.repository))
include repository

theorem blind_note (event : Audit.Event) :
    (note around place event).Respects (BesideTrail home) :=
  steady_onVolume (Audit.respects_note repository _ _ _)

theorem blind_readInfo :
    (readInfo place : Action (Machine σ) InfoFile).Respects (BesideTrail home) :=
  steady_onVolume (InfoFile.respects_load repository (getLast?_ne fun part => by cases part <;> decide))

theorem blind_writeInfo (info : InfoFile) :
    (writeInfo place info : Action (Machine σ) Unit).Respects (BesideTrail home) :=
  steady_onVolume (InfoFile.respects_save repository (getLast?_ne fun part => by cases part <;> decide)
    (getLast?_ne fun part => by cases part <;> decide) info)

private theorem blind_makeRepository :
    (makeRepository place : Action (Machine σ) Unit).Respects (BesideTrail home) := by
  refine steady.bind (steady_holds repository) fun present => ?_
  split
  · exact steady.pure ()
  · exact steady.bind
      (steady_onVolume (Volume.respects_makeDirectories repository)) fun _ => steady_print _

private theorem blind_listKeys :
    (listKeys place : Action (Machine σ) Unit).Respects (BesideTrail home) := by
  refine steady.bind (blind_readInfo repository) fun info => ?_
  split
  · exact steady_told (steady_print _)
  · exact steady_told (steady_print _)

variable (identities : Path.Avoids (Audit.placesIn home) []
  (Path.names (Path.join around.directory place.identities)))
include identities

/-- The commands on a repository begin alike. -/
theorem blind_opened
    {next : InfoFile → Primitives (Machine σ) → Action (Machine σ) Unit}
    (rest : ∀ info primitives, Blind home primitives →
      (next info primitives).Respects (BesideTrail home)) :
    (readInfo place >>= fun info =>
      equip around place >>= next info).Respects (BesideTrail home) :=
  steady.bind (blind_readInfo repository) fun info =>
    blind_equipped identities (rest info)

private theorem blind_createRepository (recipient : Option String) :
    (createRepository around place recipient).Respects (BesideTrail home) := by
  have path := InfoFile.avoids_pathIn repository (getLast?_ne fun part => by cases part <;> decide)
  refine steady.bind (steady_holds path) fun present => ?_
  split
  · exact steady_told (steady.fail _)
  · refine steady.bind (blind_makeRepository repository) fun _ => ?_
    refine blind_equipped identities fun primitives working => ?_
    refine steady.bind (Repository.holds_create working (steady_source .first) _)
      fun created => ?_
    exact steady.bind (blind_writeInfo repository created.2) fun _ =>
      steady.bind (blind_note repository _) fun _ => steady_told (steady_print _)

private theorem blind_addKey (recipient : Option String) :
    (addKey around place recipient).Respects (BesideTrail home) := by
  rw [addKey_eq]
  refine blind_opened repository identities fun info primitives working => ?_
  have added (unlocked : Unlocked) (factor : FactorSpec) :
      (addFor around place info unlocked factor primitives).Respects (BesideTrail home) := by
    refine steady.bind (working.edits.onFile
      (Repository.holds_addFactor working (steady_source .added) _ factor) info) fun edited => ?_
    exact steady.bind (blind_writeInfo repository edited.2) fun _ =>
      steady.bind (blind_note repository _) fun _ => steady_print _
  refine steady_told ?_
  have unlocks := Unlocking.holds_unlock working.toSearching (steady_source .existing) info
  refine steady.bind unlocks fun unlocked => ?_
  dsimp only
  split
  · exact steady_told (added unlocked _)
  · exact added unlocked _

private theorem blind_removeKey (removal : Removal) :
    (removeKey around place removal).Respects (BesideTrail home) := by
  refine blind_opened repository identities fun info primitives working => ?_
  have unlocks := Unlocking.holds_unlock working.toSearching (steady_source .existing) info
  have chooses : (removalTarget info primitives removal).Respects (BesideTrail home) := by
    cases removal with
    | recipient id =>
      exact steady_told (steady.bind unlocks fun _ => steady.pure _)
    | position index =>
      exact steady_told (steady.bind unlocks fun _ => steady.pure _)
    | entered =>
      refine steady_told (steady.bind (steady_source _) fun passphrase => ?_)
      have opens := Unlocking.holds_withPassphrase working.toSearching info passphrase
      exact steady.bind opens fun _ => steady.pure _
  refine steady.bind chooses fun target => ?_
  have removes := Repository.holds_removeFactor working.edits target
  refine steady.bind (working.edits.onFile removes info) fun edited => ?_
  exact steady.bind (blind_writeInfo repository edited.2) fun _ =>
    steady.bind (blind_note repository _) fun _ => steady_print _

private theorem blind_testKeys : (testKeys around place).Respects (BesideTrail home) := by
  refine blind_opened repository identities fun info primitives working => ?_
  have unlocks := Unlocking.holds_unlock working.toSearching (steady_source .existing) info
  refine steady.bind unlocks fun unlocked => ?_
  exact steady.bind (blind_note repository _) fun _ => steady_print _

private theorem blind_upgrade : (upgrade around place).Respects (BesideTrail home) := by
  rw [upgrade_eq]
  refine blind_opened repository identities fun info primitives working => ?_
  have migrates : (migrate around place info primitives).Respects (BesideTrail home) := by
    refine steady.bind (working.edits.onFile
      (Repository.holds_upgrade working (steady_source .existing)) info) fun edited => ?_
    dsimp only
    split
    · exact steady_print _
    · refine steady.bind (blind_writeInfo repository edited.2) fun _ => ?_
      refine steady.bind (blind_note repository _) fun _ => steady_told ?_
      split
      · exact steady_print _
      · exact steady.pure ()
  split
  · exact steady_told migrates
  · exact migrates

end Repository

/-- All commands but the one that shows the trail do the same on machines that differ where the
trail is kept. -/
theorem blind_runAt {command : Command} (other : ∀ limit, command ≠ .showAudit limit)
    (avoids : command.Avoids (Audit.placesIn home) around place) :
    (runAt around place command).Respects (BesideTrail home) := by
  cases command with
  | createRepository recipient =>
    exact blind_createRepository avoids.1 avoids.2 recipient
  | addKey recipient => exact blind_addKey avoids.1 avoids.2 recipient
  | removeKey removal => exact blind_removeKey avoids.1 avoids.2 removal
  | listKeys => exact blind_listKeys avoids
  | testKeys => exact blind_testKeys avoids.1 avoids.2
  | upgrade => exact blind_upgrade avoids.1 avoids.2
  | newIdentity => exact blind_newIdentity avoids
  | showAudit limit => exact absurd rfl (other limit)

end Commands

/-! ### Sessions -/

/-- All paths that the call follows on its disk lead past some places. -/
def Turn.Avoids (places : List Location) (turn : Turn σ) : Prop :=
  ∀ invocation, CommandLine.read turn.call.arguments = .ok invocation →
    Path.Avoids places [] (Path.names turn.call.around.directory) ∧
    ∀ place after, (Commands.locate turn.call.around invocation).Returns turn.machine place after →
      invocation.command.Avoids places turn.call.around place

/-- The call asks for another command than the one that shows the trail. -/
def Call.Unseeing (call : Call σ) : Prop :=
  ∀ invocation, CommandLine.read call.arguments = .ok invocation →
    ∀ limit, invocation.command ≠ .showAudit limit

section Sessions

variable {home : Location}

theorem Turn.beside_of_avoids {call : Call σ} (unseeing : call.Unseeing) {first second : Disk}
    (beside : Disk.Beside (Audit.placesIn home) first second)
    (avoids : Turn.Avoids (Audit.placesIn home) ⟨call, first⟩) :
    (Turn.mk call first).ending = (Turn.mk call second).ending ∧
      BesideTrail home (Turn.mk call first).after (Turn.mk call second).after := by
  have machines : BesideTrail home (Turn.mk call first).machine (Turn.mk call second).machine :=
    ⟨beside, rfl, rfl, rfl⟩
  unfold Turn.ending Turn.after Turn.result
  cases written : CommandLine.read call.arguments with
  | error refusal =>
    simp only [CommandLine.run, written]
    exact coupled_beside.refuse refusal machines
  | ok invocation =>
    obtain ⟨working, paths⟩ := avoids invocation written
    have located : Alike (fun left right => left = (Turn.mk call first).machine ∧
        BesideTrail home left right) (BesideTrail home) (Commands.locate call.around invocation)
        (Commands.locate call.around invocation) := fun left right states =>
      Commands.blind_locate invocation working left right states.2
    have runs : Alike (fun left right => left = (Turn.mk call first).machine ∧
        BesideTrail home left right) (BesideTrail home) (invocation.run call.around)
        (invocation.run call.around) := by
      refine located.bind_returns (fun _ _ states => states) ?_
      rintro place _ _ after ⟨rfl, -⟩ found
      exact Commands.blind_runAt (unseeing invocation written) (paths place after found)
    obtain ⟨outcome, after⟩ := runs _ _ ⟨rfl, machines⟩
    exact coupled_beside.run written outcome after

/-- A session ends and prints alike, turn by turn, whatever stands where the trail is kept, and
leaves the same everywhere else. -/
theorem Session.trail_is_passive {calls : List (Call σ)}
    (unseeing : ∀ call ∈ calls, call.Unseeing) {first second : Disk}
    (beside : Disk.Beside (Audit.placesIn home) first second)
    (avoids : ∀ turn ∈ turns calls first, turn.Avoids (Audit.placesIn home)) :
    List.Forall₂ (fun left right => left.ending = right.ending ∧
        Machine.BesideTrail home left.after right.after)
      (turns calls first) (turns calls second) := by
  induction calls generalizing first second with
  | nil => exact .nil
  | cons call rest ih =>
    simp only [turns, List.forall_mem_cons] at avoids unseeing ⊢
    have turn := Turn.beside_of_avoids unseeing.1 beside avoids.1
    exact .cons turn (ih unseeing.2 turn.2.volume avoids.2)

end Sessions

/-! ### Runs that differ at the trail -/

namespace CommandLine

/-- A call without a terminal in the working directory. -/
def callOf (arguments : List String) : Call Bytes where
  around := workplace
  arguments := arguments.map Bytes.ofString
  console := ⟨[], none, []⟩
  host := Bytes.zeros 88

/-- The repository in the working directory, beside whose info file the trail is kept. -/
def standardHome : Location :=
  ["w", "repo"]

def standardTrail : Location :=
  Audit.Part.main.placeIn standardHome

private theorem avoids_of_located {turn : Turn σ} {invocation : Invocation} {found : Place}
    (written : read turn.call.arguments = .ok invocation)
    (located : (Commands.locate turn.call.around invocation turn.machine).1 = .ok found)
    (working : Path.Avoids places [] (Path.names turn.call.around.directory))
    (paths : invocation.command.Avoids places turn.call.around found) :
    turn.Avoids places := by
  intro other again
  rw [written] at again
  cases again
  refine ⟨working, fun place after returned => ?_⟩
  rw [returned] at located
  cases located
  exact paths

theorem unseeing_of_read {call : Call σ} {invocation : Invocation}
    (written : read call.arguments = .ok invocation)
    (other : ∀ limit, invocation.command ≠ .showAudit limit) : call.Unseeing := by
  intro found again
  rw [written] at again
  cases again
  exact other

/-- An upgrade and a listing are not disturbed by a directory where the trail would be kept. -/
theorem upgrade_beside_directory :
    let first := (machineWith { InfoFile.empty with version := 2 }).volume.disk
    let second := first.put standardTrail .directory
    let calls := [callOf ["upgrade"], callOf ["keys", "list"]]
    (Session.turns calls first).map Turn.ending = [.finished 0, .finished 0] ∧
      List.Forall₂ (fun left right => left.ending = right.ending ∧
          Machine.BesideTrail standardHome left.after right.after)
        (Session.turns calls first) (Session.turns calls second) := by
  intro first second calls
  have upgrades : read (callOf ["upgrade"]).arguments = .ok ⟨.upgrade, none, none⟩ := by
    decide +kernel
  have lists : read (callOf ["keys", "list"]).arguments = .ok ⟨.listKeys, none, none⟩ := by
    decide +kernel
  let upgrade := Turn.mk (callOf ["upgrade"]) first
  let list := Turn.mk (callOf ["keys", "list"]) upgrade.disk
  have upgradeLocated : (Commands.locate workplace ⟨.upgrade, none, none⟩ upgrade.machine).1 =
      .ok standardPlace := by decide +kernel
  have listLocated : (Commands.locate workplace ⟨.listKeys, none, none⟩ list.machine).1 =
      .ok standardPlace := by decide +kernel
  have working : Path.Avoids (Audit.placesIn standardHome) [] (Path.names workplace.directory) := by
    decide +kernel
  have repository : Path.Avoids (Audit.placesIn standardHome) []
      (Path.names standardPlace.repository) := by
    decide +kernel
  have identities : Path.Avoids (Audit.placesIn standardHome) []
      (Path.names (Path.join workplace.directory standardPlace.identities)) := by
    decide +kernel
  have upgrading : upgrade.Avoids (Audit.placesIn standardHome) :=
    avoids_of_located upgrades upgradeLocated working ⟨repository, identities⟩
  have listing : list.Avoids (Audit.placesIn standardHome) :=
    avoids_of_located lists listLocated working repository
  have beside : Disk.Beside (Audit.placesIn standardHome) first second :=
    Disk.beside_put (by decide +kernel) (Audit.covered_placeIn _ .main) _
  refine ⟨by decide +kernel, Session.trail_is_passive ?_ beside ?_⟩
  · simp only [calls, List.forall_mem_cons]
    exact ⟨unseeing_of_read upgrades nofun, unseeing_of_read lists nofun, nofun⟩
  · simp only [calls, Session.turns, List.forall_mem_cons]
    exact ⟨upgrading, listing, nofun⟩

/-- A database that removes a journal which is left where the database itself is missing. -/
def clearing : Audit.Database :=
  { Audit.Ledger.database with
    connect := fun path way => do
      if (← get) .main = .nothing then
        modify fun files part => if part = .journal then .nothing else files part
      Audit.Ledger.connect path way }

/-- Identities that are to be saved where the trail is kept find it in their way; and what becomes
of a file beside the database, when one is kept, may depend on it. -/
theorem disturbed_through_trail :
    (let first := (machineWith InfoFile.empty).volume.disk
      let second := first.put standardTrail (.file true Audit.Ledger.empty.encode)
      let call := callOf ["identity", "new", "--identities", "repo/audit.db"]
      standardHome = Audit.homeOf standardPlace.repository ∧ call.Unseeing ∧
        Disk.Beside [standardTrail] first second ∧
        (Turn.mk call first).ending = .finished 0 ∧ (Turn.mk call second).ending = .finished 1) ∧
    (let journal := Audit.Part.journal.placeIn standardHome
      let first := (machineWith { InfoFile.empty with version := 2 }).volume.disk.put journal
        (.file false [])
      let second := first.put standardTrail .directory
      let call : Call Bytes :=
        { callOf ["upgrade"] with around := { workplace with database := clearing } }
      call.Unseeing ∧ Disk.Beside [standardTrail] first second ∧
        (Turn.mk call first).disk.node? journal = none ∧
        (Turn.mk call second).disk.node? journal = some (.file false [])) := by
  have covered : Path.Covered [standardTrail] standardTrail := ⟨_, by simp, List.prefix_rfl⟩
  constructor
  · intro first second call
    have written : read call.arguments = .ok ⟨.newIdentity, none, some "repo/audit.db"⟩ := by
      decide +kernel
    exact ⟨by decide +kernel, unseeing_of_read written nofun,
      Disk.beside_put (by decide +kernel) covered _, by decide +kernel, by decide +kernel⟩
  · intro journal first second call
    have written : read call.arguments = .ok ⟨.upgrade, none, none⟩ := by decide +kernel
    exact ⟨unseeing_of_read written nofun, Disk.beside_put (by decide +kernel) covered _,
      by decide +kernel, by decide +kernel⟩

end CommandLine

end Keywarden
