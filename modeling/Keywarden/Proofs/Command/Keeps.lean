import Keywarden.Command.Run
import Keywarden.Proofs.Audit.Store
import Keywarden.Proofs.Command.Machine
import Keywarden.Proofs.Identity.Store

/-!
# Commands that leave files alone

A command that stops has changed no info file: whatever can fail comes before the info file
is written, and nothing that comes after it can.  The commands that only look write none
in any case.  For the same reason a command that stops has changed no trail, unless it opened
one to show it.
-/

namespace Keywarden

open Keywarden.Action Machine

variable {σ α : Type} {around : Surroundings σ} {place : Place} {name : String}

theorem Settings.holds_load {Holds : ∀ {α : Type}, Action Volume α → Prop}
    (looking : Volume.Looking Holds) (project : String) : Holds (load project) := by
  refine looking.bind looking.get fun volume => ?_
  split
  · exact looking.bind (looking.examine _) fun content => looking.ofExcept _
  · exact looking.pure standard

theorem Settings.keeps_load {γ : Type} (view : Volume → γ) (project : String) :
    (load project).Keeps view :=
  holds_load (Volume.looking_keeps view) project

namespace Commands

/-! ### Parts of commands -/

theorem keeps_locate (around : Surroundings σ) (invocation : Invocation) :
    (locate around invocation).Keeps Machine.volume :=
  (keeps_onVolume (Settings.keeps_load id around.directory)).bind fun _ =>
    (keeps_get _).bind fun _ => keeps_pure _ _

theorem keeps_readInfo (place : Place) :
    (readInfo place : Action (Machine σ) InfoFile).Keeps Machine.volume :=
  keeps_onVolume (InfoFile.keeps_load id place.infoPath)

private theorem keeps_loadPrimitives (around : Surroundings σ) (place : Place) :
    (loadPrimitives around place).Keeps Machine.volume :=
  (keeps_onVolume (Identity.keeps_loadAll id _ _)).bind fun _ => keeps_pure _ _

theorem standard_of_loadPrimitives {primitives : Primitives (Machine σ)}
    (yields : (loadPrimitives around place).Yields primitives) :
    ∃ identities, primitives = .standard (Machine.entropy around.entropy) place.cost identities := by
  obtain ⟨before, after, loaded⟩ := yields
  obtain ⟨identities, between, -, loaded⟩ := returns_bind.mp loaded
  exact ⟨identities, (returns_pure.mp loaded).1.symm⟩

theorem keep_of_loadPrimitives {primitives : Primitives (Machine σ)}
    (yields : (loadPrimitives around place).Yields primitives) :
    primitives.Keep Machine.volume := by
  obtain ⟨identities, rfl⟩ := standard_of_loadPrimitives yields
  exact keep_standard around.entropy place.cost identities

/-- The machine when it was reported which files of identities are passed over. -/
def reported (around : Surroundings σ) (place : Place) (machine : Machine σ) : Machine σ :=
  { machine with
    printed := machine.printed ++ (Identity.skipped around.directory place.identities
      machine.volume.disk).map .report }

private theorem returns_reportSkipped {before after : Machine σ} {value : Unit} :
    (reportSkipped around place).Returns before value after ↔
      reported around place before = after := by
  have same : reportSkipped around place before = printAll ((Identity.skipped around.directory
      place.identities before.volume.disk).map .report) before := rfl
  unfold Returns
  rw [same]
  exact returns_printAll

/-- Only the volume decides which identities are loaded. -/
theorem returns_loadPrimitives_iff {primitives : Primitives (Machine σ)} {before after : Machine σ} :
    (loadPrimitives around place).Returns before primitives after ↔
      ∃ identities, (Identity.loadAll around.directory place.identities).Returns before.volume
          identities before.volume ∧
        .standard (Machine.entropy around.entropy) place.cost identities = primitives ∧
        before = after := by
  constructor
  · intro returned
    obtain ⟨identities, between, loaded, returned⟩ := returns_bind.mp returned
    obtain ⟨rfl, rfl⟩ := returns_pure.mp returned
    obtain ⟨found, rfl⟩ := returns_onVolume_of_keeps (Identity.keeps_loadAll id _ _) loaded
    exact ⟨identities, found, rfl, rfl⟩
  · rintro ⟨identities, loaded, rfl, rfl⟩
    exact returns_bind.mpr ⟨identities, before, returns_onVolume.mpr ⟨_, loaded, rfl⟩,
      returns_pure.mpr ⟨rfl, rfl⟩⟩

theorem returns_equip {primitives : Primitives (Machine σ)} {before after : Machine σ} :
    (equip around place).Returns before primitives after ↔
      (loadPrimitives around place).Returns before primitives before ∧
        reported around place before = after := by
  unfold equip
  rw [returns_bind]
  constructor
  · rintro ⟨_, between, told, loaded⟩
    obtain rfl := returns_reportSkipped.mp told
    obtain ⟨identities, found, rfl, rfl⟩ := returns_loadPrimitives_iff.mp loaded
    exact ⟨returns_loadPrimitives_iff.mpr ⟨identities, found, rfl, rfl⟩, rfl⟩
  · rintro ⟨loaded, rfl⟩
    obtain ⟨identities, found, rfl, -⟩ := returns_loadPrimitives_iff.mp loaded
    exact ⟨(), reported around place before, returns_reportSkipped.mpr rfl,
      returns_loadPrimitives_iff.mpr ⟨identities, found, rfl, rfl⟩⟩

theorem keeps_equip (around : Surroundings σ) (place : Place) :
    (equip around place).Keeps Machine.volume :=
  ((keeps_get _).bind fun _ => keeps_printAll _).bind fun _ => keeps_loadPrimitives around place

theorem keep_of_equip {primitives : Primitives (Machine σ)}
    (yields : (equip around place).Yields primitives) : primitives.Keep Machine.volume := by
  obtain ⟨before, after, equipped⟩ := yields
  exact keep_of_loadPrimitives (returns_equip.mp equipped).1.yields

theorem keeps_unlock {primitives : Primitives (Machine σ)} (keep : primitives.Keep Machine.volume)
    (info : InfoFile) : (unlock info primitives).Keeps Machine.volume :=
  Unlocking.keeps_unlock keep (keeps_source .existing) info

theorem keeps_removalTarget {primitives : Primitives (Machine σ)}
    (keep : primitives.Keep Machine.volume) (info : InfoFile) (removal : Removal) :
    (removalTarget info primitives removal).Keeps Machine.volume := by
  cases removal with
  | recipient id =>
    exact (keeps_print _).bind fun _ => (keeps_unlock keep info).bind fun _ => keeps_pure _ _
  | position index =>
    exact (keeps_print _).bind fun _ => (keeps_unlock keep info).bind fun _ => keeps_pure _ _
  | entered =>
    exact (keeps_print _).bind fun _ => (keeps_source .existing).bind fun passphrase =>
      (Unlocking.keeps_withPassphrase keep info passphrase).bind fun _ => keeps_pure _ _

theorem keeps_makeRepository (name : String) (place : Place) :
    (makeRepository place : Action (Machine σ) Unit).Keeps (filesNamed name) := by
  refine (keeps_filesNamed (keeps_holds _) name).bind fun present => ?_
  split
  · exact keeps_pure _ _
  · exact (keeps_onVolume (Volume.keeps_makeDirectories name _)).bind fun _ =>
      keeps_filesNamed (keeps_print _) name

private theorem keepsOnStop_writeInfo (place : Place) (info : InfoFile) :
    (writeInfo place info : Action (Machine σ) Unit).KeepsOnStop infoFiles :=
  keepsOnStop_onVolume (InfoFile.keepsOnStop_save place.repository info)

theorem keepsTrails_writeInfo (part : Audit.Part) (place : Place) (info : InfoFile) :
    (writeInfo place info : Action (Machine σ) Unit).Keeps (filesNamed part.fileName) := by
  have notDraft : InfoFile.draftName ≠ part.fileName := by cases part <;> decide
  have other := (Audit.Part.fileName_ne_info part).symm
  exact keeps_onVolume (InfoFile.keeps_save notDraft other place.repository info)

theorem unfailing_note (around : Surroundings σ) (place : Place) (event : Audit.Event) :
    (note around place event).Unfailing :=
  unfailing_onVolume (Audit.unfailing_note _ _ _ _)

/-- The outline of the disk that a note of the trail keeps. -/
def outline (machine : Machine σ) : (Location → Prop) × (Location → Option Bytes) :=
  machine.volume.outline InfoFile.fileName

theorem keeps_outline {action : Action (Machine σ) α} (keeps : action.Keeps Machine.volume) :
    action.Keeps outline :=
  keeps.coarser (Volume.outline InfoFile.fileName)

theorem keeps_note (around : Surroundings σ) (place : Place) (event : Audit.Event) :
    (note around place event).Keeps outline :=
  keeps_onVolume (Audit.keeps_note Audit.Part.fileName_ne_info _ _ _ _)

/-! ### Commands in parts -/

/-- What is left of adding a key when the repository is unlocked. -/
def addFor (around : Surroundings σ) (place : Place) (info : InfoFile) (unlocked : Unlocked)
    (factor : FactorSpec) (primitives : Primitives (Machine σ)) : Action (Machine σ) Unit := do
  let ((), info) ← Edit.onFile info
    (Repository.addFactor unlocked.masterKey factor primitives (Machine.source .added))
  writeInfo place info
  note around place
    ⟨"add-key", some unlocked.factor.shown, some (toString info.keys.length ++ " keys")⟩
  Machine.success "Key added"

theorem addKey_eq (around : Surroundings σ) (place : Place) (recipient : Option String) :
    addKey around place recipient = (do
      let info ← readInfo place
      let primitives ← equip around place
      announceUnlock
      let unlocked ← unlock info primitives
      let factor := FactorSpec.ofRecipient recipient
      if factor = .passphrase then
        Machine.inform "Choose the passphrase to add."
        addFor around place info unlocked factor primitives
      else
        addFor around place info unlocked factor primitives) :=
  rfl

/-- What is left of moving an info file forward when it is clear what will be asked for. -/
def migrate (around : Surroundings σ) (place : Place) (info : InfoFile)
    (primitives : Primitives (Machine σ)) : Action (Machine σ) Unit := do
  let (report, info) ← Edit.onFile info
    (Repository.upgrade primitives (Machine.source .existing))
  if report.fromVersion = report.toVersion then
    Machine.inform ("Repository is already at version " ++ toString report.toVersion.toInt)
  else
    writeInfo place info
    note around place ⟨"upgrade", none, some (versionStep " -> " report)⟩
    Machine.success ("Repository upgraded from version " ++ versionStep " to " report)
    if report.rotatedPassphrase then
      Machine.inform "Your passphrase was re-wrapped with a new salt."

theorem upgrade_eq (around : Surroundings σ) (place : Place) :
    upgrade around place = (do
      let info ← readInfo place
      let primitives ← equip around place
      if info.hasLegacyPassphrase then
        Machine.inform "Enter the repository passphrase to migrate it."
        migrate around place info primitives
      else
        migrate around place info primitives) :=
  rfl

/-- The commands on a repository begin alike: they read its info file and the identities. -/
theorem keepsOnStop_opened
    {next : InfoFile → Primitives (Machine σ) → Action (Machine σ) Unit}
    (rest : ∀ info primitives, primitives.Keep Machine.volume →
      (next info primitives).KeepsOnStop (filesNamed name)) :
    (readInfo place >>= fun info =>
      equip around place >>= next info).KeepsOnStop (filesNamed name) := by
  refine (keeps_filesNamed (keeps_readInfo place) name).bind_onStop fun info => ?_
  refine (keeps_filesNamed (keeps_equip around place) name).bind_yields_onStop
    fun primitives yields => ?_
  exact rest info primitives (keep_of_equip yields)

/-! ### Commands that write no info file -/

private theorem keepsOnStop_testKeys (name : String) (around : Surroundings σ) (place : Place) :
    (testKeys around place).KeepsOnStop (filesNamed name) := by
  refine keepsOnStop_opened fun info primitives keep => ?_
  refine (keeps_filesNamed (keeps_unlock keep info) name).bind_onStop fun unlocked => ?_
  have notes : (note around place ⟨"unlock", some unlocked.factor.shown, none⟩).KeepsOnStop
      (filesNamed name) := fun before stop after stopped =>
    (unfailing_note around place _ before stop after stopped).elim
  exact notes.bind_unfailing fun _ => unfailing_print _

theorem keeps_listKeys (place : Place) :
    (listKeys place : Action (Machine σ) Unit).Keeps Machine.volume := by
  refine (keeps_readInfo place).bind fun info => ?_
  split
  · exact (keeps_print _).bind fun _ => keeps_print _
  · exact (keeps_print _).bind fun _ => keeps_print _

theorem keeps_newIdentity (other : name.toList.length ≠ 69) (around : Surroundings σ)
    (place : Place) : (newIdentity around place).Keeps (filesNamed name) := by
  refine (keeps_filesNamed (keeps_generate around.entropy) name).bind fun identity => ?_
  refine (keeps_onVolume (Identity.keeps_save other _ _ _ identity)).bind fun path => ?_
  have prints (printed : Printed) :
      (print printed : Action (Machine σ) Unit).Keeps (filesNamed name) :=
    keeps_filesNamed (keeps_print printed) name
  exact (prints _).bind fun _ => (prints _).bind fun _ => (prints _).bind fun _ => prints _

/-! ### Commands that stop -/

section Stops

variable (saves : ∀ info, (writeInfo place info : Action (Machine σ) Unit).KeepsOnStop
  (filesNamed name))
include saves

private theorem keepsOnStop_createRepository (around : Surroundings σ) (recipient : Option String) :
    (createRepository around place recipient).KeepsOnStop (filesNamed name) := by
  refine (keeps_filesNamed (keeps_holds _) name).bind_onStop fun present => ?_
  split
  · exact ((keeps_filesNamed (keeps_print _) name).bind fun _ => keeps_fail _ _).onStop
  · refine (keeps_makeRepository name place).bind_onStop fun _ => ?_
    dsimp only
    refine (keeps_filesNamed (keeps_equip around place) name).bind_yields_onStop
      fun primitives yields => ?_
    have keep := keep_of_equip yields
    have creates := Repository.keeps_create keep (keeps_source .first)
    refine (keeps_filesNamed (creates _) name).bind_onStop fun created => ?_
    exact (saves created.2).bind_unfailing fun _ =>
      (unfailing_note around place _).bind fun _ => (unfailing_print _).bind fun _ =>
        unfailing_print _

private theorem keepsOnStop_addKey (around : Surroundings σ) (recipient : Option String) :
    (addKey around place recipient).KeepsOnStop (filesNamed name) := by
  rw [addKey_eq]
  refine keepsOnStop_opened fun info primitives keep => ?_
  have added (unlocked : Unlocked) (factor : FactorSpec) :
      (addFor around place info unlocked factor primitives).KeepsOnStop (filesNamed name) := by
    have edits := Edit.keeps_onFile
      (Repository.keeps_addFactor keep (keeps_source .added) unlocked.masterKey factor) info
    refine (keeps_filesNamed edits name).bind_onStop fun edited => ?_
    exact (saves edited.2).bind_unfailing fun _ =>
      (unfailing_note around place _).bind fun _ => unfailing_print _
  refine (keeps_filesNamed (keeps_print _) name).bind_onStop fun _ => ?_
  refine (keeps_filesNamed (keeps_unlock keep info) name).bind_onStop fun unlocked => ?_
  dsimp only
  split
  · exact (keeps_filesNamed (keeps_print _) name).bind_onStop fun _ => added unlocked _
  · exact added unlocked _

private theorem keepsOnStop_removeKey (around : Surroundings σ) (removal : Removal) :
    (removeKey around place removal).KeepsOnStop (filesNamed name) := by
  refine keepsOnStop_opened fun info primitives keep => ?_
  have chooses := keeps_removalTarget keep info removal
  refine (keeps_filesNamed chooses name).bind_onStop fun target => ?_
  have edits : (Edit.onFile info (Repository.removeFactor target) : Action (Machine σ) _).Keeps
      Machine.volume := Edit.keeps_onFile (Repository.keeps_removeFactor target) info
  refine (keeps_filesNamed edits name).bind_onStop fun edited => ?_
  exact (saves edited.2).bind_unfailing fun _ =>
    (unfailing_note around place _).bind fun _ => unfailing_print _

private theorem keepsOnStop_upgrade (around : Surroundings σ) :
    (upgrade around place).KeepsOnStop (filesNamed name) := by
  rw [upgrade_eq]
  refine keepsOnStop_opened fun info primitives keep => ?_
  have migrated : (migrate around place info primitives).KeepsOnStop (filesNamed name) := by
    have edits := Edit.keeps_onFile
      (Repository.keeps_upgrade keep (keeps_source .existing)) info
    refine (keeps_filesNamed edits name).bind_onStop fun edited => ?_
    dsimp only
    split
    · exact (keeps_filesNamed (keeps_print _) name).onStop
    · refine (saves edited.2).bind_unfailing fun _ => ?_
      refine (unfailing_note around place _).bind fun _ => (unfailing_print _).bind fun _ => ?_
      split
      · exact unfailing_print _
      · exact unfailing_pure ()
  split
  · exact (keeps_filesNamed (keeps_print _) name).bind_onStop fun _ => migrated
  · exact migrated

/-- A command that stops has changed no file of a name that saving an info file leaves alone when
it stops; only showing the trail may have begun one. -/
theorem keepsOnStop_runAt_of_ne (short : name.toList.length ≠ 69) (around : Surroundings σ)
    {command : Command} (other : ∀ limit, command ≠ .showAudit limit) :
    (runAt around place command).KeepsOnStop (filesNamed name) := by
  cases command with
  | createRepository recipient => exact keepsOnStop_createRepository saves around recipient
  | addKey recipient => exact keepsOnStop_addKey saves around recipient
  | removeKey removal => exact keepsOnStop_removeKey saves around removal
  | listKeys => exact (keeps_filesNamed (keeps_listKeys place) name).onStop
  | testKeys => exact keepsOnStop_testKeys name around place
  | upgrade => exact keepsOnStop_upgrade saves around
  | newIdentity => exact (keeps_newIdentity short around place).onStop
  | showAudit limit => exact absurd rfl (other limit)

end Stops

/-! ### Commands and info files -/

private theorem keeps_noted (around : Surroundings σ) (place : Place) (event : Audit.Event) :
    (note around place event).Keeps infoFiles :=
  (keeps_note around place event).coarser Prod.snd

theorem keeps_testKeys (around : Surroundings σ) (place : Place) :
    (testKeys around place).Keeps infoFiles := by
  refine (keeps_infoFiles (keeps_readInfo place)).bind fun info => ?_
  refine (keeps_infoFiles (keeps_equip around place)).bind_yields fun primitives yields => ?_
  have keep := keep_of_equip yields
  refine (keeps_infoFiles (keeps_unlock keep info)).bind fun unlocked => ?_
  exact (keeps_noted around place _).bind fun _ => keeps_infoFiles (keeps_print _)

theorem keeps_showAudit (around : Surroundings σ) (place : Place) (limit : Nat) :
    (showAudit around place limit).Keeps infoFiles := by
  have tends := Audit.tending_outline Audit.Part.fileName_ne_info place.repository
  have opens : (onVolume (Audit.openTrail around.database place.repository) :
      Action (Machine σ) _).Keeps infoFiles :=
    (keeps_onVolume (Audit.holds_openTrail tends)).coarser Prod.snd
  refine (keeps_infoFiles (keeps_holds _)).bind fun present => ?_
  split
  · refine opens.bind_yields fun opened yields => ?_
    cases opened with
    | none => exact keeps_fail _ _
    | some home =>
      obtain rfl := Audit.home_of_openTrail (yields_of_onVolume yields)
      have queries : (onVolume (Audit.query around.database (Audit.homeOf place.repository) limit) :
          Action (Machine σ) _).Keeps infoFiles :=
        (keeps_onVolume (Audit.holds_query tends limit)).coarser Prod.snd
      refine queries.bind fun records => ?_
      split
      · exact keeps_infoFiles (keeps_print _)
      · exact keeps_infoFiles (keeps_print _)
  · exact keeps_fail _ _

/-- A command that stops has changed no info file. -/
theorem keepsOnStop_runAt (around : Surroundings σ) (place : Place) (command : Command) :
    (runAt around place command).KeepsOnStop infoFiles := by
  by_cases shows : ∃ limit, command = .showAudit limit
  · obtain ⟨limit, rfl⟩ := shows
    exact (keeps_showAudit around place limit).onStop
  · rw [not_exists] at shows
    exact keepsOnStop_runAt_of_ne (keepsOnStop_writeInfo place) (by decide) around shows

/-- A command that stops has changed no trail, unless it was to show one. -/
theorem keepsOnStop_trails (part : Audit.Part) (around : Surroundings σ) (place : Place)
    {command : Command} (other : ∀ limit, command ≠ .showAudit limit) :
    (runAt around place command).KeepsOnStop (filesNamed part.fileName) :=
  keepsOnStop_runAt_of_ne (fun info => (keepsTrails_writeInfo part place info).onStop)
    (by cases part <;> decide) around other

end Commands

end Keywarden
