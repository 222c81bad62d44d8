import Keywarden.Proofs.Command.Effect

/-!
# What commands record

A command that succeeds notes at most one event, and that last of all: what the note says is what
the command did.  What it did to the info files follows from the same account.
-/

namespace Keywarden

open Keywarden.Action Machine

variable {σ α : Type} {around : Surroundings σ} {place : Place}

namespace Commands

/-- What a command that succeeds did, and the event that stands for it in the trail. -/
inductive Recorded (around : Surroundings σ) (place : Place) (before after : Machine σ) :
    Command → Option Audit.Event → Prop
  | created {recipient : Option String} {entry : KeyEntry}
      (created : InfoFile.Created place.repository (InfoFile.empty.append entry)
        before.volume.disk after.volume.disk) :
      Recorded around place before after (.createRepository recipient)
        (some ⟨"init", some (firstFactor (.ofRecipient recipient)), some "repository created"⟩)
  | added {recipient : Option String} {old : InfoFile} {entry : KeyEntry} {unlocked : Unlocked}
      (opens : Opens around place old before unlocked)
      (replaced : InfoFile.Replaced place.infoPath old (old.append entry)
        before.volume.disk after.volume.disk) :
      Recorded around place before after (.addKey recipient)
        (some ⟨"add-key", some unlocked.factor.shown,
          some (toString (old.append entry).keys.length ++ " keys")⟩)
  | removed {removal : Removal} {old : InfoFile} {target : FactorId} {index : Nat}
      {entry : KeyEntry} (releases : Releases around place old before removal target)
      (found : Repository.position? old.keys target = some index)
      (stored : old.keys[index]? = some entry)
      (replaced : InfoFile.Replaced place.infoPath old
        { old with keys := old.keys.eraseIdx index } before.volume.disk after.volume.disk) :
      Recorded around place before after (.removeKey removal)
        (some ⟨"rm-key", some target.shown, some entry.label⟩)
  | tested {old : InfoFile} {unlocked : Unlocked}
      (stood : InfoFile.Stands place.infoPath old before.volume.disk)
      (opens : Opens around place old before unlocked)
      (same : after.infoFiles = before.infoFiles) :
      Recorded around place before after .testKeys
        (some ⟨"unlock", some unlocked.factor.shown, none⟩)
  | upgraded {old new : InfoFile} (older : old.version = 1 ∨ old.version = 2)
      (latest : new.version = InfoFile.currentVersion)
      (replaced : InfoFile.Replaced place.infoPath old new
        before.volume.disk after.volume.disk) :
      Recorded around place before after .upgrade
        (some ⟨"upgrade", none,
          some (toString old.version.toInt ++ " -> " ++ toString new.version.toInt)⟩)
  | current {old : InfoFile} (stood : InfoFile.Stands place.infoPath old before.volume.disk)
      (latest : old.version = InfoFile.currentVersion)
      (same : after.infoFiles = before.infoFiles) :
      Recorded around place before after .upgrade none
  | listed (same : after.infoFiles = before.infoFiles) :
      Recorded around place before after .listKeys none
  | identityMade (same : after.infoFiles = before.infoFiles) :
      Recorded around place before after .newIdentity none
  | audited {limit : Nat} (same : after.infoFiles = before.infoFiles) :
      Recorded around place before after (.showAudit limit) none

/-- A run ends with the note of an event, which is taken where the info file can be found, and
changes no trail before; or it notes nothing and changes no trail at all. -/
inductive Closes (around : Surroundings σ) (place : Place) (before after : Machine σ) :
    Option Audit.Event → Prop
  | quiet (same : ∀ part : Audit.Part,
      after.filesNamed part.fileName = before.filesNamed part.fileName) :
      Closes around place before after none
  | noted {event : Audit.Event} {written told : Machine σ} {location : Location}
      (same : ∀ part : Audit.Part,
        written.filesNamed part.fileName = before.filesNamed part.fileName)
      (located : written.volume.disk.locate place.infoPath = .ok location)
      (notes : (note around place event).Returns written () told)
      (last : after.volume = told.volume) :
      Closes around place before after (some event)

def Records (around : Surroundings σ) (place : Place) (before after : Machine σ)
    (command : Command) : Prop :=
  ∃ event, Recorded around place before after command event ∧
    Closes around place before after event

theorem Closes.of_earlier {start before after : Machine σ} {event : Option Audit.Event}
    (closes : Closes around place before after event)
    (same : ∀ part : Audit.Part,
      before.filesNamed part.fileName = start.filesNamed part.fileName) :
    Closes around place start after event := by
  cases closes with
  | quiet kept => exact .quiet fun part => (kept part).trans (same part)
  | noted kept located notes last =>
    exact .noted (fun part => (kept part).trans (same part)) located notes last

theorem filesNamed_congr {before after : Machine σ} (same : after.volume = before.volume)
    (name : String) : after.filesNamed name = before.filesNamed name :=
  congrArg (Volume.filesNamed name) same

/-! ### Writing and noting -/

section Writing

variable {info : InfoFile} {event : Audit.Event} {next : Action (Machine σ) Unit}
  {before after : Machine σ} (quiet : next.Keeps Machine.volume)
  (returned : (writeInfo place info >>= fun _ => note around place event >>= fun _ => next).Returns
    before () after)
include quiet returned

theorem closes_of_write : Closes around place before after (some event) := by
  obtain ⟨_, written, writing, returned⟩ := returns_bind.mp returned
  have kept (part : Audit.Part) := (keepsTrails_writeInfo part place info).of_returns writing
  obtain ⟨volume, saved, rfl⟩ := returns_onVolume.mp writing
  obtain ⟨same, location, located, -⟩ := InfoFile.of_save saved
  obtain ⟨_, told, notes, returned⟩ := returns_bind.mp returned
  exact .noted kept ((Disk.locate_congr same _ _).mpr located) notes (quiet.of_returns returned)

/-- The info file is written, and nothing that follows changes it. -/
theorem placed_of_write (reads : InfoFile.decode info.encode = .ok info) :
    InfoFile.Placed place.infoPath info before.volume.disk after.volume.disk ∧
      after.volume.disk.directories = before.volume.disk.directories := by
  obtain ⟨_, between, written, returned⟩ := returns_bind.mp returned
  obtain ⟨volume, saved, rfl⟩ := returns_onVolume.mp written
  have kept := ((keeps_note around place event).bind fun _ => keeps_outline quiet).of_returns
    returned
  have sameDirectories : after.volume.disk.directories = volume.disk.directories :=
    congrArg Prod.fst kept
  have sameFiles : after.volume.disk.filesNamed InfoFile.fileName =
      volume.disk.filesNamed InfoFile.fileName := congrArg Prod.snd kept
  have placed := InfoFile.placed_of_save reads saved
  have leads := (InfoFile.of_save saved).1
  exact ⟨placed.later sameDirectories sameFiles, sameDirectories.trans leads⟩

theorem replaced_of_write {old : InfoFile} {start : Machine σ}
    (stood : InfoFile.Stands place.infoPath old start.volume.disk)
    (same : before.volume = start.volume) (reads : InfoFile.decode info.encode = .ok info) :
    InfoFile.Replaced place.infoPath old info start.volume.disk after.volume.disk ∧
      Closes around place start after (some event) := by
  obtain ⟨placed, leads⟩ := placed_of_write quiet returned reads
  have closes := closes_of_write quiet returned
  rw [same] at placed leads
  exact ⟨⟨placed, stood, Disk.locate_congr leads _⟩,
    closes.of_earlier fun part => filesNamed_congr same part.fileName⟩

end Writing

/-! ### Commands that succeed -/

private theorem of_makeRepository {before after : Machine σ}
    (present : before.volume.disk.holds place.repository = true)
    (returned : (makeRepository place).Returns before () after) : before = after := by
  obtain ⟨found, between, looked, returned⟩ := returns_bind.mp returned
  obtain ⟨holds, rfl⟩ := returns_holds.mp looked
  rw [present] at holds
  subst holds
  exact (returns_pure.mp returned).2

private theorem records_createRepository {before after : Machine σ} {recipient : Option String}
    (returned : (createRepository around place recipient).Returns before () after) :
    Records around place before after (.createRepository recipient) := by
  obtain ⟨present, _, looked, returned⟩ := returns_bind.mp returned
  obtain ⟨absent, rfl⟩ := returns_holds.mp looked
  split at returned
  · obtain ⟨_, _, -, failed⟩ := returns_bind.mp returned
    exact (not_returns_fail failed).elim
  rename_i missing
  rw [Bool.not_eq_true] at missing
  rw [missing] at absent
  obtain ⟨_, made, making, returned⟩ := returns_bind.mp returned
  obtain ⟨primitives, told, equipped, returned⟩ := returns_bind.mp returned
  have keep := keep_of_equip equipped.yields
  obtain ⟨⟨masterKey, info⟩, created, creating, returned⟩ := returns_bind.mp returned
  have createdVolume : created.volume = told.volume :=
    (Repository.keeps_create keep (keeps_source .first) _).of_returns creating
  have sameVolume := createdVolume.trans ((keeps_equip around place).of_returns equipped)
  obtain ⟨_, entry, -, -, rfl⟩ := Repository.of_returns_create creating
  have reads : InfoFile.decode (InfoFile.empty.append entry).encode =
      .ok (InfoFile.empty.append entry) := InfoFile.decode_encode rfl nofun nofun
  have quiet (first second : Printed) :
      (print first >>= fun _ => print second : Action (Machine σ) Unit).Keeps Machine.volume :=
    (keeps_print _).bind fun _ => keeps_print _
  obtain ⟨placed, leads⟩ := placed_of_write (quiet _ _) returned reads
  have closes := closes_of_write (quiet _ _) returned
  rw [sameVolume] at placed leads
  have madeTrails (part : Audit.Part) :=
    (keeps_makeRepository part.fileName place).of_returns making
  refine ⟨_, .created ⟨placed.of_earlier
    ((keeps_makeRepository InfoFile.fileName place).of_returns making), absent, ?_⟩,
    closes.of_earlier fun part => (filesNamed_congr sameVolume _).trans (madeTrails part)⟩
  -- The path was tested before the directories were made, so that the test says something of
  -- the place only when none had to be made or the path cannot lead around them.
  rintro (present | ⟨tree, inner⟩) location located
  · obtain rfl := of_makeRepository present making
    exact Disk.holds_eq_false.mp absent location ((Disk.locate_congr leads _ _).mp located)
  · exact InfoFile.free_of_inner tree inner absent located

private theorem records_addFor {before start after : Machine σ} {info : InfoFile}
    {unlocked : Unlocked} {factor : FactorSpec} {primitives : Primitives (Machine σ)}
    (keep : primitives.Keep Machine.volume)
    (stood : InfoFile.Stands place.infoPath info start.volume.disk)
    (opens : Opens around place info start unlocked) (same : before.volume = start.volume)
    (recipient : Option String)
    (returned : (addFor around place info unlocked factor primitives).Returns before () after) :
    Records around place start after (.addKey recipient) := by
  obtain ⟨⟨_, edited⟩, added, adding, returned⟩ := returns_bind.mp returned
  have sameVolume : added.volume = before.volume :=
    (Edit.keeps_onFile (Repository.keeps_addFactor keep (keeps_source .added) _ _)
      info).of_returns adding
  obtain ⟨entry, -, appended⟩ := Repository.of_returns_addFactor (Edit.returns_onFile.mp adding)
  change edited = info.append entry at appended
  subst appended
  have reads : InfoFile.decode (info.append entry).encode = .ok (info.append entry) :=
    reads_of_stood stood rfl (.inl rfl) (.inl rfl)
  obtain ⟨replaced, closes⟩ :=
    replaced_of_write (keeps_print _) returned stood (sameVolume.trans same) reads
  exact ⟨_, .added opens replaced, closes⟩

private theorem records_addKey {before after : Machine σ} {recipient : Option String}
    (returned : (addKey around place recipient).Returns before () after) :
    Records around place before after (.addKey recipient) := by
  rw [addKey_eq] at returned
  obtain ⟨info, primitives, stood, loaded, keep, returned⟩ := of_opened returned
  obtain ⟨unlocked, opened, opens, sameVolume, returned⟩ := of_announced loaded returned
  dsimp only at returned
  split at returned
  · obtain ⟨_, informed, informing, returned⟩ := returns_bind.mp returned
    have informedVolume := (keeps_print _).of_returns informing
    exact records_addFor keep stood opens (informedVolume.trans sameVolume) recipient returned
  · exact records_addFor keep stood opens sameVolume recipient returned

private theorem releases_of_removalTarget {before after : Machine σ} {info : InfoFile}
    {primitives : Primitives (Machine σ)} {removal : Removal} {target : FactorId}
    (loaded : (loadPrimitives around place).Returns before primitives before)
    (returned : (removalTarget info primitives removal).Returns (reported around place before)
      target after) :
    Releases around place info before removal target := by
  cases removal with
  | recipient id =>
    obtain ⟨unlocked, opened, opens, -, returned⟩ := of_announced loaded returned
    obtain ⟨rfl, -⟩ := returns_pure.mp returned
    exact .recipient opens.unlocks
  | position index =>
    obtain ⟨unlocked, opened, opens, -, returned⟩ := of_announced loaded returned
    obtain ⟨rfl, -⟩ := returns_pure.mp returned
    exact .position opens.unlocks
  | entered =>
    obtain ⟨_, _, announced, returned⟩ := returns_bind.mp returned
    obtain rfl := returns_print.mp announced
    obtain ⟨passphrase, asked, acquired, returned⟩ := returns_bind.mp returned
    obtain ⟨unlocked, opened, unlocking, returned⟩ := returns_bind.mp returned
    obtain ⟨rfl, -⟩ := returns_pure.mp returned
    exact .entered loaded acquired unlocking

private theorem records_removeKey {before after : Machine σ} {removal : Removal}
    (returned : (removeKey around place removal).Returns before () after) :
    Records around place before after (.removeKey removal) := by
  obtain ⟨info, primitives, stood, loaded, keep, returned⟩ := of_opened returned
  obtain ⟨target, chosen, choosing, returned⟩ := returns_bind.mp returned
  have releases := releases_of_removalTarget loaded choosing
  have chosenVolume : chosen.volume = (reported around place before).volume :=
    (keeps_removalTarget keep info removal).of_returns choosing
  obtain ⟨⟨entry, edited⟩, removed, removing, returned⟩ := returns_bind.mp returned
  have removedVolume : removed.volume = chosen.volume :=
    (Edit.keeps_onFile (Repository.keeps_removeFactor target) info).of_returns removing
  obtain ⟨index, found, stored, -, session⟩ :=
    Repository.returns_removeFactor.mp (Edit.returns_onFile.mp removing)
  have erased : edited = { info with keys := info.keys.eraseIdx index } :=
    congrArg Session.info session
  subst erased
  have reads : InfoFile.decode (InfoFile.encode { info with keys := info.keys.eraseIdx index }) =
      .ok { info with keys := info.keys.eraseIdx index } :=
    reads_of_stood stood rfl (.inl rfl) (.inl rfl)
  obtain ⟨replaced, closes⟩ :=
    replaced_of_write (keeps_print _) returned stood (removedVolume.trans chosenVolume) reads
  exact ⟨_, .removed releases found stored replaced, closes⟩

private theorem records_testKeys {before after : Machine σ}
    (returned : (testKeys around place).Returns before () after) :
    Records around place before after .testKeys := by
  have same := (keeps_testKeys around place).of_returns returned
  obtain ⟨info, primitives, stood, loaded, keep, returned⟩ := of_opened returned
  obtain ⟨unlocked, opened, unlocking, returned⟩ := returns_bind.mp returned
  obtain ⟨_, told, notes, returned⟩ := returns_bind.mp returned
  have sameVolume : opened.volume = (reported around place before).volume :=
    (keeps_unlock keep info).of_returns unlocking
  have last := (keeps_print _).of_returns returned
  have opens : Opens around place info before unlocked :=
    ⟨primitives, _, opened, loaded, unlocking⟩
  obtain ⟨content, found, -⟩ := id stood
  obtain ⟨location, located, -⟩ := Disk.readFile_eq_ok.mp found
  change (reported around place before).volume.disk.locate _ = _ at located
  rw [← sameVolume] at located
  exact ⟨_, .tested stood opens same,
    .noted (fun part => filesNamed_congr sameVolume part.fileName) located notes last⟩

/-- A file that is not of the current version is renumbered, and its fields of a legacy
passphrase stay or are cleared. -/
theorem upgraded_cases {primitives : Primitives σ} {source : PassphraseSource σ}
    {session : Session σ} {report : UpgradeReport} {edited : InfoFile}
    (upgraded : Repository.Upgraded primitives source session report edited) :
    report.fromVersion = report.toVersion ∧ session.info.version = InfoFile.currentVersion ∨
      report.fromVersion ≠ report.toVersion ∧
        (session.info.version = 1 ∨ session.info.version = 2) ∧
        edited.version = InfoFile.currentVersion ∧ edited.app = session.info.app ∧
        (edited.legacySalt = session.info.legacySalt ∨ edited.legacySalt = none) ∧
        (edited.legacyHash = session.info.legacyHash ∨ edited.legacyHash = none) := by
  cases upgraded with
  | unchanged current => exact .inl ⟨current, current⟩
  | renumbered older =>
    have versions : session.info.version = 1 ∨ session.info.version = 2 := by
      rcases older with second | ⟨first, -⟩
      · exact .inr second
      · exact .inl first
    have behind : session.info.version ≠ InfoFile.currentVersion := by
      rcases versions with version | version <;> rw [version] <;> decide
    exact .inr ⟨behind, versions, rfl, rfl, .inl rfl, .inl rfl⟩
  | rotated oldest present moved =>
    have behind : session.info.version ≠ InfoFile.currentVersion := by
      rw [oldest]
      decide
    cases moved with
    | moved => exact .inr ⟨behind, .inl oldest, rfl, rfl, .inr rfl, .inr rfl⟩

private theorem versions_of_upgraded {primitives : Primitives σ} {source : PassphraseSource σ}
    {session : Session σ} {report : UpgradeReport} {edited : InfoFile}
    (upgraded : Repository.Upgraded primitives source session report edited) :
    report.fromVersion = session.info.version ∧ report.toVersion = edited.version := by
  cases upgraded with
  | unchanged current => exact ⟨rfl, current.symm⟩
  | renumbered older => exact ⟨rfl, rfl⟩
  | rotated oldest present moved => exact ⟨rfl, rfl⟩

private theorem records_migrate {start before after : Machine σ} {info : InfoFile}
    {primitives : Primitives (Machine σ)} (keep : primitives.Keep Machine.volume)
    (stood : InfoFile.Stands place.infoPath info start.volume.disk)
    (same : before.volume = start.volume)
    (returned : (migrate around place info primitives).Returns before () after) :
    Records around place start after .upgrade := by
  obtain ⟨⟨report, edited⟩, moved, moving, returned⟩ := returns_bind.mp returned
  have movedVolume := (Edit.keeps_onFile (Repository.keeps_upgrade keep (keeps_source .existing))
    info).of_returns moving
  have sameVolume : moved.volume = start.volume := movedVolume.trans same
  have upgraded := Repository.of_returns_upgrade (Edit.returns_onFile.mp moving)
  dsimp only at returned
  rcases upgraded_cases upgraded with
    ⟨equal, current⟩ | ⟨apart, older, latest, sameApp, sameSalt, sameHash⟩
  · rw [if_pos equal] at returned
    have printedVolume := ((keeps_print _).of_returns returned).trans sameVolume
    exact ⟨none, .current stood current (filesNamed_congr printedVolume InfoFile.fileName),
      .quiet fun part => filesNamed_congr printedVolume part.fileName⟩
  · rw [if_neg apart] at returned
    have told : (if report.rotatedPassphrase then
        Machine.inform "Your passphrase was re-wrapped with a new salt."
      else pure () : Action (Machine σ) Unit).Keeps Machine.volume := by
      split
      · exact keeps_print _
      · exact keeps_pure _ ()
    obtain ⟨replaced, closes⟩ :=
      replaced_of_write ((keeps_print _).bind fun _ => told) returned stood sameVolume
        (reads_of_stood stood sameApp sameSalt sameHash)
    have recorded : Recorded around place start after .upgrade (some ⟨"upgrade", none,
        some (toString info.version.toInt ++ " -> " ++ toString edited.version.toInt)⟩) :=
      .upgraded older latest replaced
    obtain ⟨fromOld, toNew⟩ := versions_of_upgraded upgraded
    have written : toString info.version.toInt ++ " -> " ++ toString edited.version.toInt =
        versionStep " -> " report := by
      rw [versionStep, fromOld, toNew]
    rw [written] at recorded
    exact ⟨_, recorded, closes⟩

private theorem records_upgrade {before after : Machine σ}
    (returned : (upgrade around place).Returns before () after) :
    Records around place before after .upgrade := by
  rw [upgrade_eq] at returned
  obtain ⟨info, primitives, stood, loaded, keep, returned⟩ := of_opened returned
  split at returned
  · obtain ⟨_, informed, informing, returned⟩ := returns_bind.mp returned
    have same : informed.volume = (reported around place before).volume :=
      (keeps_print _).of_returns informing
    exact records_migrate keep stood same returned
  · have same : (reported around place before).volume = before.volume := rfl
    exact records_migrate keep stood same returned

/-- What a command that succeeds does and records, command by command. -/
theorem records_runAt {before after : Machine σ} {command : Command}
    (other : ∀ limit, command ≠ .showAudit limit)
    (returned : (runAt around place command).Returns before () after) :
    Records around place before after command := by
  cases command with
  | createRepository recipient => exact records_createRepository returned
  | addKey recipient => exact records_addKey returned
  | removeKey removal => exact records_removeKey returned
  | listKeys =>
    have same := (keeps_listKeys place).of_returns returned
    exact ⟨none, .listed (filesNamed_congr same InfoFile.fileName),
      .quiet fun part => filesNamed_congr same part.fileName⟩
  | testKeys => exact records_testKeys returned
  | upgrade => exact records_upgrade returned
  | newIdentity =>
    have infoFiles : after.filesNamed InfoFile.fileName = before.filesNamed InfoFile.fileName :=
      (keeps_newIdentity (by decide) around place).of_returns returned
    have trails (part : Audit.Part) :
        after.filesNamed part.fileName = before.filesNamed part.fileName :=
      (keeps_newIdentity (by cases part <;> decide) around place).of_returns returned
    exact ⟨none, .identityMade infoFiles, .quiet trails⟩
  | showAudit limit => exact absurd rfl (other limit)

theorem Recorded.effect {before after : Machine σ} {command : Command}
    {event : Option Audit.Event} (recorded : Recorded around place before after command event) :
    Effect around place before after command := by
  cases recorded with
  | created created => exact .created created
  | added opens replaced => exact .added opens.unlocks replaced
  | removed releases found stored replaced =>
    obtain ⟨inside, -⟩ := List.getElem?_eq_some_iff.mp stored
    exact .removed releases found inside replaced
  | tested stood opens same => exact .tested same
  | upgraded older latest replaced => exact .upgraded older latest replaced
  | current stood latest same => exact .current stood latest same
  | listed same => exact .listed same
  | identityMade same => exact .identityMade same
  | audited same => exact .audited same

/-- What a command that succeeds does to the info files, command by command. -/
theorem effect_runAt {before after : Machine σ} {command : Command}
    (returned : (runAt around place command).Returns before () after) :
    Effect around place before after command := by
  by_cases shows : ∃ limit, command = .showAudit limit
  · obtain ⟨limit, rfl⟩ := shows
    exact .audited ((keeps_showAudit around place limit).of_returns returned)
  · rw [not_exists] at shows
    obtain ⟨event, recorded, -⟩ := records_runAt shows returned
    exact recorded.effect

end Commands

end Keywarden
