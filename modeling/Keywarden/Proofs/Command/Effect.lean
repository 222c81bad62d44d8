import Keywarden.Proofs.Command.Keeps
import Keywarden.Proofs.Repository

/-!
# What commands do to info files

A command that succeeds changes at most the info file of its place, in the way that the
command stands for, and adds or removes a key only when the file as it was could be
unlocked.
-/

namespace Keywarden

open Keywarden.Action Machine

variable {σ α : Type} {around : Surroundings σ} {place : Place}

namespace Commands

/-- What is at hand unlocks an info file: an identity of the place, or else the passphrase
that the console gives. -/
def Unlocks (around : Surroundings σ) (place : Place) (info : InfoFile)
    (machine : Machine σ) : Prop :=
  ∃ primitives printed unlocked after,
    (loadPrimitives around place).Returns machine primitives machine ∧
      (unlock info primitives).Returns { machine with printed } unlocked after

def Opens (around : Surroundings σ) (place : Place) (info : InfoFile) (machine : Machine σ)
    (unlocked : Unlocked) : Prop :=
  ∃ primitives printed after,
    (loadPrimitives around place).Returns machine primitives machine ∧
      (unlock info primitives).Returns { machine with printed } unlocked after

theorem Opens.unlocks {info : InfoFile} {machine : Machine σ} {unlocked : Unlocked}
    (opens : Opens around place info machine unlocked) : Unlocks around place info machine := by
  obtain ⟨primitives, printed, after, loaded, unlocking⟩ := opens
  exact ⟨primitives, printed, unlocked, after, loaded, unlocking⟩

/-- The removal stands for the factor, and what is at hand unlocks the info file; a
passphrase that is to be removed has to unlock by itself. -/
inductive Releases (around : Surroundings σ) (place : Place) (info : InfoFile)
    (machine : Machine σ) : Removal → FactorId → Prop
  | recipient {id : String} (unlocks : Unlocks around place info machine) :
      Releases around place info machine (.recipient id) (.recipient id)
  | position {index : Nat} (unlocks : Unlocks around place info machine) :
      Releases around place info machine (.position index) (.passphrase index)
  | entered {primitives : Primitives (Machine σ)} {printed : List Printed}
      {passphrase : String} {asked after : Machine σ} {unlocked : Unlocked}
      (loaded : (loadPrimitives around place).Returns machine primitives machine)
      (acquired : (Machine.source .existing).acquire.Returns { machine with printed }
        passphrase asked)
      (unlocks : (Unlocking.withPassphrase info passphrase primitives).Returns asked
        unlocked after) :
      Releases around place info machine .entered unlocked.factor

/-- What a command that succeeds does to the info files of a machine. -/
inductive Effect (around : Surroundings σ) (place : Place) (before after : Machine σ) :
    Command → Prop
  | created {recipient : Option String} {entry : KeyEntry}
      (created : InfoFile.Created place.repository (InfoFile.empty.append entry)
        before.volume.disk after.volume.disk) :
      Effect around place before after (.createRepository recipient)
  | added {recipient : Option String} {old : InfoFile} {entry : KeyEntry}
      (unlocks : Unlocks around place old before)
      (replaced : InfoFile.Replaced place.infoPath old (old.append entry)
        before.volume.disk after.volume.disk) :
      Effect around place before after (.addKey recipient)
  | removed {removal : Removal} {old : InfoFile} {target : FactorId} {index : Nat}
      (releases : Releases around place old before removal target)
      (found : Repository.position? old.keys target = some index)
      (inside : index < old.keys.length)
      (replaced : InfoFile.Replaced place.infoPath old
        { old with keys := old.keys.eraseIdx index } before.volume.disk after.volume.disk) :
      Effect around place before after (.removeKey removal)
  | current {old : InfoFile} (stood : InfoFile.Stands place.infoPath old before.volume.disk)
      (latest : old.version = InfoFile.currentVersion)
      (same : after.infoFiles = before.infoFiles) :
      Effect around place before after .upgrade
  | upgraded {old new : InfoFile} (older : old.version = 1 ∨ old.version = 2)
      (latest : new.version = InfoFile.currentVersion)
      (replaced : InfoFile.Replaced place.infoPath old new
        before.volume.disk after.volume.disk) :
      Effect around place before after .upgrade
  | listed (same : after.infoFiles = before.infoFiles) :
      Effect around place before after .listKeys
  | tested (same : after.infoFiles = before.infoFiles) :
      Effect around place before after .testKeys
  | identityMade (same : after.infoFiles = before.infoFiles) :
      Effect around place before after .newIdentity
  | audited {limit : Nat} (same : after.infoFiles = before.infoFiles) :
      Effect around place before after (.showAudit limit)

/-! ### Parts of commands -/

theorem of_readInfo {before after : Machine σ} {info : InfoFile}
    (returned : (readInfo place).Returns before info after) :
    before = after ∧ InfoFile.Stands place.infoPath info before.volume.disk := by
  obtain ⟨loaded, same⟩ := returns_onVolume_of_keeps (InfoFile.keeps_load id _) returned
  exact ⟨same, InfoFile.of_load loaded⟩

/-- What follows the reading and the loading starts when the files were reported that are passed
over. -/
theorem of_opened {next : InfoFile → Primitives (Machine σ) → Action (Machine σ) Unit}
    {before after : Machine σ}
    (returned : (readInfo place >>= fun info =>
      equip around place >>= next info).Returns before () after) :
    ∃ info primitives, InfoFile.Stands place.infoPath info before.volume.disk ∧
      (loadPrimitives around place).Returns before primitives before ∧
      primitives.Keep Machine.volume ∧
      (next info primitives).Returns (reported around place before) () after := by
  obtain ⟨info, _, read, returned⟩ := returns_bind.mp returned
  obtain ⟨rfl, stood⟩ := of_readInfo read
  obtain ⟨primitives, _, equipped, returned⟩ := returns_bind.mp returned
  obtain ⟨loaded, rfl⟩ := returns_equip.mp equipped
  exact ⟨info, primitives, stood, loaded, keep_of_loadPrimitives loaded.yields, returned⟩

theorem of_announced {info : InfoFile} {primitives : Primitives (Machine σ)}
    {next : Unlocked → Action (Machine σ) α} {before after : Machine σ} {value : α}
    (loaded : (loadPrimitives around place).Returns before primitives before)
    (returned : (announceUnlock >>= fun _ => unlock info primitives >>= next).Returns
      (reported around place before) value after) :
    ∃ unlocked opened, Opens around place info before unlocked ∧
      opened.volume = before.volume ∧ (next unlocked).Returns opened value after := by
  have keep := keep_of_loadPrimitives loaded.yields
  obtain ⟨_, _, announced, returned⟩ := returns_bind.mp returned
  obtain rfl := returns_print.mp announced
  obtain ⟨unlocked, opened, unlocking, returned⟩ := returns_bind.mp returned
  have sameVolume := (keeps_unlock keep info).of_returns unlocking
  exact ⟨unlocked, opened, ⟨primitives, _, opened, loaded, unlocking⟩, sameVolume, returned⟩

/-- An info file that agrees with one that was read, in all but its entries, is read back. -/
theorem reads_of_stood {path : String} {disk : Disk} {old new : InfoFile}
    (stood : InfoFile.Stands path old disk) (sameApp : new.app = old.app)
    (sameSalt : new.legacySalt = old.legacySalt ∨ new.legacySalt = none)
    (sameHash : new.legacyHash = old.legacyHash ∨ new.legacyHash = none) :
    InfoFile.decode new.encode = .ok new := by
  obtain ⟨content, -, decoded⟩ := stood
  obtain ⟨marked, saltShown, hashShown⟩ := InfoFile.of_decode decoded
  refine InfoFile.decode_encode (sameApp.trans marked) ?_ ?_
  · rcases sameSalt with same | same
    · rwa [same]
    · simp [same]
  · rcases sameHash with same | same
    · rwa [same]
    · simp [same]

theorem of_locate {invocation : Invocation} {before after : Machine σ}
    (returned : (locate around invocation).Returns before place after) : before = after := by
  obtain ⟨settings, between, loaded, returned⟩ := returns_bind.mp returned
  obtain ⟨-, rfl⟩ := returns_onVolume_of_keeps (Settings.keeps_load id _) loaded
  obtain ⟨found, _, got, returned⟩ := returns_bind.mp returned
  cases got
  exact (returns_pure.mp returned).2

/-! ### Outcomes -/

section Outcomes

variable {machine : Machine σ}

end Outcomes

end Commands

end Keywarden
