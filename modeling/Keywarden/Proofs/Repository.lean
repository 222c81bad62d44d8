import Keywarden.Proofs.Edit
import Keywarden.Proofs.Unlocking

/-!
# What the operations on factors do

Every operation that adds, removes or moves a factor is atomic, and for each of them
one statement says all that a success implies: which checks passed, which building
blocks were used, and how the info file changed.  The laws of whole repositories
are read off these statements.
-/

namespace Keywarden

open Keywarden.Action

variable {σ : Type}

/-- No byte string of the entry and no recipient is empty. -/
def KeyEntry.Complete : KeyEntry → Prop
  | .passphrase entry =>
    entry.salt ≠ [] ∧ entry.confirmationHash ≠ [] ∧ entry.wrappedKey ≠ []
  | .asymmetric entry => entry.recipientId ≠ "" ∧ entry.wrappedKey ≠ []

namespace InfoFile

theorem hasRecipient_iff {info : InfoFile} {id : String} :
    info.hasRecipient id = true ↔
      ∃ entry, .asymmetric entry ∈ info.keys ∧ Text.equalFold entry.recipientId id = true := by
  rw [hasRecipient, List.any_eq_true]
  constructor
  · rintro ⟨key, member, named⟩
    cases key with
    | passphrase entry => cases named
    | asymmetric entry => exact ⟨entry, member, named⟩
  · rintro ⟨entry, member, named⟩
    exact ⟨.asymmetric entry, member, named⟩

theorem addPassphrase_eq_ok {info edited : InfoFile} {entry : PassphraseEntry} :
    info.addPassphrase entry = .ok edited ↔
      (KeyEntry.passphrase entry).Complete ∧ edited = info.append (.passphrase entry) := by
  unfold addPassphrase KeyEntry.Complete
  split
  · next missing =>
    simp only [Bool.or_eq_true, List.isEmpty_iff] at missing
    constructor
    · intro added
      cases added
    · rintro ⟨⟨salt, hash, wrapped⟩, -⟩
      tauto
  · next present =>
    simp only [Bool.or_eq_true, List.isEmpty_iff, not_or] at present
    simp [present, eq_comm]

theorem addAsymmetric_eq_ok {info edited : InfoFile} {entry : AsymmetricEntry} :
    info.addAsymmetric entry = .ok edited ↔
      (KeyEntry.asymmetric entry).Complete ∧ info.hasRecipient entry.recipientId = false ∧
        edited = info.append (.asymmetric entry) := by
  unfold addAsymmetric KeyEntry.Complete
  split
  · next missing =>
    simp only [Bool.or_eq_true, List.isEmpty_iff, String.isEmpty_iff] at missing
    constructor
    · intro added
      cases added
    · rintro ⟨⟨recipient, wrapped⟩, -⟩
      tauto
  · next present =>
    simp only [Bool.or_eq_true, List.isEmpty_iff, String.isEmpty_iff, not_or] at present
    split
    · next known => simp [known]
    · next unknown => simp [present, unknown, eq_comm]

end InfoFile

namespace Repository

open Edit

section Atomic

variable (primitives : Primitives σ) (source : PassphraseSource σ) (masterKey : MasterKey)

private theorem atomic_addRecipient (recipientId : String) :
    (addRecipient masterKey recipientId primitives).Atomic := by
  refine quiet_info.bind_atomic fun info => ?_
  split
  · exact (quiet_fail _).atomic
  · exact (quiet_lift _).bind_atomic fun wrappedKey => quiet_info.bind_atomic fun info =>
      (quiet_ofExcept _).bind_atomic fun edited => (total_setInfo edited).atomic

theorem atomic_appendPassphrase (passphrase : Bytes) :
    (appendPassphrase masterKey passphrase primitives).Atomic := by
  refine (quiet_lift _).bind_atomic fun salt => quiet_get.bind_atomic fun session => ?_
  refine (quiet_lift _).bind_atomic fun derived => ?_
  refine (quiet_lift _).bind_atomic fun wrappedKey => quiet_info.bind_atomic fun info => ?_
  exact (quiet_ofExcept _).bind_atomic fun edited => (total_setInfo edited).atomic

private theorem atomic_addPassphrase (passphrase : String) :
    (addPassphrase masterKey passphrase primitives).Atomic := by
  refine quiet_info.bind_atomic fun info => ?_
  refine (quiet_attempt (quiet_lift _)).bind_atomic fun attempted => ?_
  split
  · exact (quiet_fail _).atomic
  · exact atomic_appendPassphrase primitives masterKey _
  · exact (quiet_fail _).atomic

theorem atomic_addFactor (factor : FactorSpec) :
    (addFactor masterKey factor primitives source).Atomic := by
  cases factor with
  | recipient id => exact atomic_addRecipient primitives masterKey id
  | passphrase =>
    exact (quiet_lift _).bind_atomic fun passphrase =>
      atomic_addPassphrase primitives masterKey passphrase

theorem atomic_removeFactor (target : FactorId) :
    (removeFactor target : Edit σ KeyEntry).Atomic := by
  refine quiet_info.bind_atomic fun info => ?_
  split
  · exact (quiet_fail _).atomic
  · split
    · exact (quiet_fail _).atomic
    · split
      · exact (quiet_fail _).atomic
      · exact ((total_setInfo _).bind fun _ => total_pure _).atomic

private theorem atomic_rotateLegacy : (rotateLegacy primitives source).Atomic := by
  refine quiet_info.bind_atomic fun info => ?_
  split
  · refine (quiet_lift _).bind_atomic fun acquired => quiet_info.bind_atomic fun info => ?_
    refine (quiet_lift _).bind_atomic fun unlocked => ?_
    split
    · exact (quiet_fail _).atomic
    · refine (atomic_appendPassphrase primitives _ _).bind_total fun _ => ?_
      exact total_info.bind fun info => (total_setInfo _).bind fun _ => total_pure true
  · exact (total_pure false).atomic

/-- Only moving the legacy passphrase can stop; all that follows it is total. -/
theorem atomic_upgrade : (upgrade primitives source).Atomic := by
  refine quiet_info.bind_atomic fun info => ?_
  dsimp only
  split
  · exact (total_pure _).atomic
  · split
    · refine (atomic_rotateLegacy primitives source).bind_total fun rotated => ?_
      exact total_info.bind fun info => (total_setInfo _).bind fun _ => total_pure _
    · split
      · exact (total_info.bind fun info =>
          (total_setInfo _).bind fun _ => total_pure _).atomic
      · exact (quiet_fail _).atomic

end Atomic

section Success

variable {primitives : Primitives σ} {source : PassphraseSource σ} {masterKey : MasterKey}

/-- The entry wraps the master key for the passphrase, under a salt and a cost of the
building blocks. -/
structure Wraps (primitives : Primitives σ) (masterKey : MasterKey) (passphrase : Bytes)
    (entry : PassphraseEntry) : Prop where
  complete : (KeyEntry.passphrase entry).Complete
  salt_made : primitives.generateSalt.Yields entry.salt
  cost_configured : ∃ host, entry.cost = primitives.cost host
  wrapped : ∃ key hash,
    (primitives.deriveKey passphrase entry.salt entry.cost).Yields (key, hash) ∧
      hash.bytes = entry.confirmationHash ∧
      (primitives.wrap key masterKey.bytes).Yields entry.wrappedKey

/-- The calls by which an entry comes about, each in the state that the one before it left. -/
theorem steps_of_returns_appendPassphrase {passphrase : Bytes} {before after : Session σ}
    (returned : (appendPassphrase masterKey passphrase primitives).Returns before () after) :
    ∃ entry salted key hash derived wrapped,
      primitives.generateSalt.Returns before.host entry.salt salted ∧
      entry.cost = primitives.cost salted ∧
      (primitives.deriveKey passphrase entry.salt entry.cost).Returns salted (key, hash) derived ∧
      hash.bytes = entry.confirmationHash ∧
      (primitives.wrap key masterKey.bytes).Returns derived entry.wrappedKey wrapped ∧
      (KeyEntry.passphrase entry).Complete ∧
      after = ⟨before.info.append (.passphrase entry), wrapped⟩ := by
  simp only [appendPassphrase, returns_bind, returns_lift, returns_get] at returned
  obtain ⟨salt, _, ⟨salted, salting, rfl⟩, _, _, ⟨rfl, rfl⟩, ⟨key, hash⟩, _,
    ⟨derived, deriving_, rfl⟩, wrappedKey, _, ⟨wrapped, wrapping, rfl⟩, returned⟩ := returned
  simp only [returns_info, returns_ofExcept, returns_setInfo] at returned
  obtain ⟨_, _, ⟨rfl, rfl⟩, edited, _, ⟨adding, rfl⟩, rfl⟩ := returned
  obtain ⟨complete, rfl⟩ := InfoFile.addPassphrase_eq_ok.mp adding
  exact ⟨⟨salt, hash.bytes, wrappedKey, primitives.cost salted⟩, salted, key, hash, derived,
    wrapped, salting, rfl, deriving_, rfl, wrapping, complete, rfl⟩

theorem of_returns_appendPassphrase {passphrase : Bytes} {before after : Session σ}
    (returned : (appendPassphrase masterKey passphrase primitives).Returns before () after) :
    ∃ entry, Wraps primitives masterKey passphrase entry ∧
      after.info = before.info.append (.passphrase entry) := by
  obtain ⟨entry, salted, key, hash, derived, wrapped, salting, cost, deriving_, met, wrapping,
    complete, rfl⟩ := steps_of_returns_appendPassphrase returned
  exact ⟨entry, ⟨complete, salting.yields, ⟨salted, cost⟩,
    key, hash, deriving_.yields, met, wrapping.yields⟩, rfl⟩

/-- What a successful addition of a factor did, by kind of factor. -/
inductive Added (primitives : Primitives σ) (source : PassphraseSource σ)
    (masterKey : MasterKey) (before : Session σ) : FactorSpec → KeyEntry → Prop
  | recipient {id : String} {blob : Bytes}
      (unknown : before.info.hasRecipient id = false)
      (complete : (KeyEntry.asymmetric ⟨id, blob⟩).Complete)
      (made : (primitives.asymmetricWrap masterKey.bytes id).Yields blob) :
      Added primitives source masterKey before (.recipient id) (.asymmetric ⟨id, blob⟩)
  | passphrase {passphrase context : String} {host final : σ} {entry : PassphraseEntry}
      (acquired : source.acquire.Returns before.host passphrase host)
      (refused : (Unlocking.withPassphrase before.info passphrase primitives).Stops host
        (.failed (.invalidCredentials context)) final)
      (made : Wraps primitives masterKey (Bytes.ofString passphrase) entry) :
      Added primitives source masterKey before .passphrase (.passphrase entry)

theorem of_returns_addFactor {factor : FactorSpec} {before after : Session σ}
    (returned : (addFactor masterKey factor primitives source).Returns before () after) :
    ∃ entry, Added primitives source masterKey before factor entry ∧
      after.info = before.info.append entry := by
  cases factor with
  | recipient id =>
    simp only [addFactor, addRecipient, returns_bind, returns_info] at returned
    obtain ⟨_, _, ⟨rfl, rfl⟩, returned⟩ := returned
    by_cases known : before.info.hasRecipient id = true
    · simp [known] at returned
    · rw [if_neg known] at returned
      simp only [returns_bind, returns_lift, returns_info, returns_ofExcept,
        returns_setInfo] at returned
      obtain ⟨blob, _, ⟨wrapped, wrapping, rfl⟩, _, _, ⟨rfl, rfl⟩, edited, _,
        ⟨adding, rfl⟩, rfl⟩ := returned
      obtain ⟨complete, unknown, rfl⟩ := InfoFile.addAsymmetric_eq_ok.mp adding
      exact ⟨_, .recipient unknown complete wrapping.yields, rfl⟩
  | passphrase =>
    simp only [addFactor, addPassphrase, returns_bind, returns_lift, returns_info,
      returns_attempt] at returned
    obtain ⟨passphrase, _, ⟨host, acquired, rfl⟩, _, _, ⟨rfl, rfl⟩, attempted, checked,
      attempting, returned⟩ := returned
    split at returned
    · simp at returned
    · next context =>
      obtain ⟨final, refused, rfl⟩ := stops_lift.mp attempting
      obtain ⟨entry, made, edited⟩ := of_returns_appendPassphrase returned
      exact ⟨_, .passphrase acquired refused made, edited⟩
    · simp at returned

/-- A recipient that some entry names up to letter case is refused, and nothing changes. -/
theorem stops_addFactor_known {id : String} {before : Session σ}
    (known : before.info.hasRecipient id = true) :
    (addFactor masterKey (.recipient id) primitives source).Stops before
      (.failed InfoFile.duplicateRecipient) before := by
  refine stops_bind.mpr (.inr ⟨before.info, before, returns_info.mpr ⟨rfl, rfl⟩, ?_⟩)
  rw [if_pos known]
  rfl

/-- A recipient that is unknown is added once the master key is sealed for it. -/
theorem returns_addFactor_recipient {id : String} {blob : Bytes} {before : Session σ} {host : σ}
    (unknown : before.info.hasRecipient id = false)
    (complete : (KeyEntry.asymmetric ⟨id, blob⟩).Complete)
    (wrapped : (primitives.asymmetricWrap masterKey.bytes id).Returns before.host blob host) :
    (addFactor masterKey (.recipient id) primitives source).Returns before ()
      ⟨before.info.append (.asymmetric ⟨id, blob⟩), host⟩ := by
  have adding : before.info.addAsymmetric ⟨id, blob⟩ =
      .ok (before.info.append (.asymmetric ⟨id, blob⟩)) :=
    InfoFile.addAsymmetric_eq_ok.mpr ⟨complete, unknown, rfl⟩
  refine returns_bind.mpr ⟨before.info, before, returns_info.mpr ⟨rfl, rfl⟩, ?_⟩
  rw [if_neg (by simp [unknown])]
  refine returns_bind.mpr ⟨blob, ⟨before.info, host⟩, returns_lift.mpr ⟨host, wrapped, rfl⟩, ?_⟩
  refine returns_bind.mpr ⟨before.info, _, returns_info.mpr ⟨rfl, rfl⟩, ?_⟩
  refine returns_bind.mpr ⟨_, _, returns_ofExcept.mpr ⟨adding, rfl⟩, ?_⟩
  exact returns_setInfo.mpr rfl

/-- Creating key material adds the first factor to the file without factors. -/
theorem returns_create {first : FactorSpec} {info : InfoFile} {host final : σ} :
    (create first primitives source).Returns host (masterKey, info) final ↔
      ∃ keyed, primitives.generateMasterKey.Returns host masterKey keyed ∧
        (addFactor masterKey first primitives source).Returns
          ⟨InfoFile.empty, keyed⟩ () ⟨info, final⟩ := by
  unfold create
  constructor
  · intro returned
    obtain ⟨generated, keyed, generating, returned⟩ := returns_bind.mp returned
    obtain ⟨⟨_, edited⟩, added, adding, returned⟩ := returns_bind.mp returned
    obtain ⟨same, rfl⟩ := returns_pure.mp returned
    obtain ⟨rfl, rfl⟩ := Prod.mk.inj same
    exact ⟨keyed, generating, returns_onFile.mp adding⟩
  · rintro ⟨keyed, generating, adding⟩
    exact returns_bind.mpr ⟨masterKey, keyed, generating, returns_bind.mpr
      ⟨((), info), final, returns_onFile.mpr adding, returns_pure.mpr ⟨rfl, rfl⟩⟩⟩

theorem of_returns_create {first : FactorSpec} {info : InfoFile} {host final : σ}
    (returned : (create first primitives source).Returns host (masterKey, info) final) :
    ∃ keyed entry, primitives.generateMasterKey.Returns host masterKey keyed ∧
      Added primitives source masterKey ⟨InfoFile.empty, keyed⟩ first entry ∧
      info = InfoFile.empty.append entry := by
  obtain ⟨keyed, generated, adding⟩ := returns_create.mp returned
  obtain ⟨entry, added, edited⟩ := of_returns_addFactor adding
  exact ⟨keyed, entry, generated, added, edited⟩

/-- A factor is removed exactly when it is found and not the only one. -/
theorem returns_removeFactor {target : FactorId} {before after : Session σ}
    {removed : KeyEntry} :
    (removeFactor target).Returns before removed after ↔
      ∃ index, position? before.info.keys target = some index ∧
        before.info.keys[index]? = some removed ∧ 1 < before.info.factorCount ∧
        after = { before with
          info := { before.info with keys := before.info.keys.eraseIdx index } } := by
  unfold removeFactor
  simp only [returns_bind, returns_info]
  constructor
  · rintro ⟨info, current, ⟨rfl, rfl⟩, returned⟩
    split at returned
    · simp at returned
    · next index found =>
      split at returned
      · simp at returned
      · next entry stored =>
        split at returned
        · simp at returned
        · next several =>
          obtain ⟨_, written, writing, returned⟩ := returns_bind.mp returned
          obtain rfl := returns_setInfo.mp writing
          obtain ⟨rfl, rfl⟩ := returns_pure.mp returned
          exact ⟨index, found, stored, by omega, rfl⟩
  · rintro ⟨index, found, stored, several, rfl⟩
    refine ⟨before.info, before, ⟨rfl, rfl⟩, ?_⟩
    have counted : ¬ before.info.factorCount ≤ 1 := by omega
    simp only [found, stored, counted, if_false]
    exact returns_bind.mpr ⟨(), _, returns_setInfo.mpr rfl, returns_pure.mpr ⟨rfl, rfl⟩⟩

/-- The legacy passphrase was moved into the list: the source gave it, it derives the
master key, and the new entry wraps that key for it. -/
inductive Rotated (primitives : Primitives σ) (source : PassphraseSource σ)
    (before : Session σ) : InfoFile → Prop
  | moved {legacy : LegacyPassphrase} {passphrase : String} {masterKey : MasterKey}
      {host : σ} {entry : PassphraseEntry}
      (stored : before.info.legacyPassphrase? = some legacy)
      (acquired : source.acquire.Returns before.host passphrase host)
      (derived : Unlocking.Derives primitives (Bytes.ofString passphrase) legacy masterKey)
      (made : Wraps primitives masterKey (Bytes.ofString passphrase) entry) :
      Rotated primitives source before (before.info.append (.passphrase entry)).clearLegacy

private theorem of_returns_rotateLegacy {before after : Session σ} {rotated : Bool}
    (returned : (rotateLegacy primitives source).Returns before rotated after) :
    rotated = false ∧ before.info.hasLegacyPassphrase = false ∧ after.info = before.info ∨
      rotated = true ∧ before.info.hasLegacyPassphrase = true ∧
        Rotated primitives source before after.info := by
  simp only [rotateLegacy, returns_bind, returns_info] at returned
  obtain ⟨_, _, ⟨rfl, rfl⟩, returned⟩ := returned
  cases present : before.info.hasLegacyPassphrase with
  | false =>
    rw [present, if_neg Bool.false_ne_true] at returned
    obtain ⟨rfl, rfl⟩ := returns_pure.mp returned
    exact .inl ⟨rfl, rfl, rfl⟩
  | true =>
    rw [present, if_pos rfl] at returned
    simp only [returns_bind, returns_lift, returns_info] at returned
    obtain ⟨passphrase, _, ⟨host, acquired, rfl⟩, _, _, ⟨rfl, rfl⟩, unlocked, _,
      ⟨checked, unlocking, rfl⟩, returned⟩ := returned
    cases unlocked with
    | none => simp at returned
    | some masterKey =>
      simp only [returns_bind, returns_info, returns_setInfo, returns_pure] at returned
      obtain ⟨_, appended, appending, _, _, ⟨rfl, rfl⟩, _, _, rfl, rfl, rfl⟩ := returned
      obtain ⟨legacy, stored, derived⟩ := Unlocking.of_returns_legacyMasterKey unlocking
      obtain ⟨entry, made, edited⟩ := of_returns_appendPassphrase appending
      refine .inr ⟨rfl, rfl, ?_⟩
      rw [edited]
      exact .moved stored acquired derived made

/-- What a successful move of an info file to the current version did. -/
inductive Upgraded (primitives : Primitives σ) (source : PassphraseSource σ)
    (before : Session σ) : UpgradeReport → InfoFile → Prop
  | unchanged (current : before.info.version = InfoFile.currentVersion) :
      Upgraded primitives source before
        ⟨before.info.version, InfoFile.currentVersion, false⟩ before.info
  | renumbered
      (older : before.info.version = 2 ∨
        before.info.version = 1 ∧ before.info.hasLegacyPassphrase = false) :
      Upgraded primitives source before
        ⟨before.info.version, InfoFile.currentVersion, false⟩
        { before.info with version := InfoFile.currentVersion }
  | rotated {edited : InfoFile} (oldest : before.info.version = 1)
      (present : before.info.hasLegacyPassphrase = true)
      (moved : Rotated primitives source before edited) :
      Upgraded primitives source before
        ⟨before.info.version, InfoFile.currentVersion, true⟩
        { edited with version := InfoFile.currentVersion }

theorem of_returns_upgrade {before after : Session σ} {report : UpgradeReport}
    (returned : (upgrade primitives source).Returns before report after) :
    Upgraded primitives source before report after.info := by
  simp only [upgrade, returns_bind, returns_info] at returned
  obtain ⟨_, _, ⟨rfl, rfl⟩, returned⟩ := returned
  by_cases current : before.info.version = InfoFile.currentVersion
  · rw [if_pos current] at returned
    obtain ⟨rfl, rfl⟩ := returns_pure.mp returned
    exact .unchanged current
  rw [if_neg current] at returned
  by_cases oldest : before.info.version = 1
  · rw [if_pos oldest] at returned
    simp only [returns_bind, returns_info, returns_setInfo, returns_pure] at returned
    obtain ⟨rotated, moved, rotating, _, _, ⟨rfl, rfl⟩, _, _, rfl, rfl, rfl⟩ := returned
    rcases of_returns_rotateLegacy rotating with ⟨rfl, absent, same⟩ | ⟨rfl, present, moved⟩
    · rw [same]
      exact .renumbered (.inr ⟨oldest, absent⟩)
    · exact .rotated oldest present moved
  rw [if_neg oldest] at returned
  by_cases older : before.info.version = 2
  · rw [if_pos older] at returned
    simp only [returns_bind, returns_info, returns_setInfo, returns_pure] at returned
    obtain ⟨_, _, ⟨rfl, rfl⟩, _, _, rfl, rfl, rfl⟩ := returned
    exact .renumbered (.inl older)
  · rw [if_neg older] at returned
    simp at returned

end Success

end Repository

end Keywarden
