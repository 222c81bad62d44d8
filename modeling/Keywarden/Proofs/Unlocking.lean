import Keywarden.Proofs.Action
import Keywarden.Unlocking

/-!
# What a successful unlock found

Every unlocked master key comes from one of three places: the payload of an
asymmetric entry, the payload of a passphrase entry whose confirmation hash was
met, or the key that the legacy passphrase derives.
-/

namespace Keywarden

open Keywarden.Action

variable {σ : Type}

theorem MasterKey.ofPayload_eq_ok {payload : Bytes} {key : MasterKey} :
    MasterKey.ofPayload payload = .ok key ↔ payload = key.bytes := by
  constructor
  · intro read
    unfold MasterKey.ofPayload at read
    split at read
    · cases read
      rfl
    · cases read
  · rintro rfl
    exact key.ofPayload_bytes

/-- A payload is a master key, or its length is reported. -/
theorem MasterKey.ofPayload_cases (payload : Bytes) :
    (∃ masterKey : MasterKey, payload = masterKey.bytes ∧ ofPayload payload = .ok masterKey) ∨
      payload.length ≠ 32 ∧ ofPayload payload = .error (.primitive "Error unwrapping the master key"
        ("expected 32 bytes, got " ++ toString payload.length)) := by
  by_cases length_eq : payload.length = 32
  · exact .inl ⟨⟨payload, length_eq⟩, rfl, ofPayload_bytes ⟨payload, length_eq⟩⟩
  · exact .inr ⟨length_eq, by simp only [ofPayload, length_eq, dite_false]⟩

theorem MasterKey.eq_of_bytes {left right : MasterKey} (same : left.bytes = right.bytes) :
    left = right := by
  cases left
  cases right
  simpa using same

theorem ConfirmationHash.eq_of_bytes {left right : ConfirmationHash}
    (same : left.bytes = right.bytes) : left = right := by
  cases left
  cases right
  simpa using same

/-- A passphrase that is held already is acquired unless it is empty. -/
theorem PassphraseSource.returns_stored {held : Option String} {passphrase : String}
    {before after : σ} :
    (stored held).acquire.Returns before passphrase after ↔
      held = some passphrase ∧ passphrase ≠ "" ∧ before = after := by
  cases held with
  | none => simp [stored]
  | some text =>
    simp only [stored]
    split
    · next missing =>
      rw [String.isEmpty_iff] at missing
      constructor
      · intro returned
        cases returned
      · rintro ⟨same, given, -⟩
        cases same
        exact absurd missing given
    · next present =>
      rw [String.isEmpty_iff] at present
      rw [returns_pure, Option.some.injEq]
      constructor
      · rintro ⟨rfl, same⟩
        exact ⟨rfl, present, same⟩
      · rintro ⟨same, -, unchanged⟩
        exact ⟨same, unchanged⟩

namespace InfoFile

theorem mem_passphrasesFrom {start index : Nat} {entry : PassphraseEntry}
    {keys : List KeyEntry} :
    (index, entry) ∈ passphrasesFrom start keys ↔
      start ≤ index ∧ keys[index - start]? = some (.passphrase entry) := by
  induction keys generalizing start with
  | nil => simp [passphrasesFrom]
  | cons key rest ih =>
    rcases Nat.lt_trichotomy index start with below | rfl | above
    · have before : ¬ start ≤ index := by omega
      have beforeRest : ¬ start + 1 ≤ index := by omega
      have other : index ≠ start := by omega
      cases key <;> simp [passphrasesFrom, ih, before, beforeRest, other]
    · have beforeRest : ¬ index + 1 ≤ index := by omega
      cases key <;> simp [passphrasesFrom, ih, beforeRest, eq_comm]
    · have inRest : start + 1 ≤ index := above
      have next : index - start = (index - (start + 1)) + 1 := by omega
      have other : index ≠ start := by omega
      cases key <;> simp [passphrasesFrom, ih, next, inRest, Nat.le_of_lt above, other]

/-- The passphrase entries keep their positions among all entries. -/
theorem mem_passphrases {info : InfoFile} {index : Nat} {entry : PassphraseEntry} :
    (index, entry) ∈ info.passphrases ↔ info.keys[index]? = some (.passphrase entry) := by
  simp [passphrases, mem_passphrasesFrom]

theorem mem_asymmetrics {info : InfoFile} {entry : AsymmetricEntry} :
    entry ∈ info.asymmetrics ↔ .asymmetric entry ∈ info.keys := by
  simp only [asymmetrics, List.mem_filterMap]
  constructor
  · rintro ⟨key, member, read⟩
    cases key with
    | passphrase other => cases read
    | asymmetric other =>
      cases read
      exact member
  · intro member
    exact ⟨_, member, rfl⟩

/-- The info file has the legacy passphrase: its salt and its hash are there and not empty, and
where no cost is recorded the standard one counts. -/
structure KeepsLegacy (info : InfoFile) (legacy : LegacyPassphrase) : Prop where
  salt : info.legacySalt = some legacy.salt
  salt_ne : legacy.salt ≠ []
  hash : info.legacyHash = some legacy.confirmationHash
  hash_ne : legacy.confirmationHash ≠ []
  cost : legacy.cost = info.legacyCost.getD .standard

theorem legacyPassphrase?_eq_some {info : InfoFile} {legacy : LegacyPassphrase} :
    info.legacyPassphrase? = some legacy ↔ info.KeepsLegacy legacy := by
  unfold legacyPassphrase?
  constructor
  · intro stored
    split at stored
    · next salt hash salted hashed =>
      split at stored
      · cases stored
      · next present =>
        simp only [Bool.or_eq_true, List.isEmpty_iff, not_or] at present
        cases stored
        exact ⟨salted, present.1, hashed, present.2, rfl⟩
    · cases stored
  · rintro ⟨salted, salt_ne, hashed, hash_ne, cost⟩
    simp [salted, hashed, salt_ne, hash_ne, ← cost]

theorem hasLegacyPassphrase_iff {info : InfoFile} :
    info.hasLegacyPassphrase = true ↔ ∃ legacy, info.KeepsLegacy legacy := by
  simp only [hasLegacyPassphrase, Option.isSome_iff_exists, legacyPassphrase?_eq_some]

end InfoFile

namespace Unlocking

/-- The passphrase meets the confirmation hash of the entry, and the wrapped key
opens to the master key. -/
def Opens (primitives : Primitives σ) (passphrase : Bytes) (entry : PassphraseEntry)
    (masterKey : MasterKey) : Prop :=
  ∃ key hash, (primitives.deriveKey passphrase entry.salt entry.cost).Yields (key, hash) ∧
    hash.bytes = entry.confirmationHash ∧
    (primitives.unwrap key entry.wrappedKey).Yields masterKey.bytes

def Derives (primitives : Primitives σ) (passphrase : Bytes) (legacy : LegacyPassphrase)
    (masterKey : MasterKey) : Prop :=
  ∃ key hash, (primitives.deriveKey passphrase legacy.salt legacy.cost).Yields (key, hash) ∧
    hash.bytes = legacy.confirmationHash ∧ key.asMaster = masterKey

def OpensSilently (primitives : Primitives σ) (entry : AsymmetricEntry)
    (masterKey : MasterKey) : Prop :=
  ∃ opened, (primitives.asymmetricUnwrap entry.wrappedKey).Yields opened ∧
    opened.payload = masterKey.bytes

theorem of_returns_tryAsymmetric {primitives : Primitives σ} {entries : List AsymmetricEntry}
    {unlocked : Unlocked} {before after : σ}
    (returned : (tryAsymmetric primitives entries).Returns before (some unlocked) after) :
    ∃ entry ∈ entries, OpensSilently primitives entry unlocked.masterKey ∧
      unlocked.factor = .recipient entry.recipientId := by
  induction entries generalizing before with
  | nil => simp [tryAsymmetric] at returned
  | cons entry rest ih =>
    have later {between : σ}
        (returned : (tryAsymmetric primitives rest).Returns between (some unlocked) after) :
        ∃ found ∈ entry :: rest, OpensSilently primitives found unlocked.masterKey ∧
          unlocked.factor = .recipient found.recipientId := by
      obtain ⟨found, member, holds⟩ := ih returned
      exact ⟨found, by simp [member], holds⟩
    obtain ⟨attempted, between, unwrapped, returned⟩ := returns_bind.mp returned
    rw [returns_attempt] at unwrapped
    cases attempted with
    | error failure => exact later returned
    | ok opened =>
      cases read : MasterKey.ofPayload opened.payload with
      | error failure =>
        simp only [read] at returned
        exact later returned
      | ok masterKey =>
        simp only [read, returns_pure, Option.some.injEq] at returned
        obtain ⟨rfl, -⟩ := returned
        exact ⟨entry, by simp, ⟨opened, unwrapped.yields, MasterKey.ofPayload_eq_ok.mp read⟩,
          rfl⟩

theorem of_returns_tryPassphrases {primitives : Primitives σ} {passphrase : Bytes}
    {entries : List (Nat × PassphraseEntry)} {unlocked : Unlocked} {before after : σ}
    (returned : (tryPassphrases primitives passphrase entries).Returns before
      (some unlocked) after) :
    ∃ index entry, (index, entry) ∈ entries ∧
      Opens primitives passphrase entry unlocked.masterKey ∧
      unlocked.factor = .passphrase index := by
  induction entries generalizing before with
  | nil => simp [tryPassphrases] at returned
  | cons head rest ih =>
    obtain ⟨index, entry⟩ := head
    obtain ⟨⟨key, hash⟩, between, derived, returned⟩ := returns_bind.mp returned
    by_cases accepted : hash.accepts entry.confirmationHash = true
    · simp only [accepted, if_true] at returned
      obtain ⟨payload, later, unwrapped, returned⟩ := returns_bind.mp returned
      obtain ⟨masterKey, last, read, returned⟩ := returns_bind.mp returned
      have payload_eq := MasterKey.ofPayload_eq_ok.mp (returns_ofExcept.mp read).1
      obtain ⟨found, -⟩ := returns_pure.mp returned
      cases found
      subst payload_eq
      exact ⟨index, entry, by simp,
        ⟨key, hash, derived.yields, (hash.accepts_iff _).mp accepted, unwrapped.yields⟩, rfl⟩
    · simp only [accepted] at returned
      obtain ⟨position, found, member, holds⟩ := ih returned
      exact ⟨position, found, by simp [member], holds⟩

theorem of_returns_legacyMasterKey {primitives : Primitives σ} {info : InfoFile}
    {passphrase : Bytes} {masterKey : MasterKey} {before after : σ}
    (returned : (legacyMasterKey info passphrase primitives).Returns before
      (some masterKey) after) :
    ∃ legacy, info.legacyPassphrase? = some legacy ∧
      Derives primitives passphrase legacy masterKey := by
  cases stored : info.legacyPassphrase? with
  | none => simp [legacyMasterKey, stored] at returned
  | some legacy =>
    simp only [legacyMasterKey, stored] at returned
    obtain ⟨⟨key, hash⟩, between, derived, returned⟩ := returns_bind.mp returned
    by_cases accepted : hash.accepts legacy.confirmationHash = true
    · simp only [accepted, if_true, returns_pure, Option.some.injEq] at returned
      exact ⟨legacy, rfl, key, hash, derived.yields, (hash.accepts_iff _).mp accepted,
        returned.1⟩
    · simp [accepted] at returned

/-- A passphrase unlocks through an entry in the list or as the legacy passphrase. -/
theorem of_returns_withPassphrase {primitives : Primitives σ} {info : InfoFile}
    {passphrase : String} {unlocked : Unlocked} {before after : σ}
    (returned : (withPassphrase info passphrase primitives).Returns before unlocked after) :
    (∃ index entry, info.keys[index]? = some (.passphrase entry) ∧
      Opens primitives (Bytes.ofString passphrase) entry unlocked.masterKey ∧
      unlocked.factor = .passphrase index) ∨
    (∃ legacy, info.legacyPassphrase? = some legacy ∧
      Derives primitives (Bytes.ofString passphrase) legacy unlocked.masterKey ∧
      unlocked.factor = .legacy) := by
  obtain ⟨attempted, between, tried, returned⟩ := returns_bind.mp returned
  cases attempted with
  | some found =>
    obtain ⟨rfl, -⟩ := returns_pure.mp returned
    obtain ⟨index, entry, member, holds⟩ := of_returns_tryPassphrases tried
    exact .inl ⟨index, entry, InfoFile.mem_passphrases.mp member, holds⟩
  | none =>
    obtain ⟨derived, later, tried, returned⟩ := returns_bind.mp returned
    cases derived with
    | none => simp at returned
    | some masterKey =>
      obtain ⟨rfl, -⟩ := returns_pure.mp returned
      obtain ⟨legacy, stored, derives⟩ := of_returns_legacyMasterKey tried
      exact .inr ⟨legacy, stored, derives, rfl⟩

/-- A repository unlocks silently or with the passphrase of the source. -/
theorem of_returns_unlock {primitives : Primitives σ} {info : InfoFile}
    {source : PassphraseSource σ} {unlocked : Unlocked} {before after : σ}
    (returned : (unlock info primitives source).Returns before unlocked after) :
    (∃ entry, .asymmetric entry ∈ info.keys ∧
      OpensSilently primitives entry unlocked.masterKey ∧
      unlocked.factor = .recipient entry.recipientId) ∨
    (∃ passphrase, source.acquire.Yields passphrase ∧
      (withPassphrase info passphrase primitives).Yields unlocked) := by
  obtain ⟨attempted, between, tried, returned⟩ := returns_bind.mp returned
  cases attempted with
  | some found =>
    obtain ⟨rfl, -⟩ := returns_pure.mp returned
    obtain ⟨entry, member, holds⟩ := of_returns_tryAsymmetric tried
    exact .inl ⟨entry, InfoFile.mem_asymmetrics.mp member, holds⟩
  | none =>
    obtain ⟨passphrase, later, acquired, returned⟩ := returns_bind.mp returned
    exact .inr ⟨passphrase, acquired.yields, returned.yields⟩

end Unlocking

end Keywarden
