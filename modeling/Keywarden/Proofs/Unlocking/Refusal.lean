import Keywarden.Proofs.Unlocking

/-!
# Passphrases that miss

A passphrase misses when a key is derived for every stored salt and cost and none of the
hashes is met.  Then the search ends without a result, whatever the number and the order of
the entries, and unlocking ends with one and the same failure.

The converse question is answered as well: when every derivation succeeds, nothing but that
failure and the damage of an entry whose hash was met can end the search.
-/

namespace Keywarden

theorem ConfirmationHash.accepts_eq_false {hash : ConfirmationHash} {stored : Bytes} :
    hash.accepts stored = false ↔ hash.bytes ≠ stored := by
  rw [← Bool.not_eq_true, hash.accepts_iff]

namespace Unlocking

open Keywarden.Action

variable {σ : Type} {primitives : Primitives σ} {info : InfoFile}

/-- The blob never opens to a master key: in every state there is a failure to report, or a
payload of another length. -/
def StaysClosed (primitives : Primitives σ) (blob : Bytes) : Prop :=
  ∀ before,
    (∃ failure after, (primitives.asymmetricUnwrap blob).Stops before (.failed failure) after) ∨
      ∃ opened after, (primitives.asymmetricUnwrap blob).Returns before opened after ∧
        opened.payload.length ≠ 32

/-- In every state the passphrase derives a key, beside another hash than the stored one. -/
def Unmet (primitives : Primitives σ) (passphrase salt : Bytes) (cost : DerivationCost)
    (stored : Bytes) : Prop :=
  ∀ before, ∃ key hash after,
    (primitives.deriveKey passphrase salt cost).Returns before (key, hash) after ∧
      hash.bytes ≠ stored

/-- The passphrase meets no hash of the info file. -/
structure Misses (primitives : Primitives σ) (info : InfoFile) (passphrase : Bytes) : Prop where
  entries : ∀ entry, .passphrase entry ∈ info.keys →
    Unmet primitives passphrase entry.salt entry.cost entry.confirmationHash
  legacy : ∀ legacy, info.legacyPassphrase? = some legacy →
    Unmet primitives passphrase legacy.salt legacy.cost legacy.confirmationHash

/-- Entries whose hash is not met are passed over. -/
theorem returns_tryPassphrases_none {passphrase : Bytes} {entries : List (Nat × PassphraseEntry)}
    (unmet : ∀ index entry, (index, entry) ∈ entries →
      Unmet primitives passphrase entry.salt entry.cost entry.confirmationHash) (before : σ) :
    ∃ after, (tryPassphrases primitives passphrase entries).Returns before none after := by
  induction entries generalizing before with
  | nil => exact ⟨before, returns_pure.mpr ⟨rfl, rfl⟩⟩
  | cons head rest ih =>
    obtain ⟨index, entry⟩ := head
    obtain ⟨key, hash, between, derived, other⟩ := unmet index entry List.mem_cons_self before
    obtain ⟨after, later⟩ :=
      ih (fun index entry member => unmet index entry (List.mem_cons_of_mem _ member)) between
    refine ⟨after, returns_bind.mpr ⟨(key, hash), between, derived, ?_⟩⟩
    simp only [ConfirmationHash.accepts_eq_false.mpr other, Bool.false_eq_true, if_false]
    exact later

private theorem returns_legacyMasterKey_none {passphrase : Bytes}
    (unmet : ∀ legacy, info.legacyPassphrase? = some legacy →
      Unmet primitives passphrase legacy.salt legacy.cost legacy.confirmationHash) (before : σ) :
    ∃ after, (legacyMasterKey info passphrase primitives).Returns before none after := by
  unfold legacyMasterKey
  cases stored : info.legacyPassphrase? with
  | none => exact ⟨before, returns_pure.mpr ⟨rfl, rfl⟩⟩
  | some legacy =>
    obtain ⟨key, hash, after, derived, other⟩ := unmet legacy stored before
    refine ⟨after, returns_bind.mpr ⟨(key, hash), after, derived, ?_⟩⟩
    simp only [ConfirmationHash.accepts_eq_false.mpr other, Bool.false_eq_true, if_false]
    exact returns_pure.mpr ⟨rfl, rfl⟩

/-- A passphrase that misses is refused with the one failure there is for that. -/
theorem stops_withPassphrase {passphrase : String}
    (misses : Misses primitives info (Bytes.ofString passphrase)) (before : σ) :
    ∃ after, (withPassphrase info passphrase primitives).Stops before (.failed noMatch) after := by
  have unmet (index : Nat) (entry : PassphraseEntry) (member : (index, entry) ∈ info.passphrases) :
      Unmet primitives (Bytes.ofString passphrase) entry.salt entry.cost
        entry.confirmationHash :=
    misses.entries entry (List.mem_of_getElem? (InfoFile.mem_passphrases.mp member))
  obtain ⟨searched, search⟩ := returns_tryPassphrases_none unmet before
  obtain ⟨after, legacy⟩ := returns_legacyMasterKey_none misses.legacy searched
  exact ⟨after, stops_bind.mpr (.inr ⟨none, searched, search,
    stops_bind.mpr (.inr ⟨none, after, legacy, rfl⟩)⟩)⟩

/-! ### Damage -/

/-- The hash of the entry is met, but the wrapped key does not open to a master key. -/
def Damaged (primitives : Primitives σ) (passphrase : Bytes) (entry : PassphraseEntry)
    (stop : Stop) : Prop :=
  ∃ key hash, (primitives.deriveKey passphrase entry.salt entry.cost).Yields (key, hash) ∧
    hash.bytes = entry.confirmationHash ∧
    ((∃ before after, (primitives.unwrap key entry.wrappedKey).Stops before stop after) ∨
      ∃ payload failure, (primitives.unwrap key entry.wrappedKey).Yields payload ∧
        MasterKey.ofPayload payload = .error failure ∧ stop = .failed failure)

theorem damaged_of_stops_tryPassphrases {passphrase : Bytes}
    {entries : List (Nat × PassphraseEntry)} {before after : σ} {stop : Stop}
    (derives : ∀ index entry, (index, entry) ∈ entries →
      ∀ state cause later, ¬ (primitives.deriveKey passphrase entry.salt entry.cost).Stops state
        cause later)
    (stopped : (tryPassphrases primitives passphrase entries).Stops before stop after) :
    ∃ index entry, (index, entry) ∈ entries ∧ Damaged primitives passphrase entry stop := by
  induction entries generalizing before with
  | nil => exact (not_stops_pure stopped).elim
  | cons head rest ih =>
    obtain ⟨index, entry⟩ := head
    rcases stops_bind.mp stopped with deriving_ | ⟨⟨key, hash⟩, between, derived, stopped⟩
    · exact (derives index entry List.mem_cons_self _ _ _ deriving_).elim
    dsimp only at stopped
    by_cases accepted : hash.accepts entry.confirmationHash = true
    · refine ⟨index, entry, List.mem_cons_self, key, hash, derived.yields,
        (hash.accepts_iff _).mp accepted, ?_⟩
      rw [if_pos accepted] at stopped
      rcases stops_bind.mp stopped with unwrapping | ⟨payload, later, unwrapped, stopped⟩
      · exact .inl ⟨between, after, unwrapping⟩
      rcases stops_bind.mp stopped with reading | ⟨masterKey, _, -, stopped⟩
      · cases read : MasterKey.ofPayload payload with
        | ok masterKey =>
          rw [read] at reading
          exact (not_stops_pure reading).elim
        | error failure =>
          rw [read] at reading
          cases reading
          exact .inr ⟨payload, failure, unwrapped.yields, read, rfl⟩
      · exact (not_stops_pure stopped).elim
    · rw [if_neg accepted] at stopped
      obtain ⟨found, other, member, damaged⟩ :=
        ih (fun index entry member => derives index entry (List.mem_cons_of_mem _ member)) stopped
      exact ⟨found, other, List.mem_cons_of_mem _ member, damaged⟩

end Unlocking

end Keywarden
