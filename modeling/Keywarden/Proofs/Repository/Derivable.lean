import Keywarden.Proofs.History
import Keywarden.Proofs.Key.Wrap
import Keywarden.Proofs.Primitives.Standard
import Keywarden.Proofs.Repository.Recipients

/-!
# Every passphrase can be tried

A salt and a cost are stored only after a key was derived under them.  Operations keep stored
entries as they are, so that a key is derived for every passphrase under every stored salt and
cost, whatever cost is configured by then.  A wrong passphrase is therefore never reported as
anything else.
-/

namespace Keywarden

open Keywarden.Action Repository Unlocking

variable {σ : Type} {entropy : Entropy σ} {configured : DerivationCost}
  {identities : List Identity}

/-- A key was derived from some passphrase under the salt and the cost of the entry. -/
def PassphraseEntry.Derivable (entry : PassphraseEntry) : Prop :=
  ∃ passphrase pair, Key.derive passphrase entry.salt entry.cost = .ok pair

namespace InfoFile

/-- The passphrases of the file are all in entries under which a key was derived. -/
structure Derivable (info : InfoFile) : Prop where
  noLegacy : info.legacyPassphrase? = none
  entries : ∀ entry, .passphrase entry ∈ info.keys → entry.Derivable

variable {info : InfoFile}

private theorem derivable_empty : empty.Derivable where
  noLegacy := rfl
  entries _ member := nomatch member

theorem Derivable.append (derivable : info.Derivable) {entry : KeyEntry}
    (added : ∀ passphrase, entry = .passphrase passphrase → passphrase.Derivable) :
    (info.append entry).Derivable where
  noLegacy := derivable.noLegacy
  entries := by
    intro other member
    rcases List.mem_append.mp member with old | new
    · exact derivable.entries other old
    · exact added other (List.mem_singleton.mp new).symm

end InfoFile

/-! ### What is stored -/

theorem Primitives.derive_of_yields {passphrase salt : Bytes} {cost : DerivationCost}
    {pair : WrappingKey × ConfirmationHash}
    (yields : ((standard entropy configured identities).deriveKey passphrase salt cost).Yields
      pair) : Key.derive passphrase salt cost = .ok pair := by
  obtain ⟨before, after, derived⟩ := yields
  exact (returns_deriveKey.mp derived).1

theorem Repository.Wraps.derivable {masterKey : MasterKey} {passphrase : Bytes}
    {entry : PassphraseEntry}
    (wraps : Wraps (.standard entropy configured identities) masterKey passphrase entry) :
    entry.Derivable := by
  obtain ⟨key, hash, derived, -, -⟩ := wraps.wrapped
  exact ⟨passphrase, (key, hash), Primitives.derive_of_yields derived⟩

theorem Repository.Added.derivable {source : PassphraseSource σ} {masterKey : MasterKey}
    {before : Session σ} {factor : FactorSpec} {entry : KeyEntry}
    (added : Added (.standard entropy configured identities) source masterKey before factor entry)
    (derivable : before.info.Derivable) : (before.info.append entry).Derivable := by
  refine derivable.append fun passphrase made => ?_
  cases added with
  | recipient => cases made
  | passphrase acquired refused wraps =>
    cases made
    exact wraps.derivable

/-- No operation stores anything else, under whatever cost it runs. -/
theorem Operation.Step.derivable {before : Session σ} {operation : Operation σ}
    {answer : Except Stop Answer} {edited : InfoFile}
    (step : Step (.standard entropy configured identities) before operation answer edited)
    (derivable : before.info.Derivable) : edited.Derivable := by
  cases step with
  | stopped => exact derivable
  | added added => exact added.derivable derivable
  | removed found stored several =>
    exact ⟨derivable.noLegacy, fun entry member =>
      derivable.entries entry (List.mem_of_mem_eraseIdx member)⟩
  | upgraded upgraded =>
    cases upgraded with
    | unchanged => exact derivable
    | renumbered => exact ⟨derivable.noLegacy, derivable.entries⟩
    | rotated oldest present moved =>
      cases moved with
      | moved stored => exact absurd stored (by simp [derivable.noLegacy])
  | unlocked => exact derivable
  | unlockedWith => exact derivable

theorem Move.derivable {ι : Type} {blocks : ι → Primitives σ} {move : Move ι σ}
    (standard : blocks move.setting = .standard entropy configured identities) {info : InfoFile}
    (derivable : info.Derivable) : (move.after blocks info).Derivable := by
  have step := move.step blocks info
  rw [standard] at step
  exact step.derivable derivable

theorem InfoFile.derivable_of_history {blocks : DerivationCost × List Identity → Primitives σ}
    (standard : ∀ setting, blocks setting = .standard entropy setting.1 setting.2)
    {setting : DerivationCost × List Identity} {first : FactorSpec} {source : PassphraseSource σ}
    {host final : σ} {masterKey : MasterKey} {info : InfoFile}
    (created : (create first (blocks setting) source).Returns host (masterKey, info) final)
    (moves : List (Move (DerivationCost × List Identity) σ)) :
    (historyEnd blocks moves info).Derivable := by
  obtain ⟨keyed, entry, -, added, rfl⟩ := of_returns_create created
  rw [standard] at added
  exact historyEnd_induction (fun move _ => move.derivable (standard move.setting)) moves
    (added.derivable derivable_empty)

/-! ### Trying a passphrase -/

theorem MasterKey.ofPayload_eq_error {payload : Bytes} {failure : Failure}
    (refused : MasterKey.ofPayload payload = .error failure) :
    ∃ detail, failure = .primitive "Error unwrapping the master key" detail := by
  unfold MasterKey.ofPayload at refused
  split at refused
  · cases refused
  · cases refused
    exact ⟨_, rfl⟩

/-- A damaged entry is reported as one that does not open. -/
theorem Unlocking.detail_of_damaged {passphrase : Bytes} {entry : PassphraseEntry} {stop : Stop}
    (damaged : Damaged (.standard entropy configured identities) passphrase entry stop) :
    ∃ detail, stop = .failed (.primitive "Error unwrapping the master key" detail) := by
  obtain ⟨key, hash, -, -, ⟨before, after, stopped⟩ | ⟨payload, failure, -, refused, rfl⟩⟩ := damaged
  · obtain ⟨failure, refused, rfl, -⟩ := stops_ofExcept.mp stopped
    rw [Key.unwrap_eq_error refused]
    exact ⟨_, rfl⟩
  · obtain ⟨detail, rfl⟩ := MasterKey.ofPayload_eq_error refused
    exact ⟨detail, rfl⟩

namespace InfoFile.Derivable

variable {info : InfoFile} {passphrase : Bytes}

theorem derives (derivable : info.Derivable) (short : passphrase.length ≤ 0xffffffff)
    {entry : PassphraseEntry} (member : .passphrase entry ∈ info.keys) :
    ∃ pair, Key.derive passphrase entry.salt entry.cost = .ok pair := by
  obtain ⟨stored, pair, derived⟩ := derivable.entries entry member
  exact ⟨_, Key.derives_of_derived derived short⟩

theorem answers_deriveKey (derivable : info.Derivable) (short : passphrase.length ≤ 0xffffffff)
    {entry : PassphraseEntry} (member : .passphrase entry ∈ info.keys) :
    ∃ pair, ((Primitives.standard entropy configured identities).deriveKey passphrase entry.salt
      entry.cost).Answers (.ok pair) := by
  obtain ⟨pair, derived⟩ := derivable.derives short member
  exact ⟨pair, Primitives.answers_deriveKey derived⟩

private theorem misses (derivable : info.Derivable) (short : passphrase.length ≤ 0xffffffff)
    (unmet : ∀ entry, .passphrase entry ∈ info.keys → ∀ key hash,
      Key.derive passphrase entry.salt entry.cost = .ok (key, hash) →
        hash.bytes ≠ entry.confirmationHash) :
    Misses (.standard entropy configured identities) info passphrase where
  entries entry member := by
    obtain ⟨⟨key, hash⟩, derived⟩ := derivable.derives short member
    exact unmet_standard derived (unmet entry member key hash derived)
  legacy legacy stored := absurd stored (by simp [derivable.noLegacy])

/-- What stops a search is a passphrase that nothing accepts, or a wrapped key that does not
open. -/
theorem cases_of_stops (derivable : info.Derivable) {text : String}
    (short : (Bytes.ofString text).length ≤ 0xffffffff) {stop : Stop} {before after : σ}
    (stopped : (withPassphrase info text (.standard entropy configured identities)).Stops before
      stop after) :
    stop = .failed noMatch ∨
      ∃ detail, stop = .failed (.primitive "Error unwrapping the master key" detail) := by
  rcases stops_bind.mp stopped with searching | ⟨found, between, -, stopped⟩
  · refine .inr ?_
    obtain ⟨index, entry, -, damaged⟩ := damaged_of_stops_tryPassphrases
      (fun index entry member state cause later failed => by
        obtain ⟨pair, answers⟩ := derivable.answers_deriveKey short
          (List.mem_of_getElem? (InfoFile.mem_passphrases.mp member))
        cases answers.eq_of_stops failed) searching
    exact detail_of_damaged damaged
  · cases found with
    | some unlocked => exact (not_stops_pure stopped).elim
    | none =>
      simp only [legacyMasterKey, derivable.noLegacy] at stopped
      cases stopped
      exact .inl rfl

end InfoFile.Derivable

namespace Repository

/-- Whatever happened to a repository since it was created, a key is derived for every
passphrase that is not too long, under every entry and whatever cost is configured.  Where no
hash is met, the passphrase is refused as invalid credentials. -/
theorem wrong_passphrase_refused (entropy : Entropy σ) :
    let blocks := fun setting : DerivationCost × List Identity =>
      Primitives.standard entropy setting.1 setting.2
    ∀ (setting : DerivationCost × List Identity) (first : FactorSpec)
      (source : PassphraseSource σ) (host final : σ) (masterKey : MasterKey) (info : InfoFile),
      (create first (blocks setting) source).Returns host (masterKey, info) final →
      ∀ (moves : List (Move (DerivationCost × List Identity) σ)) (passphrase : String),
        (Bytes.ofString passphrase).length < UInt32.size →
        let reached := historyEnd blocks moves info
        let bytes := Bytes.ofString passphrase
        ∀ setting : DerivationCost × List Identity,
          (reached.legacyPassphrase? = none ∧
            ∀ entry, .passphrase entry ∈ reached.keys → ∃ pair,
              ((blocks setting).deriveKey bytes entry.salt entry.cost).Answers (.ok pair)) ∧
          (∀ (fault : DerivationCost.Fault) (before after : σ),
            ¬ (withPassphrase reached passphrase (blocks setting)).Stops before
              (.failed fault.failure) after) ∧
          ((∀ entry, .passphrase entry ∈ reached.keys → ∀ key hash,
              Key.derive bytes entry.salt entry.cost = .ok (key, hash) →
                hash.bytes ≠ entry.confirmationHash) →
            (withPassphrase reached passphrase (blocks setting)).Answers (.error (.failed noMatch)) ∧
              noMatch.kind = .invalidCredentials) := by
  intro blocks setting first source host final masterKey info created moves passphrase below reached
    bytes setting
  have derivable : reached.Derivable :=
    InfoFile.derivable_of_history (fun _ => rfl) created moves
  have short : bytes.length ≤ 0xffffffff := Nat.le_of_lt_succ below
  refine ⟨⟨derivable.noLegacy, fun entry member => derivable.answers_deriveKey short member⟩,
    fun fault before after stopped => ?_, fun unmet => ⟨fun state => ?_, rfl⟩⟩
  · rcases derivable.cases_of_stops short stopped with refused | ⟨detail, damaged⟩
    · cases refused
    · simp [DerivationCost.Fault.failure] at damaged
  · obtain ⟨after, refused⟩ := stops_withPassphrase (derivable.misses short unmet) state
    rw [refused]

/-! ### A refused cost -/

/-- A new passphrase is not added under a cost that no derivation accepts. -/
theorem after_addFactor_of_refused {setting : DerivationCost × List Identity}
    (refused : setting.1.floorFault? ≠ none) (masterKey : MasterKey)
    (source : PassphraseSource Unit) (info : InfoFile) :
    (Move.mk setting (.addFactor masterKey .passphrase source) ()).after zeroBlocks info = info := by
  have step := (Move.mk setting (.addFactor masterKey .passphrase source) ()).step zeroBlocks info
  generalize Move.answer zeroBlocks _ info = answer at step
  generalize Move.after zeroBlocks _ info = edited at step ⊢
  cases step with
  | stopped => rfl
  | added added =>
    cases added with
    | passphrase acquired refusedBefore wraps =>
      obtain ⟨host, cost⟩ := wraps.cost_configured
      obtain ⟨key, hash, derived, -, -⟩ := wraps.wrapped
      have accepted := (Key.derive_eq_ok.mp (Primitives.derive_of_yields derived)).1
      rw [cost] at accepted
      exact absurd (DerivationCost.fault?_eq_none.mp accepted).1 refused

private theorem returns_wrap_zeros (key : WrappingKey) (payload : Bytes) :
    ∃ blob, (Key.wrap Entropy.zeros key.bytes payload).Returns () blob () ∧ blob ≠ [] :=
  ⟨Key.wrapWith key.bytes (Bytes.zeros 12) payload,
    (Key.returns_wrap key.length_eq rfl).mpr rfl, by simp [Key.wrapWith, Bytes.zeros]⟩

private theorem returns_appendPassphrase_zeros {setting : DerivationCost × List Identity}
    {passphrase : Bytes} (accepted : setting.1.fault? passphrase (Bytes.zeros 32) = none)
    (masterKey : MasterKey) (info : InfoFile) :
    ∃ entry, (appendPassphrase masterKey passphrase (zeroBlocks setting)).Returns ⟨info, ()⟩ ()
      ⟨info.append (.passphrase entry), ()⟩ := by
  obtain ⟨⟨key, hash⟩, derived⟩ : ∃ pair,
      Key.derive passphrase (Bytes.zeros 32) setting.1 = .ok pair :=
    ⟨_, Key.derive_eq_ok.mpr ⟨accepted, rfl⟩⟩
  obtain ⟨blob, wrapped, nonempty⟩ := returns_wrap_zeros key masterKey.bytes
  have hashed : hash.bytes ≠ [] :=
    List.ne_nil_of_length_pos (by simp [Key.length_of_derived derived])
  let entry : PassphraseEntry := ⟨Bytes.zeros 32, hash.bytes, blob, setting.1⟩
  have adding : info.addPassphrase entry = .ok (info.append (.passphrase entry)) :=
    InfoFile.addPassphrase_eq_ok.mpr ⟨⟨by simp [entry, Bytes.zeros], hashed, nonempty⟩, rfl⟩
  have deriving_ : ((zeroBlocks setting).deriveKey passphrase (Bytes.zeros 32) setting.1).Returns
      () (key, hash) () := Primitives.returns_deriveKey.mpr ⟨derived, rfl⟩
  refine ⟨entry, returns_bind.mpr ⟨Bytes.zeros 32, ⟨info, ()⟩, rfl, ?_⟩⟩
  refine returns_bind.mpr ⟨⟨info, ()⟩, ⟨info, ()⟩, rfl, ?_⟩
  refine returns_bind.mpr ⟨(key, hash), ⟨info, ()⟩,
    Edit.returns_lift.mpr ⟨(), deriving_, rfl⟩, ?_⟩
  refine returns_bind.mpr ⟨blob, ⟨info, ()⟩, Edit.returns_lift.mpr ⟨(), wrapped, rfl⟩, ?_⟩
  refine returns_bind.mpr ⟨info, ⟨info, ()⟩, rfl, ?_⟩
  exact returns_bind.mpr ⟨_, ⟨info, ()⟩, returns_ofExcept.mpr ⟨adding, rfl⟩,
    Edit.returns_setInfo.mpr rfl⟩

/-- A repository is created for a passphrase under every cost that a derivation accepts. -/
theorem returns_create_zeros {setting : DerivationCost × List Identity} {passphrase : String}
    (given : passphrase ≠ "")
    (accepted : setting.1.fault? (Bytes.ofString passphrase) (Bytes.zeros 32) = none) :
    ∃ entry, (create .passphrase (zeroBlocks setting) (.stored (some passphrase))).Returns ()
      (⟨Bytes.zeros 32, rfl⟩, InfoFile.empty.append (.passphrase entry)) () := by
  obtain ⟨entry, appended⟩ :=
    returns_appendPassphrase_zeros accepted ⟨Bytes.zeros 32, rfl⟩ InfoFile.empty
  have acquired : (PassphraseSource.stored (some passphrase)).acquire.Returns () passphrase () :=
    PassphraseSource.returns_stored.mpr ⟨rfl, given, rfl⟩
  refine ⟨entry, returns_create.mpr ⟨(), rfl, returns_bind.mpr ⟨passphrase, ⟨InfoFile.empty, ()⟩,
    Edit.returns_lift.mpr ⟨(), acquired, rfl⟩, ?_⟩⟩⟩
  refine returns_bind.mpr ⟨InfoFile.empty, ⟨InfoFile.empty, ()⟩, rfl, ?_⟩
  exact returns_bind.mpr ⟨.error noMatch, ⟨InfoFile.empty, ()⟩, rfl, appended⟩

def addRefused (masterKey : MasterKey) : Move (DerivationCost × List Identity) Unit :=
  ⟨(⟨1, 0, 0⟩, []), .addFactor masterKey .passphrase (.stored (some "second")), ()⟩

private theorem historyEnd_addRefused (masterKey : MasterKey) (info : InfoFile) :
    historyEnd zeroBlocks [addRefused masterKey] info = info :=
  after_addFactor_of_refused (by decide) masterKey _ info

private theorem mem_after_addRefused (masterKey : MasterKey) (key : KeyEntry)
    (entry : PassphraseEntry) :
    .passphrase entry ∈ (historyEnd zeroBlocks [addRefused masterKey]
      (InfoFile.empty.append key)).keys ↔ key = .passphrase entry := by
  rw [historyEnd_addRefused, eq_comm]
  simp [InfoFile.append, InfoFile.empty]

/-- A repository is created for a recipient. -/
theorem returns_create_recipient_zeros (setting : DerivationCost × List Identity) :
    ∃ blob, (create (.recipient lettered.recipientId) (zeroBlocks setting) (.stored none)).Returns
      () (⟨Bytes.zeros 32, rfl⟩,
        InfoFile.empty.append (.asymmetric ⟨lettered.recipientId, blob⟩)) () := by
  obtain ⟨parsed, -, -⟩ := parse_spellings
  have unknown : InfoFile.empty.hasRecipient lettered.recipientId = false := rfl
  obtain ⟨blob, added⟩ := returns_addFactor_zeros parsed (by decide +kernel) unknown
    ⟨Bytes.zeros 32, rfl⟩ setting (.stored none)
  exact ⟨blob, returns_create.mpr ⟨(), rfl, added⟩⟩

/-- After the attempt, and with the refused cost still configured, a repository with a
passphrase can be tried with another one and refuses it unless the hashes collide, and a
repository with a recipient refuses it in any case. -/
theorem refused_under_invalid_cost :
    (∃ (masterKey : MasterKey) (entry : PassphraseEntry) (pair : WrappingKey × ConfirmationHash),
      (create .passphrase (zeroBlocks (.standard, [])) (.stored (some "right"))).Returns ()
        (masterKey, InfoFile.empty.append (.passphrase entry)) () ∧
      ((zeroBlocks (⟨1, 0, 0⟩, [])).deriveKey (Bytes.ofString "wrong") entry.salt
        entry.cost).Answers (.ok pair) ∧
      (pair.2.bytes ≠ entry.confirmationHash →
        (withPassphrase (historyEnd zeroBlocks [addRefused masterKey]
          (InfoFile.empty.append (.passphrase entry))) "wrong"
          (zeroBlocks (⟨1, 0, 0⟩, []))).Answers (.error (.failed noMatch)))) ∧
    ∃ (masterKey : MasterKey) (info : InfoFile),
      (create (.recipient lettered.recipientId) (zeroBlocks (.standard, [])) (.stored none)).Returns
        () (masterKey, info) () ∧
      (withPassphrase (historyEnd zeroBlocks [addRefused masterKey] info) "wrong"
        (zeroBlocks (⟨1, 0, 0⟩, []))).Answers (.error (.failed noMatch)) := by
  have short : (Bytes.ofString "wrong").length < UInt32.size := by decide
  constructor
  · have accepted : DerivationCost.standard.fault? (Bytes.ofString "right") (Bytes.zeros 32) =
        none := by decide +kernel
    obtain ⟨entry, created⟩ : ∃ entry,
        (create .passphrase (zeroBlocks (.standard, [])) (.stored (some "right"))).Returns ()
          (⟨Bytes.zeros 32, rfl⟩, InfoFile.empty.append (.passphrase entry)) () :=
      returns_create_zeros (by decide) accepted
    have tried := wrong_passphrase_refused Entropy.zeros (.standard, []) _ _ _ _ _ _ created
      [addRefused ⟨Bytes.zeros 32, rfl⟩] "wrong" short (⟨1, 0, 0⟩, [])
    obtain ⟨pair, answers⟩ := tried.1.2 entry ((mem_after_addRefused _ _ _).mpr rfl)
    obtain ⟨derived, -⟩ :=
      Primitives.returns_deriveKey.mp (Prod.ext (answers ()) rfl : Returns _ () pair _)
    refine ⟨_, entry, pair, created, answers, fun unmet => (tried.2.2 ?_).1⟩
    intro other member key hash derivedAgain
    cases (mem_after_addRefused _ _ _).mp member
    cases derived.symm.trans derivedAgain
    exact unmet
  · obtain ⟨blob, created⟩ := returns_create_recipient_zeros (.standard, [])
    have tried := wrong_passphrase_refused Entropy.zeros (.standard, []) _ _ _ _ _ _ created
      [addRefused ⟨Bytes.zeros 32, rfl⟩] "wrong" short (⟨1, 0, 0⟩, [])
    refine ⟨_, _, created, (tried.2.2 fun entry member => ?_).1⟩
    cases (mem_after_addRefused _ _ _).mp member

end Repository

end Keywarden
