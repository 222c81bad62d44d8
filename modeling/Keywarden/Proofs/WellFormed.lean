import Keywarden.Proofs.Transparent

/-!
# Well-formed info files

What holds of every info file that is created and then only changed by operations on
its factors, whatever the building blocks return and wherever they fail: the marker
is right, no entry has an empty part, no recipient stands twice in the list, a
legacy passphrase is found in version 1 alone, and something unlocks the
repository.
-/

namespace Keywarden

open Keywarden.Action Repository

variable {ι σ : Type}

namespace InfoFile

/-- The recipients of the asymmetric entries in order. -/
def recipients (info : InfoFile) : List String :=
  info.asymmetrics.map AsymmetricEntry.recipientId

/-- The entries and the legacy fields of an info file are in order. -/
structure Orderly (info : InfoFile) : Prop where
  app_eq : info.app = appName
  complete : ∀ entry ∈ info.keys, entry.Complete
  distinct : info.recipients.Pairwise fun left right => Text.equalFold left right = false
  legacy_version : info.hasLegacyPassphrase = true → info.version = 1

/-- An info file as the operations on factors make and keep it: in order, and with
something that unlocks the repository. -/
structure WellFormed (info : InfoFile) : Prop extends Orderly info where
  unlockable : 1 ≤ info.factorCount

private theorem recipients_append_passphrase (info : InfoFile) (entry : PassphraseEntry) :
    (info.append (.passphrase entry)).recipients = info.recipients := by
  simp [recipients, asymmetrics, append, KeyEntry.asymmetric?]

private theorem recipients_append_asymmetric (info : InfoFile) (entry : AsymmetricEntry) :
    (info.append (.asymmetric entry)).recipients = info.recipients ++ [entry.recipientId] := by
  simp [recipients, asymmetrics, append, KeyEntry.asymmetric?]

private theorem recipients_eraseIdx_sublist (info : InfoFile) (index : Nat) :
    ({ info with keys := info.keys.eraseIdx index } : InfoFile).recipients.Sublist
      info.recipients :=
  ((List.eraseIdx_sublist info.keys index).filterMap _).map _

/-- A recipient is unknown exactly when it differs from every recipient in the list by
more than letter case. -/
theorem hasRecipient_eq_false {info : InfoFile} {id : String} :
    info.hasRecipient id = false ↔
      ∀ known ∈ info.recipients, Text.equalFold known id = false := by
  simp only [hasRecipient, List.any_eq_false, recipients, List.mem_map]
  constructor
  · rintro differs known ⟨entry, member, rfl⟩
    simpa [KeyEntry.isRecipient] using differs _ (mem_asymmetrics.mp member)
  · intro differs entry member
    cases entry with
    | passphrase entry => simp [KeyEntry.isRecipient]
    | asymmetric entry =>
      simpa [KeyEntry.isRecipient] using
        differs _ ⟨entry, mem_asymmetrics.mpr member, rfl⟩

theorem factorCount_append (info : InfoFile) (entry : KeyEntry) :
    (info.append entry).factorCount = info.factorCount + 1 := by
  change (info.keys ++ [entry]).length + info.hasLegacyPassphrase.toNat = _
  simp only [factorCount, List.length_append, List.length_singleton]
  omega

theorem factorCount_eraseIdx {info : InfoFile} {index : Nat} {entry : KeyEntry}
    (stored : info.keys[index]? = some entry) :
    ({ info with keys := info.keys.eraseIdx index } : InfoFile).factorCount + 1 =
      info.factorCount := by
  have bound : index < info.keys.length := (List.getElem?_eq_some_iff.mp stored).1
  change (info.keys.eraseIdx index).length + info.hasLegacyPassphrase.toNat + 1 = _
  simp only [factorCount, List.length_eraseIdx, if_pos bound]
  omega

/-- Moving the legacy passphrase trades one factor for another. -/
theorem factorCount_rotated {info : InfoFile} (present : info.hasLegacyPassphrase = true)
    (entry : KeyEntry) (version : Int32) :
    ({ (info.append entry).clearLegacy with version } : InfoFile).factorCount =
      info.factorCount := by
  change (info.keys ++ [entry]).length + 0 = _
  simp [factorCount, present]

theorem orderly_empty : empty.Orderly where
  app_eq := rfl
  complete := by simp [empty]
  distinct := by simp [recipients, asymmetrics, empty]
  legacy_version := by
    intro present
    cases present

namespace Orderly

variable {info : InfoFile}

/-- With one more entry there is something that unlocks. -/
theorem append (orderly : info.Orderly) {entry : KeyEntry} (complete : entry.Complete)
    (distinct : (info.append entry).recipients.Pairwise
      fun left right => Text.equalFold left right = false) :
    (info.append entry).WellFormed where
  app_eq := orderly.app_eq
  complete := by
    intro other member
    rcases List.mem_append.mp member with old | new
    · exact orderly.complete other old
    · rw [List.mem_singleton.mp new]
      exact complete
  distinct := distinct
  legacy_version := orderly.legacy_version
  unlockable := by
    rw [factorCount_append]
    omega

theorem append_passphrase (orderly : info.Orderly) {entry : PassphraseEntry}
    (complete : (KeyEntry.passphrase entry).Complete) :
    (info.append (.passphrase entry)).WellFormed := by
  apply orderly.append complete
  rw [recipients_append_passphrase]
  exact orderly.distinct

private theorem append_asymmetric (orderly : info.Orderly) {entry : AsymmetricEntry}
    (complete : (KeyEntry.asymmetric entry).Complete)
    (unknown : info.hasRecipient entry.recipientId = false) :
    (info.append (.asymmetric entry)).WellFormed := by
  apply orderly.append complete
  rw [recipients_append_asymmetric, List.pairwise_append]
  refine ⟨orderly.distinct, List.pairwise_singleton _ _, ?_⟩
  intro known member id same
  rw [List.mem_singleton.mp same]
  exact hasRecipient_eq_false.mp unknown known member

end Orderly

namespace WellFormed

variable {info : InfoFile}

private theorem eraseIdx (wellFormed : info.WellFormed) {index : Nat} {entry : KeyEntry}
    (stored : info.keys[index]? = some entry) (several : 1 < info.factorCount) :
    ({ info with keys := info.keys.eraseIdx index } : InfoFile).WellFormed where
  app_eq := wellFormed.app_eq
  complete := fun other member =>
    wellFormed.complete other (List.mem_of_mem_eraseIdx member)
  distinct := wellFormed.distinct.sublist (recipients_eraseIdx_sublist info index)
  legacy_version := wellFormed.legacy_version
  unlockable := by
    have counted := factorCount_eraseIdx stored
    omega

/-- Without a legacy passphrase any version will do. -/
theorem withVersion (wellFormed : info.WellFormed) (absent : info.hasLegacyPassphrase = false)
    (version : Int32) : ({ info with version } : InfoFile).WellFormed where
  app_eq := wellFormed.app_eq
  complete := wellFormed.complete
  distinct := wellFormed.distinct
  legacy_version := by
    intro present
    cases absent.symm.trans present
  unlockable := wellFormed.unlockable

private theorem rotated (wellFormed : info.WellFormed) (present : info.hasLegacyPassphrase = true)
    {entry : PassphraseEntry} (complete : (KeyEntry.passphrase entry).Complete) (version : Int32) :
    ({ (info.append (.passphrase entry)).clearLegacy with version } :
      InfoFile).WellFormed where
  app_eq := wellFormed.app_eq
  complete := (wellFormed.toOrderly.append_passphrase complete).complete
  distinct := (wellFormed.toOrderly.append_passphrase complete).distinct
  legacy_version := by
    intro present
    cases present
  unlockable := by
    rw [factorCount_rotated present]
    exact wellFormed.unlockable

end WellFormed

end InfoFile

theorem Repository.Added.wellFormed {primitives : Primitives σ} {source : PassphraseSource σ}
    {masterKey : MasterKey} {before : Session σ} {factor : FactorSpec} {entry : KeyEntry}
    (added : Added primitives source masterKey before factor entry)
    (orderly : before.info.Orderly) : (before.info.append entry).WellFormed := by
  cases added with
  | recipient unknown complete => exact orderly.append_asymmetric complete unknown
  | passphrase acquired refused made => exact orderly.append_passphrase made.complete

namespace Operation

/-- By how much an operation changes the number of factors, given its answer. -/
def gain : Operation σ → Except Stop Answer → Int
  | .addFactor .., .ok _ => 1
  | .removeFactor _, .ok _ => -1
  | _, _ => 0

namespace Step

variable {primitives : Primitives σ} {before : Session σ} {operation : Operation σ}
  {answer : Except Stop Answer} {edited : InfoFile}

theorem wellFormed (step : Step primitives before operation answer edited)
    (wellFormed : before.info.WellFormed) : edited.WellFormed := by
  cases step with
  | stopped => exact wellFormed
  | added added => exact added.wellFormed wellFormed.toOrderly
  | removed found stored several => exact wellFormed.eraseIdx stored several
  | upgraded upgraded =>
    cases upgraded with
    | unchanged => exact wellFormed
    | renumbered older =>
      refine wellFormed.withVersion ?_ _
      rcases older with second | ⟨-, absent⟩
      · by_contra present
        have oldest := wellFormed.legacy_version (eq_true_of_ne_false present)
        rw [oldest] at second
        exact absurd second (by decide)
      · exact absent
    | rotated oldest present moved =>
      cases moved with
      | moved stored acquired derived made => exact wellFormed.rotated present made.complete _
  | unlocked => exact wellFormed
  | unlockedWith => exact wellFormed

theorem version_le (step : Step primitives before operation answer edited) :
    before.info.version ≤ edited.version := by
  have second_le : (2 : Int32) ≤ InfoFile.currentVersion := by decide
  have first_le : (1 : Int32) ≤ InfoFile.currentVersion := by decide
  cases step with
  | upgraded upgraded =>
    cases upgraded with
    | unchanged => exact Int32.le_refl _
    | renumbered older =>
      rcases older with second | ⟨oldest, -⟩
      · exact second ▸ second_le
      · exact oldest ▸ first_le
    | rotated oldest => exact oldest ▸ first_le
  | _ => exact Int32.le_refl _

private theorem factorCount_eq (step : Step primitives before operation answer edited) :
    (edited.factorCount : Int) = before.info.factorCount + operation.gain answer := by
  cases step with
  | stopped => cases operation <;> simp [gain]
  | added => simp [gain, InfoFile.factorCount_append]
  | removed found stored several =>
    have counted := InfoFile.factorCount_eraseIdx stored
    simp only [gain]
    omega
  | upgraded upgraded =>
    cases upgraded with
    | unchanged => simp [gain]
    | renumbered => simp [gain, InfoFile.factorCount, InfoFile.hasLegacyPassphrase,
        InfoFile.legacyPassphrase?]
    | rotated oldest present moved =>
      cases moved with
      | moved => simp [gain, InfoFile.factorCount_rotated present]
  | unlocked => simp [gain]
  | unlockedWith => simp [gain]

end Step

end Operation

private theorem historyEnd_version_le {blocks : ι → Primitives σ} (moves : List (Move ι σ))
    (info : InfoFile) : info.version ≤ (historyEnd blocks moves info).version := by
  have keeps : ∀ (move : Move ι σ) (reached : InfoFile), info.version ≤ reached.version →
      info.version ≤ (move.after blocks reached).version := by
    intro move reached le
    exact Int32.le_trans le (move.step blocks reached).version_le
  exact historyEnd_induction keeps moves (Int32.le_refl _)

/-- A new repository has a well-formed info file, and every history keeps it so.  The
version never falls, every move changes the number of factors by what it answers,
and so no history leaves a repository without a factor. -/
theorem wellFormed_histories (blocks : ι → Primitives σ) :
    (∀ setting first source host masterKey info final,
      (create first (blocks setting) source).Returns host (masterKey, info) final →
      info.WellFormed) ∧
    ∀ info : InfoFile, info.WellFormed → ∀ (moves : List (Move ι σ)) (move : Move ι σ),
      let reached := historyEnd blocks moves info
      let next := move.after blocks reached
      reached.WellFormed ∧ next.WellFormed ∧
        info.version ≤ reached.version ∧ reached.version ≤ next.version ∧
        (next.factorCount : Int) =
          reached.factorCount + move.operation.gain (move.answer blocks reached) ∧
        1 ≤ reached.factorCount ∧ 1 ≤ next.factorCount := by
  constructor
  · intro setting first source host masterKey info final created
    obtain ⟨keyed, entry, -, added, rfl⟩ := of_returns_create created
    exact added.wellFormed InfoFile.orderly_empty
  · intro info wellFormed moves move reached next
    have step := move.step blocks reached
    have reachedWellFormed : reached.WellFormed :=
      historyEnd_induction (fun move info => (move.step blocks info).wellFormed) moves
        wellFormed
    have nextWellFormed : next.WellFormed := step.wellFormed reachedWellFormed
    exact ⟨reachedWellFormed, nextWellFormed, historyEnd_version_le moves info,
      step.version_le, step.factorCount_eq, reachedWellFormed.unlockable,
      nextWellFormed.unlockable⟩

/-- The migrated file of version 1 is well formed and still has two factors. -/
theorem wellFormed_migration :
    (historyEnd Transparent.blocks (Transparent.migration "old" "backup")
      (Transparent.oldFile "old")).WellFormed ∧
    (historyEnd Transparent.blocks (Transparent.migration "old" "backup")
      (Transparent.oldFile "old")).factorCount = 2 := by
  have wellFormed : (Transparent.oldFile "old").WellFormed := by
    refine ⟨⟨rfl, ?_, .nil, fun _ => rfl⟩, Nat.le_refl 1⟩
    intro entry member
    cases member
  have migrated := (wellFormed_histories Transparent.blocks).2 _ wellFormed
    (Transparent.migration "old" "backup") ⟨⟨.standard, []⟩, .unlockWith "old", 0⟩
  exact ⟨migrated.1, rfl⟩

end Keywarden
