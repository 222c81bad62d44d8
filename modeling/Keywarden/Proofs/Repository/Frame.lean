import Keywarden.Proofs.Transparent

/-!
# What the operations on factors leave alone

An operation that stops leaves the info file exactly as it was.  One that succeeds
touches the list of entries at one place, and moving a file forward touches the
version and the legacy fields besides.
-/

namespace Keywarden.Repository

open Keywarden.Action Edit

variable {σ : Type}

/-- Moving a file forward rewrites the version; it appends an entry and clears the
legacy fields exactly when a file of version 1 has a legacy passphrase. -/
theorem Upgraded.edited_eq {primitives : Primitives σ} {source : PassphraseSource σ}
    {before : Session σ} {report : UpgradeReport} {edited : InfoFile}
    (upgraded : Upgraded primitives source before report edited) :
    if before.info.version = 1 ∧ before.info.hasLegacyPassphrase = true then
      ∃ entry, edited = ⟨before.info.app, InfoFile.currentVersion,
        before.info.keys ++ [.passphrase entry], none, none, none⟩
    else
      edited = { before.info with version := InfoFile.currentVersion } := by
  cases upgraded with
  | unchanged current =>
    have newer : before.info.version ≠ 1 := by
      rw [current]
      decide
    simp [newer, ← current]
  | renumbered older =>
    have unmoved :
        ¬ (before.info.version = 1 ∧ before.info.hasLegacyPassphrase = true) := by
      rintro ⟨oldest, present⟩
      rcases older with second | ⟨-, absent⟩
      · rw [oldest] at second
        exact absurd second (by decide)
      · rw [present] at absent
        cases absent
    rw [if_neg unmoved]
  | rotated oldest present moved =>
    rw [if_pos ⟨oldest, present⟩]
    cases moved with
    | moved => exact ⟨_, rfl⟩

/-- Adding, removing and moving factors: a stop changes nothing, and a success
changes only what the operation is about. -/
theorem factor_operations_frame (primitives : Primitives σ) (source : PassphraseSource σ)
    (masterKey : MasterKey) (factor : FactorSpec) (target : FactorId)
    (before : Session σ) :
    (∀ stop after,
      (addFactor masterKey factor primitives source).Stops before stop after ∨
        (removeFactor target).Stops before stop after ∨
        (upgrade primitives source).Stops before stop after →
      after.info = before.info) ∧
    (∀ after, (addFactor masterKey factor primitives source).Returns before () after →
      ∃ entry, after.info = { before.info with keys := before.info.keys ++ [entry] }) ∧
    (∀ removed after, (removeFactor target).Returns before removed after →
      ∃ index, position? before.info.keys target = some index ∧
        before.info.keys[index]? = some removed ∧
        after.info = { before.info with keys := before.info.keys.eraseIdx index }) ∧
    (∀ report after, (upgrade primitives source).Returns before report after →
      if before.info.version = 1 ∧ before.info.hasLegacyPassphrase = true then
        ∃ entry, after.info = ⟨before.info.app, InfoFile.currentVersion,
          before.info.keys ++ [.passphrase entry], none, none, none⟩
      else
        after.info = { before.info with version := InfoFile.currentVersion }) := by
  refine ⟨?_, ?_, ?_, ?_⟩
  · rintro stop after (stopped | stopped | stopped)
    · exact atomic_addFactor primitives source masterKey factor before stop after stopped
    · exact atomic_removeFactor target before stop after stopped
    · exact atomic_upgrade primitives source before stop after stopped
  · intro after returned
    obtain ⟨entry, -, edited⟩ := of_returns_addFactor returned
    exact ⟨entry, edited⟩
  · intro removed after returned
    obtain ⟨index, found, stored, -, rfl⟩ := returns_removeFactor.mp returned
    exact ⟨index, found, stored, rfl⟩
  · intro report after returned
    exact (of_returns_upgrade returned).edited_eq

/-- With the wrong passphrase an old file stays as it was, and with the right one its
legacy fields give way to one entry. -/
theorem upgrade_oldFile_frame :
    let blocks := Transparent.blocks ⟨.standard, []⟩
    let before : Session Nat := ⟨Transparent.oldFile "old", 0⟩
    (∃ stop after, (upgrade blocks (.stored (some "new"))).Stops before stop after ∧
      after.info = before.info) ∧
    (∃ report after, (upgrade blocks (.stored (some "old"))).Returns before report after ∧
      ∃ entry, after.info = ⟨InfoFile.appName, InfoFile.currentVersion,
        [.passphrase entry], none, none, none⟩) := by
  intro blocks before
  have stopped : (upgrade blocks (.stored (some "new"))).Stops before
      (.failed migrationRefused) before := rfl
  obtain ⟨unchanged, -⟩ := factor_operations_frame blocks (.stored (some "new"))
    (Transparent.oldKey "old") .passphrase .legacy before
  obtain ⟨-, -, -, moved⟩ := factor_operations_frame blocks (.stored (some "old"))
    (Transparent.oldKey "old") .passphrase .legacy before
  exact ⟨⟨_, _, stopped, unchanged _ _ (.inr (.inr stopped))⟩, ⟨_, _, rfl, moved _ _ rfl⟩⟩

end Keywarden.Repository
