import Keywarden.Proofs.Credentials
import Keywarden.Proofs.Transparent
import Keywarden.Proofs.Unlocking.Functional

/-!
# Moving a file forward loses no access

What unlocked a file through one of its entries unlocks the moved file in the same way,
since the entries keep their places and a further one stands behind them.  The
passphrase that stood apart now unlocks through that entry, to the key that it derived
before, whatever cost it is wrapped at.
-/

namespace Keywarden

open Keywarden.Action Repository Unlocking

variable {ι σ : Type} {blocks : ι → Primitives σ}

/-- A wrapped payload is unwrapped under the same key. -/
def Primitives.Reversible (blocks : ι → Primitives σ) : Prop :=
  ∀ {made read : ι} {key : WrappingKey} {payload blob : Bytes},
    ((blocks made).wrap key payload).Yields blob →
    ((blocks read).unwrap key blob).Answers (.ok payload)

namespace Repository.Upgraded

variable {primitives : Primitives σ} {source : PassphraseSource σ} {before : Session σ}
  {report : UpgradeReport} {edited : InfoFile}

private theorem asymmetrics_eq (upgraded : Upgraded primitives source before report edited) :
    edited.asymmetrics = before.info.asymmetrics := by
  cases upgraded with
  | unchanged => rfl
  | renumbered => rfl
  | rotated oldest present moved =>
    cases moved with
    | moved => exact InfoFile.asymmetrics_append _ _

private theorem passphrases_eq (upgraded : Upgraded primitives source before report edited) :
    ∃ added, edited.passphrases = before.info.passphrases ++ added := by
  cases upgraded with
  | unchanged => exact ⟨[], (List.append_nil _).symm⟩
  | renumbered => exact ⟨[], (List.append_nil _).symm⟩
  | rotated oldest present moved =>
    cases moved with
    | moved => exact ⟨_, InfoFile.passphrases_append _ _⟩

private theorem rotated_of_report (upgraded : Upgraded primitives source before report edited)
    (reported : report.rotatedPassphrase = true) :
    ∃ moved, Rotated primitives source before moved ∧
      edited = { moved with version := InfoFile.currentVersion } := by
  cases upgraded with
  | unchanged => cases reported
  | renumbered => cases reported
  | rotated oldest present moved => exact ⟨_, moved, rfl⟩

end Repository.Upgraded

namespace Unlocking

/-- A passphrase that unlocks through an entry does so also when further entries stand
behind those of the file. -/
theorem withPassphrase_answers_of_entry (repeatable : Primitives.Repeatable blocks)
    {info edited : InfoFile} {added : List (Nat × PassphraseEntry)}
    (longer : edited.passphrases = info.passphrases ++ added) {reading : ι}
    {passphrase : String} {unlocked : Unlocked}
    (yields : (withPassphrase info passphrase (blocks reading)).Yields unlocked)
    (listed : unlocked.factor ≠ .legacy) (setting : ι) :
    (withPassphrase edited passphrase (blocks setting)).Answers (.ok unlocked) := by
  obtain ⟨before, after, returned⟩ := yields
  obtain ⟨found, between, tried, returned⟩ := returns_bind.mp returned
  cases found with
  | none =>
    obtain ⟨derived, later, -, returned⟩ := returns_bind.mp returned
    cases derived with
    | none => simp at returned
    | some masterKey =>
      obtain ⟨rfl, -⟩ := returns_pure.mp returned
      exact absurd rfl listed
  | some found =>
    obtain ⟨rfl, -⟩ := returns_pure.mp returned
    have front : (tryPassphrases (blocks setting) (Bytes.ofString passphrase)
        info.passphrases).Answers (.ok (some found)) :=
      (uniform_tryPassphrases repeatable _ _).answers_of_yields reading tried.yields setting
    have search : (tryPassphrases (blocks setting) (Bytes.ofString passphrase)
        edited.passphrases).Answers (.ok (some found)) := by
      rw [longer, tryPassphrases_append]
      exact front.bind_ok (answers_pure _)
    exact search.bind_ok (answers_pure found)

/-- A passphrase that unlocks as the legacy one meets no entry of the file and derives
the master key. -/
theorem of_yields_withPassphrase_legacy {primitives : Primitives σ} {info : InfoFile}
    {passphrase : String} {masterKey : MasterKey}
    (yields : (withPassphrase info passphrase primitives).Yields ⟨masterKey, .legacy⟩) :
    (tryPassphrases primitives (Bytes.ofString passphrase) info.passphrases).Yields none ∧
      ∃ legacy, info.legacyPassphrase? = some legacy ∧
        Derives primitives (Bytes.ofString passphrase) legacy masterKey := by
  obtain ⟨before, after, returned⟩ := yields
  obtain ⟨found, between, tried, returned⟩ := returns_bind.mp returned
  cases found with
  | some found =>
    obtain ⟨rfl, -⟩ := returns_pure.mp returned
    obtain ⟨index, entry, -, -, named⟩ := of_returns_tryPassphrases tried
    cases named
  | none =>
    obtain ⟨derived, later, deriving_, returned⟩ := returns_bind.mp returned
    cases derived with
    | none => simp at returned
    | some derived =>
      obtain ⟨same, -⟩ := returns_pure.mp returned
      cases same
      exact ⟨tried.yields, of_returns_legacyMasterKey deriving_⟩

/-- A passphrase that meets none of the old entries unlocks through the entry that was made for
it and stands behind them. -/
theorem withPassphrase_answers_of_made (repeatable : Primitives.Repeatable blocks)
    (reversible : Primitives.Reversible blocks) {info edited : InfoFile} {passphrase : String}
    {masterKey : MasterKey} {entry : PassphraseEntry} {making reading : ι}
    (unmet : (tryPassphrases (blocks reading) (Bytes.ofString passphrase)
      info.passphrases).Yields none)
    (made : Wraps (blocks making) masterKey (Bytes.ofString passphrase) entry)
    (longer : edited.passphrases = info.passphrases ++ [(info.keys.length, entry)])
    (other : ι) :
    (withPassphrase edited passphrase (blocks other)).Answers
      (.ok ⟨masterKey, .passphrase info.keys.length⟩) := by
  obtain ⟨key, hash, derived, met, wrapped⟩ := made.wrapped
  have front := (uniform_tryPassphrases repeatable _ _).answers_of_yields reading unmet other
  have back : (tryPassphrases (blocks other) (Bytes.ofString passphrase)
      (InfoFile.passphrasesFrom info.keys.length [.passphrase entry])).Answers
        (.ok (some ⟨masterKey, .passphrase info.keys.length⟩)) :=
    tryPassphrases_answers_open
      ((repeatable.derives _ _ _).answers_of_yields making derived other) met
      (reversible wrapped)
  have search : (tryPassphrases (blocks other) (Bytes.ofString passphrase)
      edited.passphrases).Answers
        (.ok (some ⟨masterKey, .passphrase info.keys.length⟩)) := by
    rw [longer, tryPassphrases_append]
    exact front.bind_ok back
  exact search.bind_ok (answers_pure _)

/-- What unlocks silently unlocks every file with the same asymmetric entries, and no
passphrase is asked for. -/
theorem unlock_answers_of_silent (functional : Primitives.Functional blocks)
    {info edited : InfoFile} (same : edited.asymmetrics = info.asymmetrics) {setting : ι}
    {source : PassphraseSource σ} {masterKey : MasterKey} {id : String}
    (yields : (unlock info (blocks setting) source).Yields ⟨masterKey, .recipient id⟩)
    (other : PassphraseSource σ) :
    (unlock edited (blocks setting) other).Answers (.ok ⟨masterKey, .recipient id⟩) := by
  obtain ⟨before, after, returned⟩ := yields
  obtain ⟨found, between, tried, returned⟩ := returns_bind.mp returned
  cases found with
  | none =>
    obtain ⟨passphrase, later, -, returned⟩ := returns_bind.mp returned
    rcases of_returns_withPassphrase returned with ⟨_, _, _, _, named⟩ | ⟨_, _, _, named⟩ <;>
      cases named
  | some found =>
    obtain ⟨rfl, -⟩ := returns_pure.mp returned
    have search := (uniform_tryAsymmetric functional setting info.asymmetrics).answers_of_yields
      () tried.yields ()
    rw [← same] at search
    exact search.bind_ok (answers_pure _)

end Unlocking

/-- The moved passphrase unlocks through the new entry. -/
theorem Repository.Rotated.withPassphrase_answers
    (functional : Primitives.Functional blocks) (reversible : Primitives.Reversible blocks)
    {setting reading other : ι} {source : PassphraseSource σ} {before : Session σ}
    {edited : InfoFile} (rotated : Rotated (blocks setting) source before edited)
    {passphrase : String} {host : σ}
    (acquired : source.acquire.Returns before.host passphrase host) {masterKey : MasterKey}
    (yields : (withPassphrase before.info passphrase (blocks reading)).Yields
      ⟨masterKey, .legacy⟩) :
    (withPassphrase edited passphrase (blocks other)).Answers
      (.ok ⟨masterKey, .passphrase before.info.keys.length⟩) := by
  obtain ⟨unmet, legacy, stored, derives⟩ := of_yields_withPassphrase_legacy yields
  cases rotated with
  | @moved found text migrated _ entry present given derived made =>
    cases acquired.symm.trans given
    cases stored.symm.trans present
    have same : migrated = masterKey := by
      obtain ⟨key, hash, once, -, rfl⟩ := derives
      obtain ⟨again, hash', derivedAgain, -, rfl⟩ := derived
      have answers := (functional.derives _ _ _).answers_of_yields reading once setting
      cases answers.eq_of_yields derivedAgain
      rfl
    subst same
    have longer : (before.info.append (.passphrase entry)).clearLegacy.passphrases =
        before.info.passphrases ++ [(before.info.keys.length, entry)] :=
      InfoFile.passphrases_append before.info entry
    exact withPassphrase_answers_of_made functional.repeatable reversible unmet made longer other

/-- A successful move keeps every access.  A passphrase that unlocked through an entry
unlocks through the same entry, the passphrase that the source gave unlocks through the
entry behind the old ones if it unlocked as the legacy one, and recipients unlock what
they unlocked. -/
theorem upgrade_keeps_access (functional : Primitives.Functional blocks)
    (reversible : Primitives.Reversible blocks) {setting : ι} {source : PassphraseSource σ}
    {before after : Session σ} {report : UpgradeReport}
    (upgraded : (upgrade (blocks setting) source).Returns before report after) :
    (∀ passphrase reading unlocked,
      (withPassphrase before.info passphrase (blocks reading)).Yields unlocked →
      unlocked.factor ≠ .legacy →
      ∀ other, (withPassphrase after.info passphrase (blocks other)).Answers
        (.ok unlocked)) ∧
    (report.rotatedPassphrase = true →
      ∀ passphrase host, source.acquire.Returns before.host passphrase host →
      ∀ reading masterKey,
        (withPassphrase before.info passphrase (blocks reading)).Yields
          ⟨masterKey, .legacy⟩ →
        ∀ other, (withPassphrase after.info passphrase (blocks other)).Answers
          (.ok ⟨masterKey, .passphrase before.info.keys.length⟩)) ∧
    (∀ reading asked spared masterKey id,
      (unlock after.info (blocks reading) asked).Yields ⟨masterKey, .recipient id⟩ ↔
        (unlock before.info (blocks reading) spared).Yields ⟨masterKey, .recipient id⟩) := by
  have moved := of_returns_upgrade upgraded
  refine ⟨?_, ?_, ?_⟩
  · intro passphrase reading unlocked yields listed other
    obtain ⟨added, longer⟩ := moved.passphrases_eq
    exact withPassphrase_answers_of_entry functional.repeatable longer yields listed other
  · intro rotated passphrase host acquired reading masterKey yields other
    obtain ⟨edited, rotation, same⟩ := moved.rotated_of_report rotated
    rw [same]
    exact rotation.withPassphrase_answers functional reversible acquired yields
  · intro reading asked spared masterKey id
    have same := moved.asymmetrics_eq
    constructor
    · rintro ⟨state, final, returned⟩
      exact (unlock_answers_of_silent functional same.symm returned.yields spared).yields state
    · rintro ⟨state, final, returned⟩
      exact (unlock_answers_of_silent functional same returned.yields asked).yields state

theorem Transparent.functional : Primitives.Functional Transparent.blocks where
  derives passphrase salt cost := .pure (Transparent.derive passphrase salt)
  unwraps key blob := by
    simp only [Transparent.blocks]
    cases Transparent.unwrap? key blob with
    | some payload => exact .pure payload
    | none => exact .fail _
  opens setting blob := by
    simp only [Transparent.blocks]
    cases Transparent.open? setting.identities blob with
    | some found => exact .pure found
    | none => exact .fail _

theorem Transparent.reversible : Primitives.Reversible Transparent.blocks := by
  rintro made read key payload blob ⟨_, _, wrapped⟩
  obtain ⟨rfl, -⟩ := returns_pure.mp wrapped
  simp only [Transparent.blocks, Transparent.unwrap?_wrap]
  exact answers_pure payload

/-- An old file that a recipient and a second passphrase unlock besides. -/
def Transparent.sharedFile (passphrase second : String) : InfoFile :=
  let pair := derive (Bytes.ofString second) [2]
  { oldFile passphrase with
    keys :=
      [.asymmetric ⟨"ab12", close (oldKey passphrase).bytes "ab12"⟩,
        .passphrase ⟨[2], pair.2.bytes, wrap pair.1 (oldKey passphrase).bytes, .standard⟩] }

/-- The recipient and both passphrases of an old file unlock it after the move, which is
made at another cost. -/
theorem upgrade_keeps_shared_access :
    let file := Transparent.sharedFile "old" "backup"
    let key := Transparent.oldKey "old"
    let lower := Transparent.blocks ⟨⟨8192, 1, 1⟩, []⟩
    let usual := Transparent.blocks ⟨.standard, ["ab12"]⟩
    ∃ after, (upgrade lower (.stored (some "old"))).Returns ⟨file, 0⟩ ⟨1, 3, true⟩ after ∧
      (withPassphrase after.info "backup" usual).Answers (.ok ⟨key, .passphrase 1⟩) ∧
      (withPassphrase after.info "old" usual).Answers (.ok ⟨key, .passphrase 2⟩) ∧
      (unlock after.info usual (.stored none)).Yields ⟨key, .recipient "ab12"⟩ := by
  intro file key lower usual
  have run : ∃ after,
      (upgrade lower (.stored (some "old"))).Returns ⟨file, 0⟩ ⟨1, 3, true⟩ after := ⟨_, rfl⟩
  obtain ⟨after, upgraded⟩ := run
  obtain ⟨listed, moved, silent⟩ := upgrade_keeps_access Transparent.functional
    Transparent.reversible upgraded
  have second : (withPassphrase file "backup" usual).Yields ⟨key, .passphrase 1⟩ :=
    ⟨0, 0, rfl⟩
  have legacy : (withPassphrase file "old" usual).Yields ⟨key, .legacy⟩ := ⟨0, 0, rfl⟩
  have recipient : (unlock file usual (.stored none)).Yields ⟨key, .recipient "ab12"⟩ :=
    ⟨0, 0, rfl⟩
  refine ⟨after, upgraded, ?_, ?_, ?_⟩
  · exact listed "backup" _ _ second nofun _
  · exact moved rfl "old" 0 rfl _ _ legacy _
  · exact (silent _ _ _ _ _).mpr recipient

end Keywarden
