import Keywarden.Proofs.Exchange
import Keywarden.Proofs.Repository.Failures

/-!
# Moving forward, case by case

What moving an info file forward does is settled by its version and by its legacy passphrase.
Only a file of version 1 with a legacy passphrase makes calls; it asks once, then derives, and the
hash decides.  In every other case the outcome is known before anything is called, so that a file
that has been moved stays as it is.
-/

namespace Keywarden

open Keywarden.Action

variable {σ α β : Type} {primitives : Primitives σ} {source : PassphraseSource σ}
  {before after : Session σ} {legacy : LegacyPassphrase} {info : InfoFile}

namespace Edit

private theorem lift_bind (action : Action σ α) (next : α → Action σ β) :
    lift (action >>= next) = lift action >>= fun value => lift (next value) := by
  funext before
  rcases run : action before.host with ⟨stop | value, host⟩
  · have stopped : (action >>= next).Stops before.host stop host := stops_bind.mpr (.inl run)
    have whole : (lift (action >>= next)).Stops before stop { before with host } :=
      stops_lift.mpr ⟨host, stopped, rfl⟩
    have first : (lift action).Stops before stop { before with host } :=
      stops_lift.mpr ⟨host, run, rfl⟩
    exact whole.trans (stops_bind.mpr (.inl first)).symm
  · have first : (lift action).Returns before value { before with host } :=
      returns_lift.mpr ⟨host, run, rfl⟩
    rw [first.bind_eq]
    simp only [lift, focus]
    rw [Returns.bind_eq run]

end Edit

theorem Unlocking.legacyMasterKey_of_kept (kept : info.KeepsLegacy legacy) (passphrase : Bytes)
    (primitives : Primitives σ) :
    legacyMasterKey info passphrase primitives = (do
      let (key, hash) ← primitives.deriveKey passphrase legacy.salt legacy.cost
      if hash.accepts legacy.confirmationHash then return some key.asMaster
      else return none) := by
  rw [legacyMasterKey, InfoFile.legacyPassphrase?_eq_some.mpr kept]

namespace Repository

open Edit

def moveLegacy (legacy : LegacyPassphrase) (passphrase : Bytes) (primitives : Primitives σ) :
    Edit σ Bool := do
  let (key, hash) ← lift (primitives.deriveKey passphrase legacy.salt legacy.cost)
  if hash.accepts legacy.confirmationHash then
    appendPassphrase key.asMaster passphrase primitives
    setInfo (← Edit.info).clearLegacy
    return true
  else
    fail migrationRefused

private theorem rotateLegacy_of_kept (kept : before.info.KeepsLegacy legacy) :
    rotateLegacy primitives source before =
      (lift source.acquire >>= fun passphrase =>
        moveLegacy legacy (Bytes.ofString passphrase) primitives) before := by
  have present := InfoFile.hasLegacyPassphrase_iff.mpr ⟨legacy, kept⟩
  change (if before.info.hasLegacyPassphrase = true then
    lift source.acquire >>= _ else _ : Edit σ Bool) before = _
  rw [if_pos present]
  rcases run : source.acquire before.host with ⟨stop | passphrase, host⟩
  · have stopped : (lift source.acquire).Stops before stop { before with host } :=
      stops_lift.mpr ⟨host, run, rfl⟩
    exact (stops_bind.mpr (.inl stopped)).trans (stops_bind.mpr (.inl stopped)).symm
  · have acquired : (lift source.acquire).Returns before passphrase { before with host } :=
      returns_lift.mpr ⟨host, run, rfl⟩
    rw [acquired.bind_eq, acquired.bind_eq]
    change (lift (Unlocking.legacyMasterKey before.info (Bytes.ofString passphrase) primitives) >>=
      _) { before with host } = _
    rw [Unlocking.legacyMasterKey_of_kept kept, lift_bind, bind_assoc]
    refine congrFun (congrArg (lift _ >>= ·) ?_) _
    funext ⟨key, hash⟩
    by_cases accepted : hash.accepts legacy.confirmationHash = true
    · simp only [if_pos accepted]
      rfl
    · simp only [if_neg accepted]
      rfl

/-- Writes the current version. -/
def renumber (report : UpgradeReport) : Edit σ UpgradeReport := do
  setInfo { ← Edit.info with version := 3 }
  return report

theorem upgrade_run (primitives : Primitives σ) (source : PassphraseSource σ)
    (before : Session σ) :
    upgrade primitives source before =
      (if before.info.version = 3 then pure ⟨before.info.version, 3, false⟩
        else if before.info.version = 1 then
          rotateLegacy primitives source >>= fun rotated =>
            renumber ⟨before.info.version, 3, rotated⟩
        else if before.info.version = 2 then renumber ⟨before.info.version, 3, false⟩
        else fail (.unsupportedVersion before.info.version) : Edit σ UpgradeReport) before :=
  rfl

theorem upgrade_of_unknown (unknown : before.info.version ∉ [1, 2, 3]) :
    upgrade primitives source before =
      (.error (.failed (.unsupportedVersion before.info.version)), before) := by
  simp only [List.mem_cons, List.not_mem_nil, or_false, not_or] at unknown
  obtain ⟨first, second, third⟩ := unknown
  rw [upgrade_run, if_neg third, if_neg first, if_neg second]
  rfl

theorem upgrade_of_oldest (oldest : before.info.version = 1) :
    upgrade primitives source before =
      (rotateLegacy primitives source >>= fun rotated => renumber ⟨1, 3, rotated⟩) before := by
  rw [upgrade_run, if_neg (by rw [oldest]; decide), if_pos oldest, oldest]

/-- Without a legacy passphrase to move, nothing but the version changes. -/
theorem upgrade_of_still (known : before.info.version ∈ [1, 2, 3])
    (still : ∀ legacy, before.info.version = 1 → ¬ before.info.KeepsLegacy legacy) :
    upgrade primitives source before = (.ok ⟨before.info.version, 3, false⟩,
      { before with info := { before.info with version := 3 } }) := by
  by_cases oldest : before.info.version = 1
  · have absent : ¬ before.info.hasLegacyPassphrase = true := by
      rw [InfoFile.hasLegacyPassphrase_iff]
      rintro ⟨legacy, kept⟩
      exact still legacy oldest kept
    have unmoved : (rotateLegacy primitives source).Returns before false before := by
      change (if before.info.hasLegacyPassphrase = true then _
        else pure false : Edit σ Bool) before = _
      rw [if_neg absent]
      rfl
    rw [upgrade_of_oldest oldest, unmoved.bind_eq, oldest]
    rfl
  rw [upgrade_run]
  by_cases current : before.info.version = 3
  · rw [if_pos current, ← current]
    rfl
  · have second : before.info.version = 2 := by simpa [oldest, current] using known
    rw [if_neg current, if_neg oldest, if_pos second]
    rfl

/-- A legacy passphrase is moved after one question, and the version is written behind that. -/
theorem upgrade_of_kept (oldest : before.info.version = 1) (kept : before.info.KeepsLegacy legacy) :
    upgrade primitives source before =
      (lift source.acquire >>= fun passphrase =>
        moveLegacy legacy (Bytes.ofString passphrase) primitives >>= fun rotated =>
          renumber ⟨1, 3, rotated⟩) before := by
  rw [upgrade_of_oldest oldest, bind_congr_run (rotateLegacy_of_kept kept), bind_assoc]

/-! ### Questions -/

private theorem moveLegacy_asks_nothing (legacy : LegacyPassphrase) (passphrase : Bytes)
    (primitives : Primitives σ) :
    (moveLegacy legacy passphrase primitives.observed).AddsOnly Session.exchanges
      fun exchange => exchange.asks = false := by
  have working := Primitives.working_observed primitives fun _ asks => asks
  have edits := working.edits
  refine edits.bind (edits.lift (working.deriveKey _ _ _)) fun derived => ?_
  dsimp only
  split
  · exact edits.bind (holds_appendPassphrase working _ _) fun _ => edits.bind edits.info
      fun info => edits.bind (edits.setInfo _) fun _ => edits.pure _
  · exact edits.fail _

private theorem renumber_asks_nothing (report : UpgradeReport) :
    (renumber report : Edit (Observed σ) UpgradeReport).AddsOnly Session.exchanges
      fun exchange => exchange.asks = false := by
  have edits := Edit.inherited_addsOnly (σ := σ) fun exchange => exchange.asks = false
  exact edits.bind edits.info fun info => edits.bind (edits.setInfo _) fun _ => edits.pure _

/-- Where there is a legacy passphrase to move, exactly one is asked for. -/
theorem upgrade_asks_once (oldest : before.info.version = 1)
    (kept : before.info.KeepsLegacy legacy) :
    (upgrade primitives.observed source.observed before.observed).2.exchanges.countP
      Exchange.asks = 1 := by
  have rest (passphrase : String) :=
    AddsOnly.bind (moveLegacy_asks_nothing legacy (Bytes.ofString passphrase) primitives)
      fun rotated => renumber_asks_nothing ⟨1, 3, rotated⟩
  have asks : (lift source.observed.acquire).Adds Session.exchanges _ :=
    adds_lift (adds_observed Exchange.acquire source.acquire)
  have once : (lift source.observed.acquire >>= fun passphrase =>
      moveLegacy legacy (Bytes.ofString passphrase) primitives.observed >>= fun rotated =>
        renumber ⟨1, 3, rotated⟩).Adds Session.exchanges
          fun added => added.countP Exchange.asks = 1 := by
    apply Adds.bind asks rest
    · rintro added ⟨answer, rfl⟩
      rfl
    · rintro added later ⟨answer, rfl⟩ silent
      have none : later.countP Exchange.asks = 0 :=
        List.countP_eq_zero.mpr fun exchange member => by simp [silent exchange member]
      rw [List.countP_append, none]
      rfl
  have oldestObserved : before.observed.info.version = 1 := oldest
  rw [upgrade_of_kept oldestObserved kept]
  exact once.of_empty rfl

/-! ### Refusal -/

private theorem unfailing_renumber (report : UpgradeReport) :
    (renumber report : Edit σ UpgradeReport).Unfailing :=
  total_info.bind fun _ => (total_setInfo _).bind fun _ => total_pure report

/-- With building blocks that do not refuse by themselves, moving is refused exactly when another
hash is derived. -/
theorem stops_moveLegacy_refused
    (fails : primitives.FailsOnly fun failure => failure.kind ≠ .invalidCredentials)
    {passphrase : Bytes} :
    (moveLegacy legacy passphrase primitives).Stops before (.failed migrationRefused) after ↔
      ∃ key hash host,
        (primitives.deriveKey passphrase legacy.salt legacy.cost).Returns before.host (key, hash)
          host ∧ hash.bytes ≠ legacy.confirmationHash ∧ { before with host } = after := by
  have appended (masterKey : MasterKey) :
      (appendPassphrase masterKey passphrase primitives >>= fun _ => do
        setInfo (← Edit.info).clearLegacy
        return true : Edit σ Bool).FailsOnly fun failure => failure.kind ≠ .invalidCredentials :=
    (failsOnly_appendPassphrase fails (by simp [Failure.kind]) masterKey passphrase).bind fun _ =>
      Unfailing.failsOnly (total_info.bind fun _ => (total_setInfo _).bind fun _ => total_pure true)
  unfold moveLegacy
  rw [stops_bind]
  constructor
  · rintro (stopped | ⟨⟨key, hash⟩, between, lifted, stopped⟩)
    · exact absurd rfl ((fails.deriveKey _ _ _).lift _ _ _ stopped)
    obtain ⟨host, derived, rfl⟩ := returns_lift.mp lifted
    by_cases accepted : hash.accepts legacy.confirmationHash = true
    · simp only [if_pos accepted] at stopped
      exact absurd rfl (appended key.asMaster _ _ _ stopped)
    · simp only [if_neg accepted] at stopped
      cases stopped
      exact ⟨key, hash, host, derived, fun met => accepted ((hash.accepts_iff _).mpr met), rfl⟩
  · rintro ⟨key, hash, host, derived, other, rfl⟩
    have refused : ¬ hash.accepts legacy.confirmationHash = true := fun accepted =>
      other ((hash.accepts_iff _).mp accepted)
    refine .inr ⟨(key, hash), _, returns_lift.mpr ⟨host, derived, rfl⟩, ?_⟩
    simp only [if_neg refused]
    rfl

private theorem upgrade_refused_iff
    (fails : primitives.FailsOnly fun failure => failure.kind ≠ .invalidCredentials)
    (asks : source.acquire.FailsOnly fun failure => failure.kind ≠ .invalidCredentials)
    (oldest : before.info.version = 1) (kept : before.info.KeepsLegacy legacy) :
    (∃ after, (upgrade primitives source).Stops before (.failed migrationRefused) after) ↔
      ∃ passphrase asked key hash derived,
        source.acquire.Returns before.host passphrase asked ∧
        (primitives.deriveKey (Bytes.ofString passphrase) legacy.salt legacy.cost).Returns asked
          (key, hash) derived ∧ hash.bytes ≠ legacy.confirmationHash := by
  unfold Stops
  rw [upgrade_of_kept oldest kept]
  constructor
  · rintro ⟨after, stopped⟩
    rcases stops_bind.mp stopped with asking | ⟨passphrase, _, lifted, stopped⟩
    · exact absurd rfl (asks.lift _ _ _ asking)
    obtain ⟨asked, acquired, rfl⟩ := returns_lift.mp lifted
    rcases stops_bind.mp stopped with moving | ⟨rotated, between, -, numbering⟩
    · obtain ⟨key, hash, derived, deriving_, other, -⟩ := (stops_moveLegacy_refused fails).mp moving
      exact ⟨passphrase, asked, key, hash, derived, acquired, deriving_, other⟩
    · exact (unfailing_renumber _ _ _ _ numbering).elim
  · rintro ⟨passphrase, asked, key, hash, derived, acquired, deriving_, other⟩
    have moving : (moveLegacy legacy (Bytes.ofString passphrase) primitives).Stops
        { before with host := asked } (.failed migrationRefused) { before with host := derived } :=
      (stops_moveLegacy_refused fails).mpr ⟨key, hash, derived, deriving_, other, rfl⟩
    exact ⟨_, stops_bind.mpr (.inr ⟨passphrase, _, returns_lift.mpr ⟨asked, acquired, rfl⟩,
      stops_bind.mpr (.inl moving)⟩)⟩

/-! ### Success -/

/-- A legacy passphrase gives way to an entry at the cost that was configured when the entry's
salt had been made. -/
theorem of_returns_upgrade_of_kept (oldest : before.info.version = 1)
    (kept : before.info.KeepsLegacy legacy) {report : UpgradeReport}
    (returned : (upgrade primitives source).Returns before report after) :
    report = ⟨1, 3, true⟩ ∧ ∃ entry start salted,
      primitives.generateSalt.Returns start entry.salt salted ∧
      entry.cost = primitives.cost salted ∧
      after.info = ⟨before.info.app, 3, before.info.keys ++ [.passphrase entry],
        none, none, none⟩ := by
  rw [Returns, upgrade_of_kept oldest kept] at returned
  obtain ⟨passphrase, _, acquired, returned⟩ := returns_bind.mp returned
  obtain ⟨asked, -, rfl⟩ := returns_lift.mp acquired
  obtain ⟨rotated, moved, moving, numbering⟩ := returns_bind.mp returned
  obtain ⟨⟨key, hash⟩, _, derived, moving⟩ := returns_bind.mp moving
  obtain ⟨host, -, rfl⟩ := returns_lift.mp derived
  by_cases accepted : hash.accepts legacy.confirmationHash = true
  · simp only [if_pos accepted] at moving
    obtain ⟨_, appended, appending, clearing⟩ := returns_bind.mp moving
    obtain ⟨entry, salted, -, -, -, wrapped, salting, cost, -, -, -, -, rfl⟩ :=
      steps_of_returns_appendPassphrase appending
    cases clearing
    cases numbering
    exact ⟨rfl, entry, host, salted, salting, cost, rfl⟩
  · simp only [if_neg accepted] at moving
    cases moving

private theorem version_of_returns_upgrade {report : UpgradeReport}
    (returned : (upgrade primitives source).Returns before report after) :
    report.fromVersion = before.info.version ∧ report.toVersion = 3 ∧ after.info.version = 3 ∧
      (before.info.version = 1 → after.info.hasLegacyPassphrase = false) := by
  by_cases known : before.info.version ∈ [1, 2, 3]
  · by_cases moves : ∃ legacy, before.info.version = 1 ∧ before.info.KeepsLegacy legacy
    · obtain ⟨legacy, oldest, kept⟩ := moves
      obtain ⟨rfl, entry, _, _, -, -, edited⟩ := of_returns_upgrade_of_kept oldest kept returned
      rw [edited, oldest]
      exact ⟨rfl, rfl, rfl, fun _ => rfl⟩
    · have still (legacy : LegacyPassphrase) (oldest : before.info.version = 1) :
          ¬ before.info.KeepsLegacy legacy := fun kept => moves ⟨legacy, oldest, kept⟩
      rw [Returns, upgrade_of_still known still] at returned
      cases returned
      refine ⟨rfl, rfl, rfl, fun oldest => ?_⟩
      rw [← Bool.not_eq_true]
      intro present
      obtain ⟨legacy, kept⟩ := InfoFile.hasLegacyPassphrase_iff.mp present
      exact still legacy oldest ⟨kept.salt, kept.salt_ne, kept.hash, kept.hash_ne, kept.cost⟩
  · rw [Returns, upgrade_of_unknown known] at returned
    cases returned

/-- A file of the current version stays as it is, whatever the building blocks and the source. -/
theorem upgrade_of_current (current : before.info.version = 3) :
    upgrade primitives source before = (.ok ⟨3, 3, false⟩, before) := by
  rw [upgrade_run, if_pos current, current]
  rfl

/-- Moving forward by version and legacy passphrase, with building blocks and a source that do not
refuse by themselves.  Unknown versions are reported.  Where there is a legacy passphrase to move,
one passphrase is asked for, a refusal means that it derives another hash, and a success replaces
the legacy passphrase by an entry at the configured cost.  In all other cases nothing is called.
After a success another move changes nothing, with any building blocks and any source, so also with
those that are observed. -/
theorem upgrade_moves_forward
    (fails : primitives.FailsOnly fun failure => failure.kind ≠ .invalidCredentials)
    (asks : source.acquire.FailsOnly fun failure => failure.kind ≠ .invalidCredentials)
    (before : Session σ) :
    (before.info.version ∉ [1, 2, 3] →
      upgrade primitives source before =
        (.error (.failed (.unsupportedVersion before.info.version)), before)) ∧
    ((∀ legacy, before.info.version = 1 → ¬ before.info.KeepsLegacy legacy) →
      (upgrade primitives.observed source.observed before.observed).2.exchanges = [] ∧
      (before.info.version ∈ [1, 2, 3] →
        upgrade primitives source before = (.ok ⟨before.info.version, 3, false⟩,
          { before with info := { before.info with version := 3 } }))) ∧
    (∀ legacy, before.info.version = 1 → before.info.KeepsLegacy legacy →
      (upgrade primitives.observed source.observed before.observed).2.exchanges.countP
        Exchange.asks = 1 ∧
      ((∃ after, (upgrade primitives source).Stops before (.failed migrationRefused) after) ↔
        ∃ passphrase asked key hash derived,
          source.acquire.Returns before.host passphrase asked ∧
          (primitives.deriveKey (Bytes.ofString passphrase) legacy.salt legacy.cost).Returns
            asked (key, hash) derived ∧ hash.bytes ≠ legacy.confirmationHash) ∧
      ∀ report after, (upgrade primitives source).Returns before report after →
        report = ⟨1, 3, true⟩ ∧ ∃ entry start salted,
          primitives.generateSalt.Returns start entry.salt salted ∧
          entry.cost = primitives.cost salted ∧
          after.info = ⟨before.info.app, 3, before.info.keys ++ [.passphrase entry],
            none, none, none⟩) ∧
    ∀ report after, (upgrade primitives source).Returns before report after →
      (report.fromVersion = before.info.version ∧ report.toVersion = 3 ∧
        after.info.version = 3 ∧
        (before.info.version = 1 → after.info.hasLegacyPassphrase = false)) ∧
      ∀ {τ : Type} (others : Primitives τ) (other : PassphraseSource τ) (host : τ),
        upgrade others other ⟨after.info, host⟩ = (.ok ⟨3, 3, false⟩, ⟨after.info, host⟩) := by
  refine ⟨upgrade_of_unknown, ?_, ?_, ?_⟩
  · intro still
    refine ⟨?_, fun known => upgrade_of_still known still⟩
    by_cases known : before.info.version ∈ [1, 2, 3]
    · have knownObserved : before.observed.info.version ∈ [1, 2, 3] := known
      rw [upgrade_of_still knownObserved still]
      rfl
    · have unknownObserved : before.observed.info.version ∉ [1, 2, 3] := known
      rw [upgrade_of_unknown unknownObserved]
      rfl
  · intro legacy oldest kept
    exact ⟨upgrade_asks_once oldest kept, upgrade_refused_iff fails asks oldest kept,
      fun report after returned => of_returns_upgrade_of_kept oldest kept returned⟩
  · intro report after returned
    have versions := version_of_returns_upgrade returned
    exact ⟨versions, fun others other host => upgrade_of_current versions.2.2.1⟩

end Repository

theorem PassphraseSource.failsOnly_stored {Allowed : Failure → Prop} (cancelled : Allowed .cancelled)
    (held : Option String) : (stored held : PassphraseSource σ).acquire.FailsOnly Allowed := by
  cases held with
  | none => exact failsOnly_fail cancelled
  | some passphrase =>
    unfold stored
    dsimp only
    split
    · exact failsOnly_fail cancelled
    · exact (unfailing_pure passphrase).failsOnly

open Repository

/-- An old file is moved once with the right passphrase, and another one is refused. -/
theorem upgrade_moves_oldFile :
    let file := Transparent.oldFile "old"
    let lower := Transparent.blocks ⟨⟨8192, 1, 1⟩, []⟩
    (∃ after, (upgrade lower (.stored (some "old"))).Returns ⟨file, 0⟩ ⟨1, 3, true⟩ after ∧
      (∃ entry, after.info.keys = [.passphrase entry] ∧ entry.cost = ⟨8192, 1, 1⟩) ∧
      upgrade lower (.stored none) ⟨after.info, 0⟩ = (.ok ⟨3, 3, false⟩, ⟨after.info, 0⟩)) ∧
    ∃ after, (upgrade lower (.stored (some "new"))).Stops ⟨file, 0⟩ (.failed migrationRefused)
      after := by
  intro file lower
  have fails : lower.FailsOnly fun failure => failure.kind ≠ .invalidCredentials :=
    (Transparent.failsOnly ⟨⟨8192, 1, 1⟩, []⟩).weaken fun failure kind => by simp [kind]
  have kept : file.KeepsLegacy
      ⟨[1], (Transparent.derive (Bytes.ofString "old") [1]).2.bytes, .standard⟩ :=
    InfoFile.legacyPassphrase?_eq_some.mp rfl
  have moving (passphrase : String) := upgrade_moves_forward fails
    (PassphraseSource.failsOnly_stored (by decide) (some passphrase)) ⟨file, 0⟩
  refine ⟨?_, ?_⟩
  · have run : ∃ after, (upgrade lower (.stored (some "old"))).Returns ⟨file, 0⟩ ⟨1, 3, true⟩
        after := ⟨_, rfl⟩
    obtain ⟨after, moved⟩ := run
    obtain ⟨-, -, rotates, succeeds⟩ := moving "old"
    obtain ⟨-, -, replaced⟩ := rotates _ rfl kept
    obtain ⟨-, entry, _, _, -, cost, edited⟩ := replaced _ _ moved
    exact ⟨after, moved, ⟨entry, by rw [edited]; rfl, cost⟩, (succeeds _ _ moved).2 _ _ _⟩
  · obtain ⟨-, -, rotates, -⟩ := moving "new"
    obtain ⟨-, refused, -⟩ := rotates _ rfl kept
    exact refused.mpr ⟨"new", 0, _, _, 0, rfl, rfl, by decide⟩

end Keywarden
