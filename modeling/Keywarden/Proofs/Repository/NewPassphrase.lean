import Keywarden.Proofs.Repository.Failures
import Keywarden.Proofs.Repository.Migration
import Keywarden.Proofs.Unlocking.Policy

/-!
# A passphrase that is added

Before a passphrase is added, the file is unlocked with it.  Only when that ends without a match
is an entry made, so that every entry before the new one is known to pass the passphrase over
and the search reaches the new one.  No search among the old entries is disturbed, since the new
one stands behind them.
-/

namespace Keywarden

open Keywarden.Action Unlocking

variable {ι σ : Type} {primitives : Primitives σ} {source : PassphraseSource σ}
  {info : InfoFile} {masterKey : MasterKey} {passphrase : String}

/-- Whether a salt was made, the first step after the check. -/
def Exchange.salts : Exchange → Bool
  | .generateSalt _ => true
  | _ => false

namespace Unlocking

/-- When nothing matched, every entry was passed over. -/
theorem unmet_of_refused
    (fails : primitives.FailsOnly fun failure => failure.kind = .primitiveFailure)
    {context : String} {before after : σ}
    (refused : (withPassphrase info passphrase primitives).Stops before
      (.failed (.invalidCredentials context)) after) :
    (tryPassphrases primitives (Bytes.ofString passphrase) info.passphrases).Yields none := by
  rcases stops_bind.mp refused with stopped | ⟨found, between, searched, refused⟩
  · have kind := failsOnly_tryPassphrases fails (fun _ _ => rfl) _ _ _ _ _ stopped
    cases kind
  · cases found with
    | some unlocked => exact (not_stops_pure refused).elim
    | none => exact searched.yields

end Unlocking

namespace Repository

open Edit

section Check

variable {before : Session σ} {host : σ} {stop : Stop} {unlocked : Unlocked} {context : String}

/-- A passphrase that unlocks the file is not added. -/
theorem addPassphrase_of_unlocked
    (run : (withPassphrase before.info passphrase primitives).Returns before.host unlocked host) :
    (addPassphrase masterKey passphrase primitives).Stops before
      (.failed (.duplicateFactor "This passphrase has already been added to the repository"))
      { before with host } := by
  have checked : (attempt (lift (withPassphrase before.info passphrase primitives))).Returns before
      (.ok unlocked) { before with host } :=
    returns_attempt.mpr (returns_lift.mpr ⟨host, run, rfl⟩)
  exact checked.bind_eq _

/-- A passphrase that unlocks nothing is added. -/
theorem addPassphrase_of_refused
    (run : (withPassphrase before.info passphrase primitives).Stops before.host
      (.failed (.invalidCredentials context)) host) :
    addPassphrase masterKey passphrase primitives before =
      appendPassphrase masterKey (Bytes.ofString passphrase) primitives { before with host } := by
  have checked : (attempt (lift (withPassphrase before.info passphrase primitives))).Returns before
      (.error (.invalidCredentials context)) { before with host } :=
    returns_attempt.mpr (stops_lift.mpr ⟨host, run, rfl⟩)
  exact checked.bind_eq _

/-- Any other stop of the check is passed on. -/
theorem addPassphrase_of_stops
    (run : (withPassphrase before.info passphrase primitives).Stops before.host stop host)
    (other : ∀ context, stop ≠ .failed (.invalidCredentials context)) :
    (addPassphrase masterKey passphrase primitives).Stops before stop { before with host } := by
  have lifted : (lift (withPassphrase before.info passphrase primitives)).Stops before stop
      { before with host } := stops_lift.mpr ⟨host, run, rfl⟩
  cases stop with
  | failed failure =>
    have checked : (attempt (lift (withPassphrase before.info passphrase primitives))).Returns
        before (.error failure) { before with host } := returns_attempt.mpr lifted
    cases failure with
    | invalidCredentials context => exact absurd rfl (other context)
    | _ => exact checked.bind_eq _
  | aborted =>
    exact stops_bind.mpr (.inr ⟨_, before, returns_info.mpr ⟨rfl, rfl⟩,
      stops_bind.mpr (.inl (stops_attempt.mpr ⟨lifted, nofun⟩))⟩)
  | awaiting =>
    exact stops_bind.mpr (.inr ⟨_, before, returns_info.mpr ⟨rfl, rfl⟩,
      stops_bind.mpr (.inl (stops_attempt.mpr ⟨lifted, nofun⟩))⟩)

end Check

/-- A new passphrase is taken for a duplicate exactly when it unlocks the file. -/
theorem addPassphrase_duplicate_iff
    (fails : primitives.FailsOnly fun failure => failure.kind = .primitiveFailure)
    (before : Session σ) :
    (∃ text after, (addPassphrase masterKey passphrase primitives).Stops before
      (.failed (.duplicateFactor text)) after) ↔
    ∃ unlocked, (withPassphrase before.info passphrase primitives before.host).1 =
      .ok unlocked := by
  have others : primitives.FailsOnly fun failure => failure.kind ≠ .duplicateFactor :=
    fails.weaken fun failure kind => by simp [kind]
  rcases run : withPassphrase before.info passphrase primitives before.host with
    ⟨stop | unlocked, host⟩
  · refine iff_of_false ?_ (by rintro ⟨unlocked, other⟩; cases other)
    rintro ⟨text, after, stopped⟩
    by_cases refused : ∃ context, stop = .failed (.invalidCredentials context)
    · obtain ⟨context, rfl⟩ := refused
      rw [Stops, addPassphrase_of_refused run] at stopped
      exact failsOnly_appendPassphrase others (by simp [Failure.kind]) _ _ _ _ _ stopped rfl
    · have passed : (addPassphrase masterKey passphrase primitives).Stops before stop
          { before with host } :=
        addPassphrase_of_stops run fun context same => refused ⟨context, same⟩
      cases stopped.symm.trans passed
      exact failsOnly_withPassphrase others (by simp [Failure.kind]) (by decide) _ _ _ _ _ run rfl
  · exact iff_of_true ⟨_, _, addPassphrase_of_unlocked run⟩ ⟨unlocked, rfl⟩

/-- To make an entry, a salt is made first. -/
theorem appendPassphrase_salts (primitives : Primitives σ) (masterKey : MasterKey)
    (passphrase : Bytes) :
    (appendPassphrase masterKey passphrase primitives.observed).Adds Session.exchanges
      fun added => ∃ exchange ∈ added, exchange.salts = true := by
  have rest (salt : Bytes) :
      (appendSalted masterKey passphrase salt primitives.observed).AddsOnly Session.exchanges
        fun _ => True :=
    holds_appendSalted (Primitives.working_observed primitives fun _ _ => trivial)
      masterKey passphrase salt
  rw [appendPassphrase_eq]
  apply Adds.bind (adds_lift (adds_observed Exchange.generateSalt primitives.generateSalt)) rest
  · rintro added ⟨answer, rfl⟩
    exact ⟨_, List.mem_singleton_self _, rfl⟩
  · rintro added later ⟨answer, rfl⟩ -
    exact ⟨_, List.mem_cons_self, rfl⟩

/-- The check makes no salt. -/
theorem run_withPassphrase_unsalted (info : InfoFile) (passphrase : String)
    (primitives : Primitives σ) (host : σ) {earlier : List Exchange}
    (unsalted : ∀ exchange ∈ earlier, exchange.salts = false) :
    ∃ made, withPassphrase info passphrase primitives.observed ⟨host, earlier⟩ =
        ((withPassphrase info passphrase primitives host).1,
          ⟨(withPassphrase info passphrase primitives host).2, made⟩) ∧
      ∀ exchange ∈ made, exchange.salts = false := by
  have silent : (withPassphrase info passphrase primitives.observed).AddsOnly Observed.exchanges
      fun exchange => exchange.salts = false :=
    holds_withPassphrase (Primitives.searching_observed primitives (fun _ _ _ _ => rfl)
      (fun _ _ _ => rfl) fun _ _ => rfl) info passphrase
  obtain ⟨added, run, -⟩ := observes_withPassphrase info passphrase primitives host earlier
  obtain ⟨again, grown, only⟩ := silent ⟨host, earlier⟩
  rw [run] at grown
  cases List.append_cancel_left grown
  refine ⟨earlier ++ added, run, fun exchange member => ?_⟩
  rcases List.mem_append.mp member with early | late
  · exact unsalted exchange early
  · exact only exchange late

/-- A salt is made exactly when the new passphrase unlocks nothing. -/
theorem addPassphrase_salts_iff (primitives : Primitives σ) (info : InfoFile)
    (masterKey : MasterKey) (passphrase : String) (host : σ) {earlier : List Exchange}
    (unsalted : ∀ exchange ∈ earlier, exchange.salts = false) :
    (∃ exchange ∈ (addPassphrase masterKey passphrase primitives.observed
        ⟨info, ⟨host, earlier⟩⟩).2.exchanges, exchange.salts = true) ↔
      ∃ context, (withPassphrase info passphrase primitives host).1 =
        .error (.failed (.invalidCredentials context)) := by
  obtain ⟨made, run, checked⟩ :=
    run_withPassphrase_unsalted info passphrase primitives host unsalted
  let watched : Session (Observed σ) := ⟨info, ⟨host, earlier⟩⟩
  have unsaltedAfter {outcome : Except Stop Unit} {final : σ}
      (ended : addPassphrase masterKey passphrase primitives.observed watched =
        (outcome, ⟨info, ⟨final, made⟩⟩)) :
      ¬ ∃ exchange ∈ (addPassphrase masterKey passphrase primitives.observed
        watched).2.exchanges, exchange.salts = true := by
    rintro ⟨exchange, member, salted⟩
    rw [ended] at member
    cases salted.symm.trans (checked exchange member)
  rcases checking : withPassphrase info passphrase primitives host with ⟨stop | unlocked, final⟩
  · rw [checking] at run
    by_cases refused : ∃ context, stop = .failed (.invalidCredentials context)
    · obtain ⟨context, rfl⟩ := refused
      refine iff_of_true ?_ ⟨context, rfl⟩
      have appends : addPassphrase masterKey passphrase primitives.observed watched =
          appendPassphrase masterKey (Bytes.ofString passphrase) primitives.observed
            ⟨info, ⟨final, made⟩⟩ := addPassphrase_of_refused run
      obtain ⟨later, grown, exchange, member, salted⟩ := appendPassphrase_salts primitives
        masterKey (Bytes.ofString passphrase) ⟨info, final, made⟩
      rw [appends]
      exact ⟨exchange, grown ▸ List.mem_append_right _ member, salted⟩
    · have passed : addPassphrase masterKey passphrase primitives.observed watched =
          (.error stop, ⟨info, ⟨final, made⟩⟩) :=
        addPassphrase_of_stops run fun context same => refused ⟨context, same⟩
      refine iff_of_false (unsaltedAfter passed) ?_
      rintro ⟨context, same⟩
      cases same
      exact refused ⟨context, rfl⟩
  · rw [checking] at run
    refine iff_of_false (unsaltedAfter (addPassphrase_of_unlocked run)) ?_
    rintro ⟨context, same⟩
    cases same

end Repository

open Repository

/-- A passphrase counts as a duplicate exactly when it unlocks the file, and it passes that check
exactly when it unlocks nothing.  Once it was added, it unlocks the new entry at every configured
cost, and what unlocked through an entry before does so still. -/
theorem new_passphrase_unlocks {blocks : ι → Primitives σ}
    (repeatable : Primitives.Repeatable blocks) (reversible : Primitives.Reversible blocks)
    {setting : ι}
    (fails : (blocks setting).FailsOnly fun failure => failure.kind = .primitiveFailure)
    {before : Session σ} {host : σ} (acquired : source.acquire.Returns before.host passphrase host)
    (masterKey : MasterKey) :
    ((∃ text after, (addFactor masterKey .passphrase (blocks setting) source).Stops before
        (.failed (.duplicateFactor text)) after) ↔
      ∃ unlocked, (withPassphrase before.info passphrase (blocks setting)).Answers
        (.ok unlocked)) ∧
    ((∃ exchange ∈ (addFactor masterKey .passphrase (blocks setting).observed source.observed
        before.observed).2.exchanges, exchange.salts = true) ↔
      ∃ context, (withPassphrase before.info passphrase (blocks setting)).Answers
        (.error (.failed (.invalidCredentials context)))) ∧
    ∀ after, (addFactor masterKey .passphrase (blocks setting) source).Returns before () after →
      (∀ other, (withPassphrase after.info passphrase (blocks other)).Answers
        (.ok ⟨masterKey, .passphrase before.info.keys.length⟩)) ∧
      ∀ text reading unlocked,
        (withPassphrase before.info text (blocks reading)).Yields unlocked →
        unlocked.factor ≠ .legacy →
        ∀ other, (withPassphrase after.info text (blocks other)).Answers (.ok unlocked) := by
  have uniform := uniform_withPassphrase repeatable before.info passphrase
  refine ⟨?_, ?_, ?_⟩
  · have asked : addFactor masterKey .passphrase (blocks setting) source before =
        addPassphrase masterKey passphrase (blocks setting) ⟨before.info, host⟩ :=
      Returns.bind_eq (Edit.returns_lift.mpr ⟨host, acquired, rfl⟩) _
    simp only [Stops, asked, uniform.answers_iff setting host]
    exact addPassphrase_duplicate_iff fails ⟨before.info, host⟩
  · have asked : addFactor masterKey .passphrase (blocks setting).observed source.observed
        before.observed = addPassphrase masterKey passphrase (blocks setting).observed
          ⟨before.info, ⟨host, [.acquire (.ok passphrase)]⟩⟩ :=
      Returns.bind_eq (Edit.returns_lift.mpr ⟨_, acquired.observed .acquire [], rfl⟩) _
    simp only [asked, uniform.answers_iff setting host]
    exact addPassphrase_salts_iff (blocks setting) before.info masterKey passphrase host
      (by simp [Exchange.salts])
  · intro after returned
    obtain ⟨entry, added, edited⟩ := of_returns_addFactor returned
    cases added with
    | passphrase given refused made =>
      cases acquired.symm.trans given
      rw [edited]
      constructor
      · exact withPassphrase_answers_of_made repeatable reversible
          (unmet_of_refused fails refused) made (InfoFile.passphrases_append _ _)
      · intro text reading unlocked yields listed
        exact withPassphrase_answers_of_entry repeatable (InfoFile.passphrases_append _ _)
          yields listed

/-- Neither passphrase of a shared file is added again, and a third one works beside them. -/
theorem new_passphrase_unlocks_shared :
    let file := Transparent.sharedFile "old" "backup"
    let key := Transparent.oldKey "old"
    let lower := Transparent.blocks ⟨⟨8192, 1, 1⟩, []⟩
    let usual := Transparent.blocks ⟨.standard, ["ab12"]⟩
    (∀ passphrase ∈ ["old", "backup"], ∃ text after,
      (addFactor key .passphrase lower (.stored (some passphrase))).Stops ⟨file, 0⟩
        (.failed (.duplicateFactor text)) after) ∧
    ∃ after, (addFactor key .passphrase lower (.stored (some "third"))).Returns ⟨file, 0⟩ () after ∧
      (withPassphrase after.info "third" usual).Answers (.ok ⟨key, .passphrase 2⟩) ∧
      (withPassphrase after.info "backup" usual).Answers (.ok ⟨key, .passphrase 1⟩) := by
  intro file key lower usual
  let before : Session Nat := ⟨file, 0⟩
  have adding (passphrase : String) (acquired :
      (PassphraseSource.stored (some passphrase)).acquire.Returns before.host passphrase 0) :=
    new_passphrase_unlocks Transparent.functional.repeatable Transparent.reversible
      (Transparent.failsOnly ⟨⟨8192, 1, 1⟩, []⟩) acquired key
  have second : (withPassphrase file "backup" usual).Yields ⟨key, .passphrase 1⟩ := ⟨0, 0, rfl⟩
  have legacy : (withPassphrase file "old" usual).Yields ⟨key, .legacy⟩ := ⟨0, 0, rfl⟩
  refine ⟨?_, ?_⟩
  · have answers {passphrase : String} {unlocked : Unlocked}
        (yields : (withPassphrase file passphrase usual).Yields unlocked) :
        (withPassphrase file passphrase lower).Answers (.ok unlocked) :=
      (uniform_withPassphrase Transparent.functional.repeatable file passphrase).answers_of_yields
        _ yields _
    intro passphrase member
    rcases List.mem_pair.mp member with rfl | rfl
    · exact (adding "old" rfl).1.mpr ⟨_, answers legacy⟩
    · exact (adding "backup" rfl).1.mpr ⟨_, answers second⟩
  · have run : ∃ after, (addFactor key .passphrase lower (.stored (some "third"))).Returns
        before () after := ⟨_, rfl⟩
    obtain ⟨after, added⟩ := run
    obtain ⟨third, others⟩ := (adding "third" rfl).2.2 after added
    exact ⟨after, added, third _, others _ _ _ second nofun _⟩

end Keywarden
