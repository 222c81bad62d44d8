import Keywarden.Proofs.Primitives.Standard
import Keywarden.Proofs.Repository.Recipients

/-!
# Requests for random bytes

With the standard building blocks, creating key material, adding a factor and moving a file
forward ask for random bytes in a fixed order: the master key, then the salt and the nonce of a
passphrase entry, or the fresh secret and the nonce of a sealed box.  An operation is watched by
putting down every request with its answer.

A refused request is always the last one.  It leaves the info file alone, and its purpose alone
decides how the operation ends: the refusal of a master key or of a salt is reported as a failure
of the building blocks, and the refusal of a nonce or of a fresh secret breaks the process off.
-/

namespace Keywarden

open Keywarden.Action

variable {σ τ α β : Type}

/-- A request for random bytes with its answer. -/
structure Draw where
  count : Nat
  answer : Except String Bytes
deriving DecidableEq

/-- A state and the requests so far. -/
structure Watched (σ : Type) where
  host : σ
  draws : List Draw

/-- The source of random bytes, with every request put down. -/
def Entropy.watched (entropy : Entropy σ) : Entropy (Watched σ) where
  draw count state :=
    let (answer, host) := entropy.draw count state.host
    (answer, ⟨host, state.draws ++ [⟨count, answer⟩]⟩)

/-- The source of passphrases, which leaves the requests alone. -/
def PassphraseSource.watched (source : PassphraseSource σ) : PassphraseSource (Watched σ) where
  acquire := Action.focus Watched.host (fun state host => { state with host }) source.acquire

/-- The session after some requests. -/
def Session.watched (session : Session σ) (draws : List Draw) : Session (Watched σ) :=
  ⟨session.info, ⟨session.host, draws⟩⟩

/-- A request that is served is served in full. -/
def Entropy.Full (entropy : Entropy σ) : Prop :=
  ∀ count before bytes after,
    entropy.draw count before = (.ok bytes, after) → bytes.length = count

/-- Asking for a passphrase does not break the process off. -/
def PassphraseSource.Steady (source : PassphraseSource σ) : Prop :=
  ∀ before after, ¬ source.acquire.Stops before .aborted after

/-! ### Purposes and plans -/

/-- What random bytes are for. -/
inductive Purpose
  | masterKey
  | salt
  /-- The nonce under which a wrapping key is used. -/
  | wrapNonce
  /-- The secret of the identity that seals one box. -/
  | freshSecret
  | boxNonce
deriving DecidableEq

namespace Purpose

def count : Purpose → Nat
  | .masterKey => 32
  | .salt => 32
  | .wrapNonce => 12
  | .freshSecret => 32
  | .boxNonce => 24

def context? : Purpose → Option String
  | .masterKey => some "Error generating the master key"
  | .salt => some "Error generating a new salt"
  | _ => none

/-- How an operation ends when the request is refused. -/
def refusal (purpose : Purpose) (reason : String) : Stop :=
  match purpose.context? with
  | some context => .failed (.primitive context ("OS RNG: " ++ reason))
  | none => .aborted

private theorem refusal_eq_aborted {purpose : Purpose} {reason : String} :
    purpose.refusal reason = .aborted ↔ purpose.context? = none := by
  unfold refusal
  cases purpose.context? <;> simp

end Purpose

/-- The requests are made in the order of the plan.  A refused request is the last one and decides
how the run ends.  Otherwise a run returns a value only when the whole plan is served, and it does
not break off. -/
inductive Follows : List Purpose → List Draw → Except Stop α → Prop
  | finished (value : α) : Follows [] [] (.ok value)
  | stopped (plan : List Purpose) {stop : Stop} (other : stop ≠ .aborted) :
      Follows plan [] (.error stop)
  | refused (purpose : Purpose) (plan : List Purpose) (reason : String) :
      Follows (purpose :: plan) [⟨purpose.count, .error reason⟩]
        (.error (purpose.refusal reason))
  | served (purpose : Purpose) (bytes : Bytes) {plan : List Purpose} {draws : List Draw}
      {outcome : Except Stop α} (rest : Follows plan draws outcome) :
      Follows (purpose :: plan) (⟨purpose.count, .ok bytes⟩ :: draws) outcome

namespace Follows

variable {plan first rest : List Purpose} {draws later : List Draw} {outcome : Except Stop α}

private theorem append {value : α} {final : Except Stop β} (front : Follows first draws (.ok value))
    (goesOn : Follows rest later final) : Follows (first ++ rest) (draws ++ later) final := by
  generalize same : (Except.ok value : Except Stop α) = outcome at front
  induction front with
  | finished _ => exact goesOn
  | stopped _ _ => cases same
  | refused _ _ _ => cases same
  | served purpose bytes _ ih => exact .served purpose bytes (ih same)

/-- What is left of the plan does not matter once the run has stopped. -/
theorem append_stopped {stop : Stop} (front : Follows first draws (.error stop : Except Stop α)) :
    Follows (first ++ rest) draws (.error stop : Except Stop β) := by
  generalize same : (Except.error stop : Except Stop α) = outcome at front
  induction front with
  | finished _ => cases same
  | stopped plan other =>
    cases same
    exact .stopped _ other
  | refused purpose plan reason =>
    cases same
    exact .refused purpose _ reason
  | served purpose bytes _ ih => exact .served purpose bytes (ih same)

private theorem map (change : α → β) (follows : Follows plan draws outcome) :
    Follows plan draws (outcome.map change) := by
  induction follows with
  | finished value => exact .finished (change value)
  | stopped plan other => exact .stopped plan other
  | refused purpose plan reason => exact .refused purpose plan reason
  | served purpose bytes _ ih => exact .served purpose bytes ih

theorem nil_iff : Follows [] draws outcome ↔ draws = [] ∧ outcome ≠ .error .aborted := by
  constructor
  · rintro (_ | ⟨_, other⟩)
    · exact ⟨rfl, nofun⟩
    · exact ⟨rfl, fun same => other (by cases same; rfl)⟩
  · rintro ⟨rfl, other⟩
    cases outcome with
    | ok value => exact .finished value
    | error stop => exact .stopped [] fun same => other (by rw [same])

private theorem counts (follows : Follows plan draws outcome) :
    draws.map Draw.count <+: plan.map Purpose.count := by
  induction follows with
  | finished _ => exact List.nil_prefix
  | stopped _ _ => exact List.nil_prefix
  | refused purpose plan reason => exact ⟨plan.map Purpose.count, rfl⟩
  | served purpose _ _ ih => exact List.cons_prefix_cons.mpr ⟨rfl, ih⟩

private theorem length_eq {value : α} (follows : Follows plan draws (.ok value)) :
    draws.length = plan.length := by
  generalize same : (Except.ok value : Except Stop α) = outcome at follows
  induction follows with
  | finished _ => rfl
  | stopped _ _ => cases same
  | refused _ _ _ => cases same
  | served _ _ _ ih => simp [ih same]

/-- The purpose of a refused request decides how the run ends. -/
theorem of_refused (follows : Follows plan draws outcome) {position count : Nat} {reason : String}
    (refused : draws[position]? = some ⟨count, .error reason⟩) :
    position + 1 = draws.length ∧ ∃ purpose, plan[position]? = some purpose ∧
      outcome = .error (purpose.refusal reason) := by
  induction follows generalizing position with
  | finished _ => simp at refused
  | stopped _ _ => simp at refused
  | refused purpose plan other =>
    cases position with
    | zero =>
      cases refused
      exact ⟨rfl, purpose, rfl, rfl⟩
    | succ position => simp at refused
  | served purpose bytes rest ih =>
    cases position with
    | zero => cases refused
    | succ position =>
      have inRest := List.getElem?_cons_succ.symm.trans refused
      obtain ⟨last, found⟩ := ih inRest
      exact ⟨by simp [last], found⟩

/-- Only a refused request breaks a run off. -/
theorem of_aborted (follows : Follows plan draws (.error .aborted : Except Stop α)) :
    ∃ (position : Nat) (purpose : Purpose) (reason : String), plan[position]? = some purpose ∧
      purpose.context? = none ∧ draws[position]? = some ⟨purpose.count, .error reason⟩ := by
  generalize same : (Except.error .aborted : Except Stop α) = outcome at follows
  induction follows with
  | finished _ => cases same
  | stopped _ other =>
    cases same
    exact absurd rfl other
  | refused purpose _ reason =>
    have aborted : purpose.refusal reason = .aborted := by injection same with same; exact same.symm
    exact ⟨0, purpose, reason, rfl, Purpose.refusal_eq_aborted.mp aborted, rfl⟩
  | served _ _ _ ih =>
    obtain ⟨position, found⟩ := ih same
    exact ⟨position + 1, found⟩

end Follows

/-! ### Watching a run -/

/-- Watched from a state on, the action ends as it does without, and its requests follow the
plan. -/
def Action.Watches (watch : σ → List Draw → τ) (plan : List Purpose) (before : σ)
    (plain : Action σ α) (watched : Action τ α) : Prop :=
  ∀ earlier, ∃ draws,
    watched (watch before earlier) = ((plain before).1, watch (plain before).2 (earlier ++ draws)) ∧
      Follows plan draws (plain before).1

section Watches

variable {watch : σ → List Draw → τ} {plan first rest : List Purpose} {before : σ}

theorem watches_pure (value : α) :
    Watches watch [] before (pure value : Action σ α) (pure value : Action τ α) :=
  fun earlier => ⟨[], by rw [List.append_nil]; rfl, .finished value⟩

theorem watches_fail (failure : Failure) :
    Watches watch plan before (fail failure : Action σ α) (fail failure : Action τ α) :=
  fun earlier => ⟨[], by rw [List.append_nil]; rfl, .stopped plan nofun⟩

theorem watches_ofExcept (result : Except Failure α) :
    Watches watch [] before (ofExcept result : Action σ α) (ofExcept result : Action τ α) := by
  cases result with
  | ok value => exact watches_pure value
  | error failure => exact watches_fail failure

namespace Action.Watches

variable {plain : Action σ α} {watched : Action τ α} {next : α → Action σ β}
  {nextWatched : α → Action τ β}

theorem bind (front : Watches watch first before plain watched)
    (goesOn : ∀ value between, plain.Returns before value between →
      Watches watch rest between (next value) (nextWatched value)) :
    Watches watch (first ++ rest) before (plain >>= next) (watched >>= nextWatched) := by
  intro earlier
  obtain ⟨draws, ran, follows⟩ := front earlier
  rcases run : plain before with ⟨stop | value, between⟩
  -- a run that stops in its first part leaves the rest of the plan undone
  · rw [run] at ran follows
    have stopped : (plain >>= next).Stops before stop between := stops_bind.mpr (.inl run)
    have watchedStopped : (watched >>= nextWatched).Stops (watch before earlier) stop
        (watch between (earlier ++ draws)) := stops_bind.mpr (.inl ran)
    refine ⟨draws, ?_⟩
    rw [stopped, watchedStopped]
    exact ⟨rfl, follows.append_stopped⟩
  · rw [run] at ran follows
    obtain ⟨later, continued, followsLater⟩ := goesOn value between run (earlier ++ draws)
    refine ⟨draws ++ later, ?_⟩
    rw [Returns.bind_eq run, Returns.bind_eq ran, continued, List.append_assoc]
    exact ⟨rfl, follows.append followsLater⟩

/-- Nothing is asked for at first. -/
theorem bind_later (front : Watches watch [] before plain watched)
    (goesOn : ∀ value between, plain.Returns before value between →
      Watches watch plan between (next value) (nextWatched value)) :
    Watches watch plan before (plain >>= next) (watched >>= nextWatched) :=
  front.bind goesOn

/-- Nothing is asked for at last. -/
theorem bind_before (front : Watches watch plan before plain watched)
    (goesOn : ∀ value between, plain.Returns before value between →
      Watches watch [] between (next value) (nextWatched value)) :
    Watches watch plan before (plain >>= next) (watched >>= nextWatched) := by
  have whole := front.bind goesOn
  rwa [List.append_nil] at whole

private theorem attempt (watches : Watches watch [] before plain watched) :
    Watches watch [] before (Action.attempt plain) (Action.attempt watched) := by
  intro earlier
  obtain ⟨draws, ran, follows⟩ := watches earlier
  obtain ⟨rfl, other⟩ := Follows.nil_iff.mp follows
  refine ⟨[], ?_⟩
  rw [Follows.nil_iff]
  unfold Action.attempt
  rw [ran]
  rcases run : plain before with ⟨(failure | _ | _) | value, after⟩ <;> rw [run] at other
  · exact ⟨rfl, rfl, nofun⟩
  · exact absurd rfl other
  · exact ⟨rfl, rfl, nofun⟩
  · exact ⟨rfl, rfl, nofun⟩

theorem lift {session : Session σ} {plain : Action σ α} {watched : Action (Watched σ) α}
    (watches : Watches Watched.mk plan session.host plain watched) :
    Watches Session.watched plan session (Edit.lift plain) (Edit.lift watched) := by
  intro earlier
  obtain ⟨draws, ran, follows⟩ := watches earlier
  refine ⟨draws, ?_, follows⟩
  change ((watched ⟨session.host, earlier⟩).1,
    (⟨session.info, (watched ⟨session.host, earlier⟩).2⟩ : Session (Watched σ))) = _
  rw [ran]
  rfl

private theorem onFile {info : InfoFile} {host : σ} {plain : Edit σ α}
    {watched : Edit (Watched σ) α}
    (watches : Watches Session.watched plan ⟨info, host⟩ plain watched) :
    Watches Watched.mk plan host (Edit.onFile info plain) (Edit.onFile info watched) := by
  intro earlier
  obtain ⟨draws, ran, follows⟩ := watches earlier
  refine ⟨draws, ?_⟩
  change watched ⟨info, ⟨host, earlier⟩⟩ = _ at ran
  unfold Edit.onFile
  rw [ran]
  rcases run : plain ⟨info, host⟩ with ⟨stop | value, after⟩ <;> rw [run] at follows
  · exact ⟨rfl, follows.map fun value => (value, info)⟩
  · exact ⟨rfl, follows.map fun value => (value, after.info)⟩

end Action.Watches

theorem watches_info {session : Session σ} :
    Watches Session.watched [] session Edit.info Edit.info :=
  fun earlier => ⟨[], by rw [List.append_nil]; rfl, .finished session.info⟩

theorem watches_setInfo {session : Session σ} (info : InfoFile) :
    Watches Session.watched [] session (Edit.setInfo info) (Edit.setInfo info) :=
  fun earlier => ⟨[], by rw [List.append_nil]; rfl, .finished ()⟩

theorem watches_random (entropy : Entropy σ) (purpose : Purpose) (before : σ) :
    Watches Watched.mk [purpose] before (random entropy purpose.count purpose.refusal)
      (random entropy.watched purpose.count purpose.refusal) := by
  intro earlier
  refine ⟨[⟨purpose.count, (entropy.draw purpose.count before).1⟩], ?_⟩
  rcases drawn : entropy.draw purpose.count before with ⟨reason | bytes, after⟩
  · simp only [random, Entropy.watched, drawn]
    exact ⟨trivial, .refused purpose [] reason⟩
  · simp only [random, Entropy.watched, drawn]
    exact ⟨trivial, .served purpose bytes (.finished bytes)⟩

theorem watches_acquire {source : PassphraseSource σ} (steady : source.Steady) (before : σ) :
    Watches Watched.mk [] before source.acquire source.watched.acquire := by
  intro earlier
  refine ⟨[], ?_, Follows.nil_iff.mpr ⟨rfl, ?_⟩⟩
  · rw [List.append_nil]
    rfl
  · intro aborted
    exact steady before _ (Prod.ext aborted rfl)

end Watches

/-! ### The standard building blocks -/

variable (entropy : Entropy σ) (cost : DerivationCost) (identities : List Identity)

private theorem watches_generateMasterKey (before : σ) :
    Watches Watched.mk [.masterKey] before
      (Primitives.standard entropy cost identities).generateMasterKey
      (Primitives.standard entropy.watched cost identities).generateMasterKey :=
  (watches_random entropy .masterKey before).bind_before fun bytes _ _ =>
    watches_ofExcept (MasterKey.ofPayload bytes)

private theorem watches_generateSalt (before : σ) :
    Watches Watched.mk [.salt] before
      (Primitives.standard entropy cost identities).generateSalt
      (Primitives.standard entropy.watched cost identities).generateSalt :=
  watches_random entropy .salt before

private theorem watches_wrap (key : WrappingKey) (payload : Bytes) (before : σ) :
    Watches Watched.mk [.wrapNonce] before
      ((Primitives.standard entropy cost identities).wrap key payload)
      ((Primitives.standard entropy.watched cost identities).wrap key payload) := by
  simp only [Primitives.standard, Key.wrap, key.length_eq, if_true]
  exact (watches_random entropy .wrapNonce before).bind_before fun nonce _ _ =>
    watches_pure (Key.wrapWith key.bytes nonce payload)

/-- A secret that is served in full makes an identity. -/
theorem watches_generateIdentity {entropy : Entropy σ} (full : entropy.Full) (before : σ) :
    Watches Watched.mk [.freshSecret] before (Identity.generate entropy)
      (Identity.generate entropy.watched) := by
  refine (watches_random entropy .freshSecret before).bind_before fun secret between drawn => ?_
  have sized : secret.length = 32 := full 32 before secret between (returns_random.mp drawn)
  simp only [Identity.ofSecret?, dif_pos sized]
  exact watches_pure _

private theorem watches_asymmetricWrap {entropy : Entropy σ} (full : entropy.Full) (payload : Bytes)
    (recipientId : String) (before : σ) :
    Watches Watched.mk [.freshSecret, .boxNonce] before
      ((Primitives.standard entropy cost identities).asymmetricWrap payload recipientId)
      ((Primitives.standard entropy.watched cost identities).asymmetricWrap payload recipientId) := by
  refine (watches_ofExcept (Recipient.parse recipientId)).bind_later fun recipient _ _ => ?_
  refine (watches_generateIdentity full _).bind fun fresh between _ => ?_
  exact (watches_random entropy .boxNonce between).bind_before fun nonce _ _ => watches_pure _

/-! ### The operations -/

namespace Unlocking

private theorem watches_tryPassphrases (passphrase : Bytes) (entries : List (Nat × PassphraseEntry))
    (before : σ) :
    Watches Watched.mk [] before
      (tryPassphrases (.standard entropy cost identities) passphrase entries)
      (tryPassphrases (.standard entropy.watched cost identities) passphrase entries) := by
  induction entries generalizing before with
  | nil => exact watches_pure none
  | cons head rest ih =>
    obtain ⟨index, entry⟩ := head
    refine (watches_ofExcept _).bind_later fun derived between _ => ?_
    obtain ⟨key, hash⟩ := derived
    dsimp only
    split
    · refine (watches_ofExcept _).bind_later fun payload _ _ => ?_
      exact (watches_ofExcept _).bind_later fun masterKey _ _ => watches_pure _
    · exact ih between

theorem watches_legacyMasterKey (info : InfoFile) (passphrase : Bytes) (before : σ) :
    Watches Watched.mk [] before
      (legacyMasterKey info passphrase (.standard entropy cost identities))
      (legacyMasterKey info passphrase (.standard entropy.watched cost identities)) := by
  unfold legacyMasterKey
  split
  · exact watches_pure none
  · refine (watches_ofExcept _).bind_later fun derived _ _ => ?_
    obtain ⟨key, hash⟩ := derived
    dsimp only
    split <;> exact watches_pure _

private theorem watches_withPassphrase (info : InfoFile) (passphrase : String) (before : σ) :
    Watches Watched.mk [] before
      (withPassphrase info passphrase (.standard entropy cost identities))
      (withPassphrase info passphrase (.standard entropy.watched cost identities)) := by
  refine (watches_tryPassphrases entropy cost identities _ _ before).bind_later
    fun found between _ => ?_
  cases found with
  | some unlocked => exact watches_pure unlocked
  | none =>
    refine (watches_legacyMasterKey entropy cost identities _ _ between).bind_later
      fun legacy _ _ => ?_
    cases legacy with
    | some masterKey => exact watches_pure _
    | none => exact watches_fail noMatch

end Unlocking

namespace Repository

private theorem watches_addRecipient {entropy : Entropy σ} (full : entropy.Full)
    (masterKey : MasterKey) (recipientId : String) (session : Session σ) :
    Watches Session.watched [.freshSecret, .boxNonce] session
      (addRecipient masterKey recipientId (.standard entropy cost identities))
      (addRecipient masterKey recipientId (.standard entropy.watched cost identities)) := by
  refine watches_info.bind_later fun info between _ => ?_
  split
  · exact watches_fail _
  · refine (watches_asymmetricWrap cost identities full _ _ between.host).lift.bind_before
      fun wrappedKey _ _ => ?_
    refine watches_info.bind_later fun info _ _ => ?_
    exact (watches_ofExcept _).bind_later fun edited _ _ => watches_setInfo edited

theorem watches_appendPassphrase (masterKey : MasterKey) (passphrase : Bytes)
    (session : Session σ) :
    Watches Session.watched [.salt, .wrapNonce] session
      (appendPassphrase masterKey passphrase (.standard entropy cost identities))
      (appendPassphrase masterKey passphrase (.standard entropy.watched cost identities)) := by
  rw [appendPassphrase_eq, appendPassphrase_eq]
  refine (watches_generateSalt entropy cost identities session.host).lift.bind
    fun salt between _ => ?_
  have configured : Watches Session.watched [] between
      (Edit.cost (.standard entropy cost identities))
      (Edit.cost (.standard entropy.watched cost identities)) :=
    watches_info.bind_later fun _ _ _ => watches_pure cost
  refine configured.bind_later fun cost between _ => ?_
  refine Watches.bind_later (Watches.lift (watches_ofExcept _)) fun derived between _ => ?_
  refine (watches_wrap entropy _ identities _ _ between.host).lift.bind_before
    fun wrappedKey _ _ => ?_
  refine watches_info.bind_later fun info _ _ => ?_
  exact (watches_ofExcept _).bind_later fun edited _ _ => watches_setInfo edited

private theorem watches_addPassphrase (masterKey : MasterKey) (passphrase : String)
    (session : Session σ) :
    Watches Session.watched [.salt, .wrapNonce] session
      (addPassphrase masterKey passphrase (.standard entropy cost identities))
      (addPassphrase masterKey passphrase (.standard entropy.watched cost identities)) := by
  refine watches_info.bind_later fun info between _ => ?_
  refine (Unlocking.watches_withPassphrase entropy cost identities info passphrase
    between.host).lift.attempt.bind_later fun attempted between _ => ?_
  split
  · exact watches_fail _
  · exact watches_appendPassphrase entropy cost identities masterKey _ between
  · exact watches_fail _

def plan : FactorSpec → List Purpose
  | .recipient _ => [.freshSecret, .boxNonce]
  | .passphrase => [.salt, .wrapNonce]

theorem watches_addFactor {entropy : Entropy σ} (full : entropy.Full)
    {source : PassphraseSource σ} (steady : source.Steady) (masterKey : MasterKey)
    (factor : FactorSpec) (session : Session σ) :
    Watches Session.watched (plan factor) session
      (addFactor masterKey factor (.standard entropy cost identities) source)
      (addFactor masterKey factor (.standard entropy.watched cost identities) source.watched) := by
  cases factor with
  | recipient id => exact watches_addRecipient cost identities full masterKey id session
  | passphrase =>
    exact (watches_acquire steady session.host).lift.bind_later fun passphrase between _ =>
      watches_addPassphrase entropy cost identities masterKey passphrase between

private theorem watches_create {entropy : Entropy σ} (full : entropy.Full)
    {source : PassphraseSource σ} (steady : source.Steady) (first : FactorSpec) (host : σ) :
    Watches Watched.mk (.masterKey :: plan first) host
      (create first (.standard entropy cost identities) source)
      (create first (.standard entropy.watched cost identities) source.watched) := by
  refine (watches_generateMasterKey entropy cost identities host).bind fun masterKey between _ => ?_
  exact (watches_addFactor cost identities full steady masterKey first
    ⟨InfoFile.empty, between⟩).onFile.bind_before fun added _ _ => watches_pure _

/-- What random bytes it takes to move a file forward: those of a passphrase entry when there is
a legacy passphrase in a file of the oldest version. -/
def upgradePlan (info : InfoFile) : List Purpose :=
  if info.version = 1 ∧ info.hasLegacyPassphrase = true then plan .passphrase else []

private theorem watches_rotateLegacy {source : PassphraseSource σ} (steady : source.Steady)
    (session : Session σ) :
    Watches Session.watched
      (if session.info.hasLegacyPassphrase = true then plan .passphrase else []) session
      (rotateLegacy (.standard entropy cost identities) source)
      (rotateLegacy (.standard entropy.watched cost identities) source.watched) := by
  refine watches_info.bind_later fun info between read => ?_
  obtain ⟨rfl, rfl⟩ := Edit.returns_info.mp read
  split
  · refine (watches_acquire steady session.host).lift.bind_later fun acquired between _ => ?_
    refine watches_info.bind_later fun info between _ => ?_
    refine (Unlocking.watches_legacyMasterKey entropy cost identities info _
      between.host).lift.bind_later fun found between _ => ?_
    cases found with
    | none => exact watches_fail migrationRefused
    | some masterKey =>
      refine (watches_appendPassphrase entropy cost identities masterKey _ between).bind_before
        fun _ _ _ => ?_
      refine watches_info.bind_later fun info _ _ => ?_
      exact (watches_setInfo info.clearLegacy).bind_later fun _ _ _ => watches_pure true
  · exact watches_pure false

private theorem watches_upgrade {source : PassphraseSource σ} (steady : source.Steady)
    (session : Session σ) :
    Watches Session.watched (upgradePlan session.info) session
      (upgrade (.standard entropy cost identities) source)
      (upgrade (.standard entropy.watched cost identities) source.watched) := by
  have renumbered (report : UpgradeReport) (between : Session σ) :
      Watches Session.watched [] between
        (do
          Edit.setInfo { ← Edit.info with version := InfoFile.currentVersion }
          return report)
        (do
          Edit.setInfo { ← Edit.info with version := InfoFile.currentVersion }
          return report) :=
    watches_info.bind_later fun info _ _ =>
      (watches_setInfo _).bind_later fun _ _ _ => watches_pure report
  refine watches_info.bind_later fun info between read => ?_
  obtain ⟨rfl, rfl⟩ := Edit.returns_info.mp read
  unfold upgradePlan
  dsimp only
  by_cases current : session.info.version = InfoFile.currentVersion
  · have young : ¬ (session.info.version = 1 ∧ session.info.hasLegacyPassphrase = true) :=
      fun both => absurd (current.symm.trans both.1) (by decide)
    rw [if_pos current, if_pos current, if_neg young]
    exact watches_pure _
  rw [if_neg current, if_neg current]
  by_cases oldest : session.info.version = 1
  · simp only [oldest, true_and, if_true]
    exact (watches_rotateLegacy entropy cost identities steady session).bind_before
      fun rotated between _ => renumbered _ between
  rw [if_neg oldest, if_neg oldest, if_neg (fun both => oldest both.1)]
  split
  · exact renumbered _ session
  · exact watches_fail _

end Repository

/-- The operations that ask for random bytes. -/
inductive KeyOperation
  | create (first : FactorSpec)
  | addFactor (masterKey : MasterKey) (factor : FactorSpec)
  | upgrade

namespace KeyOperation

def perform (primitives : Primitives σ) (source : PassphraseSource σ) :
    KeyOperation → Edit σ Unit
  | .create first => do
    let (_, info) ← Edit.lift (Repository.create first primitives source)
    Edit.setInfo info
  | .addFactor masterKey factor => Repository.addFactor masterKey factor primitives source
  | .upgrade => do
    let _ ← Repository.upgrade primitives source
    return ()

/-- What the operation asks random bytes for, in order. -/
def plan (info : InfoFile) : KeyOperation → List Purpose
  | .create first => .masterKey :: Repository.plan first
  | .addFactor _ factor => Repository.plan factor
  | .upgrade => Repository.upgradePlan info

/-- The requests that the operation makes with the standard building blocks. -/
def requests (operation : KeyOperation) (entropy : Entropy σ) (cost : DerivationCost)
    (identities : List Identity) (source : PassphraseSource σ) (session : Session σ) : List Draw :=
  (operation.perform (.standard entropy.watched cost identities) source.watched
    (session.watched [])).2.host.draws

private theorem watches_perform {entropy : Entropy σ} (full : entropy.Full)
    {source : PassphraseSource σ}
    (steady : source.Steady) (operation : KeyOperation) (session : Session σ) :
    Watches Session.watched (operation.plan session.info) session
      (operation.perform (.standard entropy cost identities) source)
      (operation.perform (.standard entropy.watched cost identities) source.watched) := by
  cases operation with
  | create first =>
    exact (Repository.watches_create cost identities full steady first
      session.host).lift.bind_before fun made _ _ => watches_setInfo made.2
  | addFactor masterKey factor =>
    exact Repository.watches_addFactor cost identities full steady masterKey factor session
  | upgrade =>
    exact (Repository.watches_upgrade entropy cost identities steady session).bind_before
      fun _ _ _ => watches_pure ()

private theorem follows_perform {entropy : Entropy σ} (full : entropy.Full)
    {source : PassphraseSource σ}
    (steady : source.Steady) (operation : KeyOperation) (session : Session σ) :
    Follows (operation.plan session.info)
      (operation.requests entropy cost identities source session)
      (operation.perform (.standard entropy cost identities) source session).1 := by
  obtain ⟨draws, ran, follows⟩ := watches_perform cost identities full steady operation session []
  unfold requests
  rw [ran]
  exact follows

private theorem atomic_perform (primitives : Primitives σ) (source : PassphraseSource σ)
    (operation : KeyOperation) : (operation.perform primitives source).Atomic := by
  cases operation with
  | create first =>
    exact (Edit.quiet_lift _).bind_atomic fun made => (Edit.total_setInfo made.2).atomic
  | addFactor masterKey factor =>
    exact Repository.atomic_addFactor primitives source masterKey factor
  | upgrade =>
    exact (Repository.atomic_upgrade primitives source).bind_total fun _ => Edit.total_pure ()

/-- The requests keep to the plan.  A refused request is the last one, leaves the info file alone,
and ends the operation in the way of its purpose; nothing else breaks the process off. -/
theorem ends_at_refusal {entropy : Entropy σ} (full : entropy.Full) (cost : DerivationCost)
    (identities : List Identity) {source : PassphraseSource σ} (steady : source.Steady)
    (operation : KeyOperation) (session : Session σ) :
    let requests := operation.requests entropy cost identities source session
    let plan := operation.plan session.info
    let (outcome, after) :=
      operation.perform (.standard entropy cost identities) source session
    requests.map Draw.count <+: plan.map Purpose.count ∧
      (outcome = .ok () → requests.length = plan.length) ∧
      (∀ (position count : Nat) (reason : String),
        requests[position]? = some ⟨count, .error reason⟩ →
          position + 1 = requests.length ∧ after.info = session.info ∧
            ∃ purpose, plan[position]? = some purpose ∧
              outcome = .error (purpose.refusal reason)) ∧
      (outcome = .error .aborted →
        ∃ (position : Nat) (purpose : Purpose) (reason : String),
          plan[position]? = some purpose ∧ purpose.context? = none ∧
            requests[position]? = some ⟨purpose.count, .error reason⟩) := by
  have follows := follows_perform cost identities full steady operation session
  have atomic := atomic_perform (.standard entropy cost identities) source operation session
  dsimp only
  generalize operation.requests entropy cost identities source session = requests at follows ⊢
  rcases run : operation.perform (.standard entropy cost identities) source session with
    ⟨outcome, after⟩
  rw [run] at follows
  refine ⟨follows.counts, ?_, ?_, ?_⟩
  · rintro rfl
    exact follows.length_eq
  · intro position count reason refused
    obtain ⟨last, purpose, planned, ends⟩ := follows.of_refused refused
    subst ends
    exact ⟨last, atomic _ after run, purpose, planned, rfl⟩
  · rintro rfl
    exact follows.of_aborted

/-- The refusal of a salt is reported, and the file without factors stays. -/
theorem salt_refusal_reported :
    let session : Session RandomStream := ⟨InfoFile.empty, .ofSeed 0 1⟩
    let operation : KeyOperation := .addFactor ⟨Bytes.zeros 32, rfl⟩ .passphrase
    let (outcome, after) := operation.perform
      (.standard RandomStream.entropy ⟨8192, 1, 1⟩ []) (.stored (some "horse")) session
    outcome = .error (.failed
        (.primitive "Error generating a new salt" "OS RNG: simulated RNG failure")) ∧
      after.info = InfoFile.empty := by
  have full : RandomStream.entropy.Full := fun count before bytes after drawn =>
    RandomStream.length_of_draw (congrArg Prod.fst drawn)
  have steady : (PassphraseSource.stored (some "horse") : PassphraseSource RandomStream).Steady := by
    intro before after stopped
    cases stopped
  obtain ⟨-, -, refused, -⟩ := ends_at_refusal full ⟨8192, 1, 1⟩ [] steady
    (.addFactor ⟨Bytes.zeros 32, rfl⟩ .passphrase) ⟨InfoFile.empty, .ofSeed 0 1⟩
  obtain ⟨-, unchanged, purpose, planned, ends⟩ :=
    refused 0 32 "simulated RNG failure" (by decide +kernel)
  cases planned
  exact ⟨ends, unchanged⟩

/-- The refusal of the fresh secret is not reported: the process breaks off. -/
theorem fresh_secret_breaks_off :
    let session : Session RandomStream := ⟨InfoFile.empty, .ofSeed 0 2⟩
    let operation : KeyOperation := .create (.recipient Repository.lettered.recipientId)
    (operation.requests RandomStream.entropy ⟨8192, 1, 1⟩ [] (.stored none) session)[1]? =
        some ⟨32, .error "simulated RNG failure"⟩ ∧
      (operation.perform (.standard RandomStream.entropy ⟨8192, 1, 1⟩ []) (.stored none)
        session).1 = .error .aborted := by
  decide +kernel

end KeyOperation

end Keywarden
