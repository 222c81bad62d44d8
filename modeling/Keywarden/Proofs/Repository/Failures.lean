import Keywarden.Proofs.Repository
import Keywarden.Proofs.Transparent

/-!
# Which failures are reported

What an operation reports is a failure of the building blocks, or one of the few failures of its
own: that nothing unlocks, that a payload is no master key, that a new entry is incomplete.
-/

namespace Keywarden

variable {σ α β : Type} {Allowed Wider : Failure → Prop}

namespace Action

def FailsOnly (Allowed : Failure → Prop) (action : Action σ α) : Prop :=
  ∀ before failure after, action.Stops before (.failed failure) after → Allowed failure

theorem Unfailing.failsOnly {action : Action σ α} (unfailing : action.Unfailing) :
    action.FailsOnly Allowed :=
  fun before _ after stopped => (unfailing before _ after stopped).elim

theorem failsOnly_fail {failure : Failure} (allowed : Allowed failure) :
    (fail failure : Action σ α).FailsOnly Allowed := by
  intro before found after stopped
  cases stopped
  exact allowed

theorem failsOnly_ofExcept {result : Except Failure α}
    (allowed : ∀ failure, result = .error failure → Allowed failure) :
    (ofExcept result : Action σ α).FailsOnly Allowed := by
  intro before found after stopped
  obtain ⟨failure, refused, same, -⟩ := stops_ofExcept.mp stopped
  cases same
  exact allowed found refused

namespace FailsOnly

variable {action : Action σ α}

private theorem weaken (fails : action.FailsOnly Allowed)
    (wider : ∀ failure, Allowed failure → Wider failure) : action.FailsOnly Wider :=
  fun before failure after stopped => wider failure (fails before failure after stopped)

theorem bind {next : α → Action σ β} (first : action.FailsOnly Allowed)
    (rest : ∀ value, (next value).FailsOnly Allowed) : (action >>= next).FailsOnly Allowed := by
  intro before failure after stopped
  rcases stops_bind.mp stopped with stopped | ⟨value, between, -, stopped⟩
  · exact first before failure after stopped
  · exact rest value between failure after stopped

theorem lift (fails : action.FailsOnly Allowed) : (Edit.lift action).FailsOnly Allowed := by
  intro before failure after stopped
  obtain ⟨host, stopped, -⟩ := Edit.stops_lift.mp stopped
  exact fails before.host failure host stopped

end FailsOnly

end Action

open Keywarden.Action

/-- Every failure of the building blocks is allowed. -/
structure Primitives.FailsOnly (Allowed : Failure → Prop) (primitives : Primitives σ) : Prop where
  generateMasterKey : primitives.generateMasterKey.FailsOnly Allowed
  generateSalt : primitives.generateSalt.FailsOnly Allowed
  deriveKey : ∀ passphrase salt cost, (primitives.deriveKey passphrase salt cost).FailsOnly Allowed
  wrap : ∀ key payload, (primitives.wrap key payload).FailsOnly Allowed
  unwrap : ∀ key blob, (primitives.unwrap key blob).FailsOnly Allowed
  asymmetricWrap : ∀ payload id, (primitives.asymmetricWrap payload id).FailsOnly Allowed
  asymmetricUnwrap : ∀ blob, (primitives.asymmetricUnwrap blob).FailsOnly Allowed

variable {primitives : Primitives σ}

theorem Primitives.FailsOnly.weaken (fails : primitives.FailsOnly Allowed)
    (wider : ∀ failure, Allowed failure → Wider failure) : primitives.FailsOnly Wider where
  generateMasterKey := fails.generateMasterKey.weaken wider
  generateSalt := fails.generateSalt.weaken wider
  deriveKey passphrase salt cost := (fails.deriveKey passphrase salt cost).weaken wider
  wrap key payload := (fails.wrap key payload).weaken wider
  unwrap key blob := (fails.unwrap key blob).weaken wider
  asymmetricWrap payload id := (fails.asymmetricWrap payload id).weaken wider
  asymmetricUnwrap blob := (fails.asymmetricUnwrap blob).weaken wider

namespace Unlocking

theorem failsOnly_tryPassphrases (fails : primitives.FailsOnly Allowed)
    (malformed : ∀ context detail, Allowed (.primitive context detail)) (passphrase : Bytes)
    (entries : List (Nat × PassphraseEntry)) :
    (tryPassphrases primitives passphrase entries).FailsOnly Allowed := by
  induction entries with
  | nil => exact (unfailing_pure none).failsOnly
  | cons head rest ih =>
    obtain ⟨index, entry⟩ := head
    refine (fails.deriveKey passphrase entry.salt entry.cost).bind fun derived => ?_
    obtain ⟨key, hash⟩ := derived
    dsimp only
    split
    · refine (fails.unwrap key entry.wrappedKey).bind fun payload => ?_
      refine FailsOnly.bind (failsOnly_ofExcept fun failure refused => ?_) fun masterKey =>
        (unfailing_pure _).failsOnly
      rcases MasterKey.ofPayload_cases payload with ⟨masterKey, -, read⟩ | ⟨-, read⟩
      · cases refused.symm.trans read
      · cases refused.symm.trans read
        exact malformed _ _
    · exact ih

private theorem failsOnly_legacyMasterKey (fails : primitives.FailsOnly Allowed) (info : InfoFile)
    (passphrase : Bytes) : (legacyMasterKey info passphrase primitives).FailsOnly Allowed := by
  unfold legacyMasterKey
  split
  · exact (unfailing_pure none).failsOnly
  · refine (fails.deriveKey passphrase _ _).bind fun derived => ?_
    dsimp only
    split
    · exact (unfailing_pure _).failsOnly
    · exact (unfailing_pure none).failsOnly

theorem failsOnly_withPassphrase (fails : primitives.FailsOnly Allowed)
    (malformed : ∀ context detail, Allowed (.primitive context detail)) (missed : Allowed noMatch)
    (info : InfoFile) (passphrase : String) :
    (withPassphrase info passphrase primitives).FailsOnly Allowed := by
  refine (failsOnly_tryPassphrases fails malformed _ _).bind fun found => ?_
  cases found with
  | some unlocked => exact (unfailing_pure unlocked).failsOnly
  | none =>
    refine (failsOnly_legacyMasterKey fails info _).bind fun legacy => ?_
    cases legacy with
    | some masterKey => exact (unfailing_pure _).failsOnly
    | none => exact failsOnly_fail missed

end Unlocking

namespace Repository

open Edit

theorem failsOnly_appendPassphrase (fails : primitives.FailsOnly Allowed)
    (incomplete : ∀ reason, Allowed (.invalidInfoFile reason)) (masterKey : MasterKey)
    (passphrase : Bytes) :
    (appendPassphrase masterKey passphrase primitives).FailsOnly Allowed := by
  refine fails.generateSalt.lift.bind fun salt => ?_
  refine FailsOnly.bind (fun _ _ _ => nofun) fun session => ?_
  refine (fails.deriveKey passphrase salt _).lift.bind fun derived => ?_
  refine (fails.wrap _ _).lift.bind fun wrappedKey => ?_
  refine FailsOnly.bind (Unfailing.failsOnly total_info) fun info => ?_
  refine FailsOnly.bind (failsOnly_ofExcept fun failure refused => ?_) fun edited =>
    Unfailing.failsOnly (total_setInfo edited)
  unfold InfoFile.addPassphrase at refused
  split at refused
  · cases refused
    exact incomplete _
  · cases refused

end Repository

/-- The transparent building blocks fail only when a blob is not made for a key. -/
theorem Transparent.failsOnly (setting : Setting) :
    (blocks setting).FailsOnly fun failure => failure.kind = .primitiveFailure where
  generateMasterKey := (unfailing_pure _).failsOnly
  generateSalt _ _ _ := nofun
  deriveKey _ _ _ := (unfailing_pure _).failsOnly
  wrap _ _ := (unfailing_pure _).failsOnly
  unwrap key blob := by
    simp only [blocks]
    cases unwrap? key blob with
    | some payload => exact (unfailing_pure payload).failsOnly
    | none => exact failsOnly_fail rfl
  asymmetricWrap _ _ := (unfailing_pure _).failsOnly
  asymmetricUnwrap blob := by
    simp only [blocks]
    cases open? setting.identities blob with
    | some opened => exact (unfailing_pure opened).failsOnly
    | none => exact failsOnly_fail rfl

end Keywarden
