import Keywarden.Proofs.Repository.Migration
import Keywarden.Proofs.Unlocking.Policy

/-!
# A recipient that is added

When blobs are opened by a function of their bytes, unlocking silently is the search of a list for
the first entry that opens to a master key.  A new entry stands behind the old ones, so that it is
found exactly when none of those opens, and the passphrases do not see it at all.
-/

namespace Keywarden

open Keywarden.Action

variable {σ : Type} {primitives : Primitives σ} {source : PassphraseSource σ} {info : InfoFile}
  {answer : Bytes → Except Failure Opened}

def Primitives.OpensBy (answer : Bytes → Except Failure Opened) (primitives : Primitives σ) :
    Prop :=
  ∀ blob, (primitives.asymmetricUnwrap blob).Answers ((answer blob).mapError .failed)

theorem Primitives.OpensBy.observed (opens : primitives.OpensBy answer) :
    primitives.observed.OpensBy answer :=
  fun blob state => opens blob state.host

def AsymmetricEntry.unlocks? (answer : Bytes → Except Failure Opened) (entry : AsymmetricEntry) :
    Option Unlocked :=
  match answer entry.wrappedKey with
  | .error _ => none
  | .ok opened =>
    match MasterKey.ofPayload opened.payload with
    | .ok masterKey => some ⟨masterKey, .recipient entry.recipientId⟩
    | .error _ => none

/-- An entry unlocks something exactly when its blob opens to 32 bytes. -/
theorem AsymmetricEntry.unlocks?_isSome {entry : AsymmetricEntry} :
    (entry.unlocks? answer).isSome = true ↔
      ∃ opened, answer entry.wrappedKey = .ok opened ∧ opened.payload.length = 32 := by
  unfold unlocks?
  cases answer entry.wrappedKey with
  | error failure => simp
  | ok opened =>
    rcases MasterKey.ofPayload_cases opened.payload with ⟨masterKey, payload, read⟩ | ⟨length, read⟩
    · simp [payload, masterKey.length_eq, masterKey.ofPayload_bytes]
    · simp [read, length]

theorem AsymmetricEntry.unlocks?_of_payload {entry : AsymmetricEntry} {opened : Opened}
    {masterKey : MasterKey} (answered : answer entry.wrappedKey = .ok opened)
    (payload : opened.payload = masterKey.bytes) :
    entry.unlocks? answer = some ⟨masterKey, .recipient entry.recipientId⟩ := by
  simp [unlocks?, answered, payload, masterKey.ofPayload_bytes]

namespace InfoFile

private theorem asymmetrics_append_asymmetric (info : InfoFile) (entry : AsymmetricEntry) :
    (info.append (.asymmetric entry)).asymmetrics = info.asymmetrics ++ [entry] := by
  simp [asymmetrics, append, KeyEntry.asymmetric?]

private theorem passphrases_append_asymmetric (info : InfoFile) (entry : AsymmetricEntry) :
    (info.append (.asymmetric entry)).passphrases = info.passphrases := by
  change passphrasesFrom 0 (info.keys ++ [.asymmetric entry]) = _
  rw [passphrasesFrom_append]
  exact List.append_nil _

end InfoFile

/-- Some entry unlocks something. -/
theorem InfoFile.findSome?_unlocks?_isSome :
    (info.asymmetrics.findSome? (AsymmetricEntry.unlocks? answer)).isSome = true ↔
      ∃ entry opened, .asymmetric entry ∈ info.keys ∧
        answer entry.wrappedKey = .ok opened ∧ opened.payload.length = 32 := by
  simp only [List.findSome?_isSome_iff, AsymmetricEntry.unlocks?_isSome, mem_asymmetrics,
    exists_and_left]

namespace Unlocking

private theorem answers_tryAsymmetric (opens : primitives.OpensBy answer)
    (entries : List AsymmetricEntry) :
    (tryAsymmetric primitives entries).Answers
      (.ok (entries.findSome? (AsymmetricEntry.unlocks? answer))) := by
  induction entries with
  | nil => exact answers_pure none
  | cons entry rest ih =>
    have opening := opens entry.wrappedKey
    rw [List.findSome?_cons, AsymmetricEntry.unlocks?]
    cases answered : answer entry.wrappedKey with
    | error failure =>
      rw [answered] at opening
      exact opening.attempt_failed.bind_ok ih
    | ok opened =>
      rw [answered] at opening
      refine opening.attempt_ok.bind_ok ?_
      cases read : MasterKey.ofPayload opened.payload with
      | error failure =>
        simp only [read]
        exact ih
      | ok masterKey =>
        simp only [read]
        exact answers_pure _

/-- When an asymmetric entry opens, the search for it is all that unlocking does. -/
theorem unlock_of_answers {unlocked : Unlocked}
    (found : (tryAsymmetric primitives info.asymmetrics).Answers (.ok (some unlocked)))
    (source : PassphraseSource σ) (host : σ) :
    unlock info primitives source host =
      (.ok unlocked, (tryAsymmetric primitives info.asymmetrics host).2) := by
  have searched : (tryAsymmetric primitives info.asymmetrics).Returns host (some unlocked)
      (tryAsymmetric primitives info.asymmetrics host).2 := Prod.ext (found host) rfl
  exact searched.bind_eq _

/-- What is unlocked without a passphrase. -/
theorem unlock_silently (opens : primitives.OpensBy answer) {unlocked : Unlocked}
    (found : info.asymmetrics.findSome? (AsymmetricEntry.unlocks? answer) = some unlocked)
    (source : PassphraseSource σ) :
    (unlock info primitives source).Answers (.ok unlocked) ∧
      ∀ host, ∀ exchange ∈
        (unlock info primitives.observed source.observed ⟨host, []⟩).2.exchanges,
        exchange.asks = false := by
  have search := answers_tryAsymmetric opens info.asymmetrics
  have searchObserved := answers_tryAsymmetric opens.observed info.asymmetrics
  rw [found] at search searchObserved
  constructor
  · intro host
    rw [unlock_of_answers search]
  · intro host
    obtain ⟨made, run, silent⟩ := observes_tryAsymmetric primitives info.keys host []
    rw [unlock_of_answers searchObserved, InfoFile.asymmetrics, run]
    exact silent.asks_eq_false

/-- A last entry that opens is what unlocks a file of which no other entry opens. -/
theorem unlock_append_asymmetric (opens : primitives.OpensBy answer) {entry : AsymmetricEntry}
    {added : Unlocked} (last : entry.unlocks? answer = some added) :
    ∃ unlocked,
      (∀ asked, (unlock (info.append (.asymmetric entry)) primitives asked).Answers
        (.ok unlocked)) ∧
      (∀ asked host, ∀ exchange ∈ (unlock (info.append (.asymmetric entry)) primitives.observed
        (PassphraseSource.observed asked) ⟨host, []⟩).2.exchanges, exchange.asks = false) ∧
      ((∃ entry opened, .asymmetric entry ∈ info.keys ∧
          answer entry.wrappedKey = .ok opened ∧ opened.payload.length = 32) →
        ∀ asked, (unlock info primitives asked).Answers (.ok unlocked)) ∧
      ((¬ ∃ entry opened, .asymmetric entry ∈ info.keys ∧
          answer entry.wrappedKey = .ok opened ∧ opened.payload.length = 32) →
        unlocked = added) := by
  rw [← InfoFile.findSome?_unlocks?_isSome]
  have search : (info.append (.asymmetric entry)).asymmetrics.findSome?
        (AsymmetricEntry.unlocks? answer) =
      (info.asymmetrics.findSome? (AsymmetricEntry.unlocks? answer)).or (some added) := by
    rw [InfoFile.asymmetrics_append_asymmetric, List.findSome?_append,
      List.findSome?_singleton, last]
  cases found : info.asymmetrics.findSome? (AsymmetricEntry.unlocks? answer) with
  | some unlocked =>
    rw [found] at search
    refine ⟨unlocked, fun asked => (unlock_silently opens search asked).1,
      fun asked => (unlock_silently opens search asked).2,
      fun _ asked => (unlock_silently opens found asked).1, ?_⟩
    intro absent
    exact absurd rfl absent
  | none =>
    rw [found] at search
    refine ⟨added, fun asked => (unlock_silently opens search asked).1,
      fun asked => (unlock_silently opens search asked).2, ?_, fun _ => rfl⟩
    intro present
    cases present

private theorem withPassphrase_append_asymmetric (info : InfoFile) (entry : AsymmetricEntry)
    (passphrase : String) (primitives : Primitives σ) :
    withPassphrase (info.append (.asymmetric entry)) passphrase primitives =
      withPassphrase info passphrase primitives := by
  unfold withPassphrase
  rw [InfoFile.passphrases_append_asymmetric]
  rfl

end Unlocking

namespace Repository

open Edit Unlocking

/-- A recipient is taken for a duplicate when an entry has its identifier in any letter case; only
a sealing that itself reports a duplicate looks the same. -/
theorem addFactor_recipient_duplicate_iff {masterKey : MasterKey} {id : String}
    {before : Session σ} :
    (∃ text after, (addFactor masterKey (.recipient id) primitives source).Stops before
      (.failed (.duplicateFactor text)) after) ↔
    before.info.hasRecipient id = true ∨
      ∃ text host, (primitives.asymmetricWrap masterKey.bytes id).Stops before.host
        (.failed (.duplicateFactor text)) host := by
  by_cases known : before.info.hasRecipient id = true
  · exact iff_of_true ⟨_, _, stops_addFactor_known known⟩ (.inl known)
  rw [or_iff_right known]
  constructor
  · rintro ⟨text, after, stopped⟩
    rcases stops_bind.mp stopped with reading | ⟨_, _, read, stopped⟩
    · cases reading
    obtain ⟨rfl, rfl⟩ := returns_info.mp read
    rw [if_neg known] at stopped
    rcases stops_bind.mp stopped with sealing | ⟨blob, between, lifted, stopped⟩
    · obtain ⟨host, stopped, -⟩ := stops_lift.mp sealing
      exact ⟨text, host, stopped⟩
    obtain ⟨host, -, rfl⟩ := returns_lift.mp lifted
    change (ofExcept (before.info.addAsymmetric ⟨id, blob⟩) >>= setInfo).Stops _ _ _ at stopped
    rcases stops_bind.mp stopped with refused | ⟨edited, _, -, stopped⟩
    · obtain ⟨failure, refused, same, -⟩ := stops_ofExcept.mp refused
      cases same
      unfold InfoFile.addAsymmetric at refused
      rw [if_neg known] at refused
      split at refused <;> cases refused
    · cases stopped
  · rintro ⟨text, host, stopped⟩
    refine ⟨text, { before with host }, ?_⟩
    refine stops_bind.mpr (.inr ⟨before.info, before, returns_info.mpr ⟨rfl, rfl⟩, ?_⟩)
    rw [if_neg known]
    exact stops_bind.mpr (.inl (stops_lift.mpr ⟨host, stopped, rfl⟩))

end Repository

open Repository Unlocking

/-- Adding a recipient asks for no passphrase.  It reports a duplicate exactly when an entry has
the identifier in any letter case, or when the sealing itself reports one.  Once the recipient was
added, the file unlocks without a passphrase, as it did before if it did, and through the new entry
otherwise; and every passphrase does what it did before. -/
theorem new_recipient_unlocks {adding reading : Primitives σ} (opens : reading.OpensBy answer)
    {masterKey : MasterKey} {id : String}
    (unseals : ∀ blob, (adding.asymmetricWrap masterKey.bytes id).Yields blob →
      ∃ opened, answer blob = .ok opened ∧ opened.payload = masterKey.bytes)
    (source : PassphraseSource σ) (before : Session σ) :
    (∀ exchange ∈ (addFactor masterKey (.recipient id) adding.observed source.observed
      before.observed).2.exchanges, exchange.asks = false) ∧
    ((∃ text after, (addFactor masterKey (.recipient id) adding source).Stops before
        (.failed (.duplicateFactor text)) after) ↔
      (∃ entry, .asymmetric entry ∈ before.info.keys ∧
        Text.equalFold entry.recipientId id = true) ∨
      ∃ text host, (adding.asymmetricWrap masterKey.bytes id).Stops before.host
        (.failed (.duplicateFactor text)) host) ∧
    ∀ after, (addFactor masterKey (.recipient id) adding source).Returns before () after →
      (∃ unlocked,
        (∀ asked, (unlock after.info reading asked).Answers (.ok unlocked)) ∧
        (∀ asked host, ∀ exchange ∈ (unlock after.info reading.observed
          (PassphraseSource.observed asked) ⟨host, []⟩).2.exchanges, exchange.asks = false) ∧
        ((∃ entry opened, .asymmetric entry ∈ before.info.keys ∧
            answer entry.wrappedKey = .ok opened ∧ opened.payload.length = 32) →
          ∀ asked, (unlock before.info reading asked).Answers (.ok unlocked)) ∧
        ((¬ ∃ entry opened, .asymmetric entry ∈ before.info.keys ∧
            answer entry.wrappedKey = .ok opened ∧ opened.payload.length = 32) →
          unlocked = ⟨masterKey, .recipient id⟩)) ∧
      ∀ passphrase (primitives : Primitives σ),
        withPassphrase after.info passphrase primitives =
          withPassphrase before.info passphrase primitives := by
  refine ⟨?_, ?_, ?_⟩
  · have adds := holds_addRecipient (Primitives.working_observed adding fun _ asks => asks)
      masterKey id
    exact Adds.of_empty adds rfl
  · rw [← InfoFile.hasRecipient_iff]
    exact addFactor_recipient_duplicate_iff
  · intro after returned
    obtain ⟨entry, added, edited⟩ := of_returns_addFactor returned
    cases added with
    | @recipient _ blob _ _ made =>
      obtain ⟨opened, answered, payload⟩ := unseals blob made
      have last : AsymmetricEntry.unlocks? answer ⟨id, blob⟩ =
          some ⟨masterKey, .recipient id⟩ :=
        AsymmetricEntry.unlocks?_of_payload answered payload
      rw [edited]
      exact ⟨unlock_append_asymmetric opens last,
        fun passphrase primitives => withPassphrase_append_asymmetric _ _ _ _⟩

namespace Transparent

def opening (identities : List String) (blob : Bytes) : Except Failure Opened :=
  match open? identities blob with
  | some opened => .ok opened
  | none => .error refusal

private theorem opensBy (setting : Setting) :
    (blocks setting).OpensBy (opening setting.identities) := by
  intro blob
  simp only [blocks, opening]
  cases open? setting.identities blob with
  | some opened => exact answers_pure opened
  | none => exact answers_fail refusal

private theorem opening_close (payload : Bytes) (id : String) (others : List String) :
    opening (id :: others) (close payload id) = .ok ⟨payload, id⟩ := by
  simp [opening, open?, close]

end Transparent

/-- A second recipient of a shared file unlocks it through the new entry, or through the old one
when its identities open that as well; and the first recipient is not added again. -/
theorem new_recipient_unlocks_shared :
    let file := Transparent.sharedFile "old" "backup"
    let key := Transparent.oldKey "old"
    let adding := Transparent.blocks ⟨.standard, []⟩
    let second := Transparent.blocks ⟨.standard, ["cd34"]⟩
    let both := Transparent.blocks ⟨.standard, ["cd34", "ab12"]⟩
    (∃ text after, (addFactor key (.recipient "AB12") adding (.stored none)).Stops ⟨file, 0⟩
      (.failed (.duplicateFactor text)) after) ∧
    ∃ after, (addFactor key (.recipient "cd34") adding (.stored none)).Returns ⟨file, 0⟩ () after ∧
      ∀ source, (unlock after.info second source).Answers (.ok ⟨key, .recipient "cd34"⟩) ∧
        (unlock after.info both source).Answers (.ok ⟨key, .recipient "ab12"⟩) := by
  intro file key adding second both
  have unseals (id : String) (others : List String) (blob : Bytes)
      (sealed_ : (adding.asymmetricWrap key.bytes id).Yields blob) :
      ∃ opened, Transparent.opening (id :: others) blob = .ok opened ∧
        opened.payload = key.bytes := by
    obtain ⟨_, _, returned⟩ := sealed_
    obtain ⟨rfl, -⟩ := returns_pure.mp returned
    exact ⟨_, Transparent.opening_close key.bytes id others, rfl⟩
  refine ⟨?_, ?_⟩
  · obtain ⟨-, duplicate, -⟩ := new_recipient_unlocks
      (Transparent.opensBy ⟨.standard, ["AB12"]⟩) (unseals "AB12" []) (.stored none) ⟨file, 0⟩
    exact duplicate.mpr (.inl ⟨_, List.mem_cons_self, by decide⟩)
  have run : ∃ after, (addFactor key (.recipient "cd34") adding (.stored none)).Returns
      ⟨file, 0⟩ () after :=
    ⟨_, returns_addFactor_recipient (by decide) ⟨by decide, List.cons_ne_nil _ _⟩ rfl⟩
  obtain ⟨after, added⟩ := run
  refine ⟨after, added, fun source => ⟨?_, ?_⟩⟩
  · obtain ⟨-, -, works⟩ := new_recipient_unlocks
      (Transparent.opensBy ⟨.standard, ["cd34"]⟩) (unseals "cd34" []) (.stored none) ⟨file, 0⟩
    obtain ⟨⟨unlocked, silent, -, -, fresh⟩, -⟩ := works after added
    rw [fresh] at silent
    · exact silent source
    · rintro ⟨entry, opened, member, answered, -⟩
      obtain rfl : entry = ⟨"ab12", Transparent.close key.bytes "ab12"⟩ := by
        simpa [file, Transparent.sharedFile] using member
      cases answered
  · obtain ⟨-, -, works⟩ := new_recipient_unlocks
      (Transparent.opensBy ⟨.standard, ["cd34", "ab12"]⟩) (unseals "cd34" ["ab12"])
      (.stored none) ⟨file, 0⟩
    obtain ⟨⟨unlocked, silent, -, kept, -⟩, -⟩ := works after added
    have before := kept ⟨_, _, List.mem_cons_self, rfl, key.length_eq⟩ (.stored none) 0
    cases before
    exact silent source

end Keywarden
