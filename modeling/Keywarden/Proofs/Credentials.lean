import Keywarden.Proofs.History
import Mathlib.Data.List.Forall2

/-!
# Credentials and look-up

The passphrases and recipients with which the entries of an info file were made form
a list beside the file, one for each entry, and the legacy passphrase stands apart.
When every stored salt, hash, blob and cost comes from its credential and no
passphrase is listed twice, unlocking with a passphrase is a look-up in the list.
-/

namespace Keywarden

open Keywarden.Action Repository Unlocking

/-- What is derived from a passphrase, a salt and a cost. -/
abbrev Derivation :=
  Bytes → Bytes → DerivationCost → Except Stop (WrappingKey × ConfirmationHash)

variable {ι σ : Type} {blocks : ι → Primitives σ} {masterKey : MasterKey}
  {derive : Derivation}

/-- A family of building blocks that derives by a function of passphrase, salt and
cost.  Equal hashes under one salt and cost come from equal passphrases, a wrapped
payload is unwrapped under the same key, and a derivation fails only as the
failure of a building block. -/
structure Primitives.Lawful (blocks : ι → Primitives σ) (derive : Derivation) : Prop where
  derives : ∀ setting passphrase salt cost,
    ((blocks setting).deriveKey passphrase salt cost).Answers (derive passphrase salt cost)
  injective : ∀ {left right : String} {salt : Bytes} {cost : DerivationCost}
    {leftKey rightKey : WrappingKey} {hash : ConfirmationHash},
    derive (Bytes.ofString left) salt cost = .ok (leftKey, hash) →
    derive (Bytes.ofString right) salt cost = .ok (rightKey, hash) → left = right
  unwrap_wrap : ∀ {made read : ι} {key : WrappingKey} {payload blob : Bytes},
    ((blocks made).wrap key payload).Yields blob →
    ((blocks read).unwrap key blob).Answers (.ok payload)
  failure_kind : ∀ {passphrase salt : Bytes} {cost : DerivationCost} {failure : Failure},
    derive passphrase salt cost = .error (.failed failure) →
    failure.kind = .primitiveFailure

/-- A passphrase that meets the hash of another one is the same. -/
theorem Primitives.Lawful.eq_of_met (lawful : Primitives.Lawful blocks derive)
    {left right : String} {salt : Bytes} {cost : DerivationCost}
    {leftKey rightKey : WrappingKey} {leftHash rightHash : ConfirmationHash}
    (leftDerived : derive (Bytes.ofString left) salt cost = .ok (leftKey, leftHash))
    (rightDerived : derive (Bytes.ofString right) salt cost = .ok (rightKey, rightHash))
    (met : leftHash.bytes = rightHash.bytes) : left = right := by
  obtain rfl := ConfirmationHash.eq_of_bytes met
  exact lawful.injective leftDerived rightDerived

def Credential.passphrase? : Credential → Option String
  | .passphrase text => some text
  | .recipient _ => none

namespace Credentials

def passphrases (live : Credentials) : List String :=
  live.entries.filterMap Credential.passphrase? ++ live.legacy.toList

def unlock (live : Credentials) (masterKey : MasterKey) (passphrase : String) :
    Except Stop Unlocked :=
  match live.entries.idxOf? (.passphrase passphrase) with
  | some index => .ok ⟨masterKey, .passphrase index⟩
  | none =>
    if live.legacy = some passphrase then .ok ⟨masterKey, .legacy⟩
    else .error (.failed noMatch)

end Credentials

def InfoFile.Records (info : InfoFile) (salt : Bytes) (cost : DerivationCost) : Prop :=
  (∃ entry, .passphrase entry ∈ info.keys ∧ entry.salt = salt ∧ entry.cost = cost) ∨
    ∃ legacy, info.legacyPassphrase? = some legacy ∧ legacy.salt = salt ∧ legacy.cost = cost

def KeyEntry.Fits (blocks : ι → Primitives σ) (derive : Derivation)
    (masterKey : MasterKey) : KeyEntry → Credential → Prop
  | .passphrase entry, .passphrase text => ∃ key hash,
    derive (Bytes.ofString text) entry.salt entry.cost = .ok (key, hash) ∧
      hash.bytes = entry.confirmationHash ∧
      ∀ setting, ((blocks setting).unwrap key entry.wrappedKey).Answers
        (.ok masterKey.bytes)
  | .asymmetric entry, .recipient id => entry.recipientId = id
  | _, _ => False

def LegacyPassphrase.Fits (derive : Derivation) (masterKey : MasterKey)
    (legacy : LegacyPassphrase) (passphrase : String) : Prop :=
  ∃ key hash, derive (Bytes.ofString passphrase) legacy.salt legacy.cost = .ok (key, hash) ∧
    hash.bytes = legacy.confirmationHash ∧ key.asMaster = masterKey

/-- The info file was made from the master key and the credentials, and no passphrase
is live twice. -/
structure Credentials.Fit (blocks : ι → Primitives σ) (derive : Derivation)
    (masterKey : MasterKey) (info : InfoFile) (live : Credentials) : Prop where
  entries : List.Forall₂ (KeyEntry.Fits blocks derive masterKey) info.keys live.entries
  legacy : Option.Rel (LegacyPassphrase.Fits derive masterKey) info.legacyPassphrase?
    live.legacy
  nodup : live.passphrases.Nodup

namespace Credentials

theorem mem_passphrases {live : Credentials} {passphrase : String} :
    passphrase ∈ live.passphrases ↔
      .passphrase passphrase ∈ live.entries ∨ live.legacy = some passphrase := by
  simp only [passphrases, List.mem_append, List.mem_filterMap, Option.mem_toList]
  refine or_congr ⟨?_, fun member => ⟨_, member, rfl⟩⟩ Iff.rfl
  rintro ⟨credential, member, read⟩
  cases credential with
  | passphrase text =>
    cases read
    exact member
  | recipient id => cases read

/-- A passphrase that the look-up refuses is not live. -/
theorem not_mem_of_unlock_eq_error {live : Credentials} {passphrase : String} {stop : Stop}
    (refused : live.unlock masterKey passphrase = .error stop) :
    passphrase ∉ live.passphrases := by
  unfold unlock at refused
  split at refused
  · cases refused
  · next absent =>
    split at refused
    · cases refused
    · next other =>
      rw [mem_passphrases, not_or]
      exact ⟨List.idxOf?_eq_none_iff.mp absent, other⟩

/-- Among distinct passphrases the look-up finds the only position. -/
theorem idxOf?_eq_some {entries : List Credential} {index : Nat} {passphrase : String}
    (nodup : (entries.filterMap Credential.passphrase?).Nodup)
    (stored : entries[index]? = some (.passphrase passphrase)) :
    entries.idxOf? (.passphrase passphrase) = some index := by
  induction entries generalizing index with
  | nil => cases stored
  | cons head rest ih =>
    cases index with
    | zero =>
      cases stored
      simp [List.idxOf?_cons]
    | succ index =>
      have member : Credential.passphrase passphrase ∈ rest := List.mem_of_getElem? stored
      cases head with
      | recipient id =>
        rw [List.idxOf?_cons, ih nodup stored]
        rfl
      | passphrase other =>
        obtain ⟨unlisted, nodup⟩ := List.nodup_cons.mp nodup
        have differs : Credential.passphrase other ≠ .passphrase passphrase := by
          intro same
          cases same
          exact unlisted (List.mem_filterMap.mpr ⟨_, member, rfl⟩)
        rw [List.idxOf?_cons, beq_eq_false_iff_ne.mpr differs, ih nodup stored]
        rfl

theorem unlock_of_getElem? {live : Credentials} {index : Nat} {passphrase : String}
    (nodup : live.passphrases.Nodup)
    (stored : live.entries[index]? = some (.passphrase passphrase)) :
    live.unlock masterKey passphrase = .ok ⟨masterKey, .passphrase index⟩ := by
  have found := idxOf?_eq_some (List.nodup_append.mp nodup).1 stored
  simp only [unlock, found]

theorem unlock_of_legacy {live : Credentials} {passphrase : String}
    (nodup : live.passphrases.Nodup) (legacy : live.legacy = some passphrase) :
    live.unlock masterKey passphrase = .ok ⟨masterKey, .legacy⟩ := by
  have absent : Credential.passphrase passphrase ∉ live.entries := by
    intro member
    have listed : passphrase ∈ live.entries.filterMap Credential.passphrase? :=
      List.mem_filterMap.mpr ⟨_, member, rfl⟩
    exact (List.nodup_append.mp nodup).2.2 _ listed _ (Option.mem_toList.mpr legacy) rfl
  simp only [unlock, List.idxOf?_eq_none_iff.mpr absent, if_pos legacy]

theorem unlock_of_not_mem {live : Credentials} {passphrase : String}
    (absent : passphrase ∉ live.passphrases) :
    live.unlock masterKey passphrase = .error (.failed noMatch) := by
  rw [mem_passphrases, not_or] at absent
  simp only [unlock, List.idxOf?_eq_none_iff.mpr absent.1, if_neg absent.2]

end Credentials

section Search

variable {text : String}

/-- What the search answers when the passphrase is at a position of the credentials, or
at none. -/
def found (masterKey : MasterKey) (credentials : List Credential) (text : String)
    (start : Nat) : Option Unlocked :=
  (credentials.idxOf? (.passphrase text)).map fun index =>
    ⟨masterKey, .passphrase (start + index)⟩

private theorem found_cons_self (credentials : List Credential) (start : Nat) :
    found masterKey (.passphrase text :: credentials) text start =
      some ⟨masterKey, .passphrase start⟩ := by
  simp [found, List.idxOf?_cons]

private theorem found_cons_of_ne {credential : Credential} (other : credential ≠ .passphrase text)
    (credentials : List Credential) (start : Nat) :
    found masterKey (credential :: credentials) text start =
      found masterKey credentials text (start + 1) := by
  have differs : (credential == .passphrase text) = false := beq_eq_false_iff_ne.mpr other
  simp only [found, List.idxOf?_cons, differs, Bool.false_eq_true, if_false, Option.map_map]
  congr 1
  funext index
  simp only [Function.comp_apply, Unlocked.mk.injEq, FactorId.passphrase.injEq, true_and]
  omega

/-- An entry whose hash the passphrase does not meet is passed over. -/
theorem tryPassphrases_answers_skip {primitives : Primitives σ} {passphrase : Bytes}
    {start : Nat} {entry : PassphraseEntry} {keys : List KeyEntry} {key : WrappingKey}
    {hash : ConfirmationHash} {outcome : Except Stop (Option Unlocked)}
    (derived : (primitives.deriveKey passphrase entry.salt entry.cost).Answers
      (.ok (key, hash)))
    (refused : hash.bytes ≠ entry.confirmationHash)
    (rest : (tryPassphrases primitives passphrase
      (InfoFile.passphrasesFrom (start + 1) keys)).Answers outcome) :
    (tryPassphrases primitives passphrase
      (InfoFile.passphrasesFrom start (.passphrase entry :: keys))).Answers outcome := by
  refine derived.bind_ok ?_
  have skipped : ¬ hash.accepts entry.confirmationHash = true := by
    rwa [hash.accepts_iff]
  simp only [if_neg skipped]
  exact rest

/-- An entry whose hash the passphrase meets is opened. -/
theorem tryPassphrases_answers_open {primitives : Primitives σ} {passphrase : Bytes}
    {start : Nat} {entry : PassphraseEntry} {keys : List KeyEntry} {key : WrappingKey}
    {hash : ConfirmationHash}
    (derived : (primitives.deriveKey passphrase entry.salt entry.cost).Answers
      (.ok (key, hash)))
    (met : hash.bytes = entry.confirmationHash)
    (unwrapped : (primitives.unwrap key entry.wrappedKey).Answers (.ok masterKey.bytes)) :
    (tryPassphrases primitives passphrase
      (InfoFile.passphrasesFrom start (.passphrase entry :: keys))).Answers
        (.ok (some ⟨masterKey, .passphrase start⟩)) := by
  refine derived.bind_ok ?_
  simp only [if_pos ((hash.accepts_iff _).mpr met)]
  refine unwrapped.bind_ok ?_
  rw [masterKey.ofPayload_bytes]
  exact (answers_pure masterKey).bind_ok (answers_pure _)

/-- The search through the entries finds the position of the passphrase among the
credentials, unless a derivation with a recorded salt stops. -/
theorem tryPassphrases_answers (lawful : Primitives.Lawful blocks derive)
    {keys : List KeyEntry} {credentials : List Credential}
    (fits : List.Forall₂ (KeyEntry.Fits blocks derive masterKey) keys credentials)
    (setting : ι) (text : String) (start : Nat) :
    (∃ entry stop, .passphrase entry ∈ keys ∧
      derive (Bytes.ofString text) entry.salt entry.cost = .error stop ∧
      (tryPassphrases (blocks setting) (Bytes.ofString text)
        (InfoFile.passphrasesFrom start keys)).Answers (.error stop)) ∨
    (tryPassphrases (blocks setting) (Bytes.ofString text)
      (InfoFile.passphrasesFrom start keys)).Answers
        (.ok (found masterKey credentials text start)) := by
  induction fits generalizing start with
  | nil => exact .inr (answers_pure none)
  | @cons key credential keys credentials fit fits ih =>
    cases key with
    | asymmetric entry =>
      cases credential with
      | passphrase known => cases fit
      | recipient id =>
        rw [found_cons_of_ne (by simp)]
        rcases ih (start + 1) with ⟨stuck, stop, member, stops⟩ | answers
        · exact .inl ⟨stuck, stop, by simp [member], stops⟩
        · exact .inr answers
    | passphrase entry =>
      cases credential with
      | recipient id => cases fit
      | passphrase known =>
        obtain ⟨key, hash, derived, met, unwraps⟩ := fit
        have derives := lawful.derives setting (Bytes.ofString text) entry.salt entry.cost
        cases attempt : derive (Bytes.ofString text) entry.salt entry.cost with
        | error stop =>
          rw [attempt] at derives
          exact .inl ⟨entry, stop, by simp, attempt, derives.bind_error⟩
        | ok pair =>
          obtain ⟨candidateKey, candidate⟩ := pair
          rw [attempt] at derives
          by_cases same : text = known
          · subst same
            cases derived.symm.trans attempt
            rw [found_cons_self]
            exact .inr (tryPassphrases_answers_open derives met (unwraps setting))
          · have refused : candidate.bytes ≠ entry.confirmationHash := fun candidate_met =>
              same (lawful.eq_of_met attempt derived (candidate_met.trans met.symm))
            have other : Credential.passphrase known ≠ .passphrase text := by
              simpa [eq_comm] using same
            rw [found_cons_of_ne other]
            rcases ih (start + 1) with ⟨stuck, stop, member, fails, answers⟩ | answers
            · exact .inl ⟨stuck, stop, by simp [member], fails,
                tryPassphrases_answers_skip derives refused answers⟩
            · exact .inr (tryPassphrases_answers_skip derives refused answers)

/-- The legacy passphrase derives the master key, and no other passphrase does. -/
theorem legacyMasterKey_answers (lawful : Primitives.Lawful blocks derive) {info : InfoFile}
    {live? : Option String}
    (fits : Option.Rel (LegacyPassphrase.Fits derive masterKey) info.legacyPassphrase? live?)
    (setting : ι) (text : String) :
    (∃ legacy stop, info.legacyPassphrase? = some legacy ∧
      derive (Bytes.ofString text) legacy.salt legacy.cost = .error stop ∧
      (legacyMasterKey info (Bytes.ofString text) (blocks setting)).Answers
        (.error stop)) ∨
    (legacyMasterKey info (Bytes.ofString text) (blocks setting)).Answers
      (.ok (if live? = some text then some masterKey else none)) := by
  unfold legacyMasterKey
  cases stored : info.legacyPassphrase? with
  | none =>
    rw [stored] at fits
    cases fits
    exact .inr (answers_pure none)
  | some legacy =>
    rw [stored] at fits
    cases fits with
    | @some _ known fit =>
      obtain ⟨key, hash, derived, met, rfl⟩ := fit
      have derives := lawful.derives setting (Bytes.ofString text) legacy.salt legacy.cost
      cases attempt : derive (Bytes.ofString text) legacy.salt legacy.cost with
      | error stop =>
        rw [attempt] at derives
        exact .inl ⟨legacy, stop, rfl, attempt, derives.bind_error⟩
      | ok pair =>
        obtain ⟨candidateKey, candidate⟩ := pair
        rw [attempt] at derives
        refine .inr (derives.bind_ok ?_)
        by_cases same : text = known
        · subst same
          cases derived.symm.trans attempt
          simp only [if_pos ((hash.accepts_iff _).mpr met), if_true]
          exact answers_pure _
        · have refused : ¬ candidate.accepts legacy.confirmationHash = true := by
            rw [candidate.accepts_iff]
            intro candidate_met
            exact same (lawful.eq_of_met attempt derived (candidate_met.trans met.symm))
          have other : ¬ some known = some text := by
            simpa [eq_comm] using same
          simp only [if_neg refused, if_neg other]
          exact answers_pure none

/-- Unlocking with a passphrase is the look-up in the live credentials, unless a
derivation with a recorded salt stops. -/
theorem withPassphrase_answers (lawful : Primitives.Lawful blocks derive) {info : InfoFile}
    {live : Credentials} (fit : live.Fit blocks derive masterKey info) (setting : ι)
    (text : String) :
    (∃ salt cost stop, info.Records salt cost ∧
      derive (Bytes.ofString text) salt cost = .error stop ∧
      (withPassphrase info text (blocks setting)).Answers (.error stop)) ∨
    (withPassphrase info text (blocks setting)).Answers (live.unlock masterKey text) := by
  rcases tryPassphrases_answers lawful fit.entries setting text 0 with
    ⟨entry, stop, member, fails, answers⟩ | answers
  · exact .inl ⟨entry.salt, entry.cost, stop, .inl ⟨entry, member, rfl, rfl⟩, fails,
      answers.bind_error⟩
  unfold Credentials.unlock
  cases position : live.entries.idxOf? (.passphrase text) with
  | some index =>
    rw [found, position] at answers
    simp only [Option.map_some, Nat.zero_add] at answers
    exact .inr (answers.bind_ok (answers_pure _))
  | none =>
    rw [found, position] at answers
    rcases legacyMasterKey_answers lawful fit.legacy setting text with
      ⟨legacy, stop, stored, fails, last⟩ | last
    · exact .inl ⟨legacy.salt, legacy.cost, stop, .inr ⟨legacy, stored, rfl, rfl⟩, fails,
        answers.bind_ok last.bind_error⟩
    · refine .inr (answers.bind_ok (last.bind_ok ?_))
      by_cases legacyLive : live.legacy = some text
      · simp only [if_pos legacyLive]
        exact answers_pure _
      · simp only [if_neg legacyLive]
        exact answers_fail noMatch

end Search

end Keywarden
