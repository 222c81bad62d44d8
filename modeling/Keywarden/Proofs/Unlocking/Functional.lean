import Keywarden.Proofs.Unlocking

/-!
# Unlocking as a function

When the building blocks answer as functions of their arguments, so does every search
for a factor: what unlocked once unlocks again, in every state and under every
configured cost.

The searches also respect the order of the entries.  A list that is followed by
further entries is searched first, and the further entries only when nothing in it
was met.
-/

namespace Keywarden

open Keywarden.Action

variable {ι σ : Type}

/-- A family of building blocks that answers by the arguments alone: deriving and
unwrapping are the same for the whole family, and what a member can open depends on
the member besides. -/
structure Primitives.Functional (blocks : ι → Primitives σ) : Prop where
  derives : ∀ passphrase salt cost,
    Uniform fun setting => (blocks setting).deriveKey passphrase salt cost
  unwraps : ∀ key blob, Uniform fun setting => (blocks setting).unwrap key blob
  opens : ∀ setting blob, Uniform fun _ : Unit => (blocks setting).asymmetricUnwrap blob

/-- What unlocking with a passphrase needs of such a family. -/
structure Primitives.Repeatable (blocks : ι → Primitives σ) : Prop where
  derives : ∀ passphrase salt cost,
    Uniform fun setting => (blocks setting).deriveKey passphrase salt cost
  unwraps : ∀ key blob, Uniform fun setting => (blocks setting).unwrap key blob

theorem Primitives.Functional.repeatable {blocks : ι → Primitives σ}
    (functional : Primitives.Functional blocks) : Primitives.Repeatable blocks :=
  ⟨functional.derives, functional.unwraps⟩

/-- One member of such a family is such a family by itself. -/
theorem Primitives.Functional.member {blocks : ι → Primitives σ}
    (functional : Primitives.Functional blocks) (setting : ι) :
    Primitives.Functional fun _ : Unit => blocks setting where
  derives passphrase salt cost := by
    obtain ⟨outcome, answers⟩ := functional.derives passphrase salt cost
    exact .of_answers fun _ => answers setting
  unwraps key blob := by
    obtain ⟨outcome, answers⟩ := functional.unwraps key blob
    exact .of_answers fun _ => answers setting
  opens _ := functional.opens setting

namespace InfoFile

theorem passphrasesFrom_append (start : Nat) (front back : List KeyEntry) :
    passphrasesFrom start (front ++ back) =
      passphrasesFrom start front ++ passphrasesFrom (start + front.length) back := by
  induction front generalizing start with
  | nil => rfl
  | cons key rest ih =>
    have shifted : start + (key :: rest).length = start + 1 + rest.length := by
      simp only [List.length_cons]
      omega
    rw [shifted]
    cases key with
    | passphrase entry => simp [passphrasesFrom, ih]
    | asymmetric entry => simp [passphrasesFrom, ih]

theorem passphrases_append (info : InfoFile) (entry : PassphraseEntry) :
    (info.append (.passphrase entry)).passphrases =
      info.passphrases ++ [(info.keys.length, entry)] := by
  change passphrasesFrom 0 (info.keys ++ [.passphrase entry]) = _
  rw [passphrasesFrom_append, Nat.zero_add]
  rfl

theorem asymmetrics_append (info : InfoFile) (entry : PassphraseEntry) :
    (info.append (.passphrase entry)).asymmetrics = info.asymmetrics := by
  simp [asymmetrics, append, KeyEntry.asymmetric?]

end InfoFile

namespace Unlocking

/-- Further entries are searched when none of those before them was met. -/
theorem tryPassphrases_append (primitives : Primitives σ) (passphrase : Bytes)
    (front back : List (Nat × PassphraseEntry)) :
    tryPassphrases primitives passphrase (front ++ back) = (do
      match ← tryPassphrases primitives passphrase front with
      | some unlocked => return some unlocked
      | none => tryPassphrases primitives passphrase back) := by
  induction front with
  | nil => rfl
  | cons head rest ih =>
    obtain ⟨index, entry⟩ := head
    simp only [List.cons_append, tryPassphrases, bind_assoc]
    congr 1
    funext derived
    by_cases accepted : derived.2.accepts entry.confirmationHash = true
    · simp [accepted]
    · simp only [if_neg accepted]
      exact ih

section Functional

variable {blocks : ι → Primitives σ}

theorem uniform_tryPassphrases (repeatable : Primitives.Repeatable blocks)
    (passphrase : Bytes) (entries : List (Nat × PassphraseEntry)) :
    Uniform fun setting => tryPassphrases (blocks setting) passphrase entries := by
  induction entries with
  | nil => exact .pure none
  | cons head rest ih =>
    obtain ⟨index, entry⟩ := head
    refine (repeatable.derives passphrase entry.salt entry.cost).bind fun derived => ?_
    obtain ⟨key, hash⟩ := derived
    by_cases accepted : hash.accepts entry.confirmationHash = true
    · simp only [if_pos accepted]
      refine (repeatable.unwraps key entry.wrappedKey).bind fun payload => ?_
      exact (Uniform.ofExcept _).bind fun masterKey => .pure _
    · simp only [if_neg accepted]
      exact ih

private theorem uniform_legacyMasterKey (repeatable : Primitives.Repeatable blocks)
    (info : InfoFile) (passphrase : Bytes) :
    Uniform fun setting => legacyMasterKey info passphrase (blocks setting) := by
  unfold legacyMasterKey
  cases info.legacyPassphrase? with
  | none => exact .pure none
  | some legacy =>
    refine (repeatable.derives passphrase legacy.salt legacy.cost).bind fun derived => ?_
    obtain ⟨key, hash⟩ := derived
    by_cases accepted : hash.accepts legacy.confirmationHash = true
    · simp only [if_pos accepted]
      exact .pure _
    · simp only [if_neg accepted]
      exact .pure none

theorem uniform_withPassphrase (repeatable : Primitives.Repeatable blocks) (info : InfoFile)
    (passphrase : String) :
    Uniform fun setting => withPassphrase info passphrase (blocks setting) := by
  refine (uniform_tryPassphrases repeatable _ _).bind fun found => ?_
  cases found with
  | some unlocked => exact .pure unlocked
  | none =>
    refine (uniform_legacyMasterKey repeatable info _).bind fun legacy => ?_
    cases legacy with
    | some masterKey => exact .pure _
    | none => exact .fail noMatch

theorem uniform_tryAsymmetric (functional : Primitives.Functional blocks) (setting : ι)
    (entries : List AsymmetricEntry) :
    Uniform fun _ : Unit => tryAsymmetric (blocks setting) entries := by
  induction entries with
  | nil => exact .pure none
  | cons entry rest ih =>
    refine (functional.opens setting entry.wrappedKey).attempt.bind fun attempted => ?_
    cases attempted with
    | error failure => exact ih
    | ok opened =>
      cases read : MasterKey.ofPayload opened.payload with
      | error failure =>
        simp only [read]
        exact ih
      | ok masterKey =>
        simp only [read]
        exact .pure _

end Functional

end Unlocking

end Keywarden
