import Keywarden.Proofs.Transparent

/-!
# One master key for ever

Suppose that a blob opens to what it was made from or not at all, and that a
confirmation hash belongs to one wrapping key.  Then a repository never unlocks to
anything but the master key with which it began, through whatever factor, with
whatever passphrase and identities, and after every history in which factors are
added with keys that were unlocked before.

The invariant says where the contents of the info file come from: every wrapped key
was made from the master key, and the legacy pair was derived together with it.
-/

namespace Keywarden

open Keywarden.Action Repository Unlocking

variable {ι σ : Type} {blocks : ι → Primitives σ} {masterKey : MasterKey}

/-- A family of building blocks that never opens a blob to anything but its payload,
and never derives two keys beside one confirmation hash. -/
structure Primitives.Faithful (blocks : ι → Primitives σ) : Prop where
  unwrap_eq : ∀ {made read : ι} {key other : WrappingKey} {payload blob found : Bytes},
    ((blocks made).wrap key payload).Yields blob →
    ((blocks read).unwrap other blob).Yields found → found = payload
  opened_eq : ∀ {made read : ι} {payload blob : Bytes} {id : String} {opened : Opened},
    ((blocks made).asymmetricWrap payload id).Yields blob →
    ((blocks read).asymmetricUnwrap blob).Yields opened → opened.payload = payload
  key_eq : ∀ {first second : ι} {left right salt : Bytes} {cost : DerivationCost}
    {leftKey rightKey : WrappingKey} {hash : ConfirmationHash},
    ((blocks first).deriveKey left salt cost).Yields (leftKey, hash) →
    ((blocks second).deriveKey right salt cost).Yields (rightKey, hash) →
    leftKey = rightKey

def KeyEntry.MadeFrom (blocks : ι → Primitives σ) (masterKey : MasterKey) : KeyEntry → Prop
  | .passphrase entry => ∃ setting key,
    ((blocks setting).wrap key masterKey.bytes).Yields entry.wrappedKey
  | .asymmetric entry => ∃ setting id,
    ((blocks setting).asymmetricWrap masterKey.bytes id).Yields entry.wrappedKey

/-- Everything in the info file that may unlock comes from the master key. -/
structure InfoFile.MadeFrom (blocks : ι → Primitives σ) (masterKey : MasterKey)
    (info : InfoFile) : Prop where
  entries : ∀ entry ∈ info.keys, entry.MadeFrom blocks masterKey
  legacy : ∀ legacy, info.legacyPassphrase? = some legacy →
    ∃ setting passphrase, Derives (blocks setting) passphrase legacy masterKey

namespace InfoFile.MadeFrom

variable {info : InfoFile}

/-- The legacy passphrase derives no other key, whichever passphrase meets its hash. -/
theorem eq_of_derives (made : info.MadeFrom blocks masterKey)
    (faithful : Primitives.Faithful blocks) {setting : ι} {passphrase : Bytes}
    {legacy : LegacyPassphrase} {found : MasterKey}
    (stored : info.legacyPassphrase? = some legacy)
    (derives : Derives (blocks setting) passphrase legacy found) : found = masterKey := by
  obtain ⟨first, known, key, hash, derived, hash_eq, rfl⟩ := made.legacy legacy stored
  obtain ⟨other, met, rederived, met_eq, rfl⟩ := derives
  obtain rfl := ConfirmationHash.eq_of_bytes (met_eq.trans hash_eq.symm)
  rw [faithful.key_eq rederived derived]

theorem withPassphrase_eq (made : info.MadeFrom blocks masterKey)
    (faithful : Primitives.Faithful blocks) {setting : ι} {passphrase : String}
    {unlocked : Unlocked}
    (yields : (withPassphrase info passphrase (blocks setting)).Yields unlocked) :
    unlocked.masterKey = masterKey := by
  obtain ⟨before, after, returned⟩ := yields
  rcases of_returns_withPassphrase returned with
    ⟨index, entry, stored, ⟨key, hash, derived, met, unwrapped⟩, -⟩ |
      ⟨legacy, stored, derives, -⟩
  · obtain ⟨first, wrappingKey, wrapped⟩ :=
      made.entries _ (List.mem_of_getElem? stored)
    exact MasterKey.eq_of_bytes (faithful.unwrap_eq wrapped unwrapped)
  · exact made.eq_of_derives faithful stored derives

theorem unlock_eq (made : info.MadeFrom blocks masterKey)
    (faithful : Primitives.Faithful blocks) {setting : ι} {source : PassphraseSource σ}
    {unlocked : Unlocked}
    (yields : (unlock info (blocks setting) source).Yields unlocked) :
    unlocked.masterKey = masterKey := by
  obtain ⟨before, after, returned⟩ := yields
  rcases of_returns_unlock returned with
    ⟨entry, member, ⟨opened, unsealed, payload_eq⟩, -⟩ | ⟨passphrase, -, yields⟩
  · obtain ⟨first, id, sealed_⟩ := made.entries _ member
    exact MasterKey.eq_of_bytes (payload_eq.symm.trans (faithful.opened_eq sealed_ unsealed))
  · exact made.withPassphrase_eq faithful yields

theorem append (made : info.MadeFrom blocks masterKey) {entry : KeyEntry}
    (entryMade : entry.MadeFrom blocks masterKey) :
    (info.append entry).MadeFrom blocks masterKey where
  entries := by
    intro other member
    rcases List.mem_append.mp member with old | new
    · exact made.entries other old
    · rw [List.mem_singleton.mp new]
      exact entryMade
  legacy := made.legacy

end InfoFile.MadeFrom

theorem Repository.Wraps.madeFrom {setting : ι} {passphrase : Bytes} {entry : PassphraseEntry}
    (wraps : Wraps (blocks setting) masterKey passphrase entry) :
    (KeyEntry.passphrase entry).MadeFrom blocks masterKey := by
  obtain ⟨key, hash, -, -, wrapped⟩ := wraps.wrapped
  exact ⟨setting, key, wrapped⟩

theorem Repository.Added.madeFrom {setting : ι} {source : PassphraseSource σ}
    {before : Session σ} {factor : FactorSpec} {entry : KeyEntry}
    (added : Added (blocks setting) source masterKey before factor entry) :
    entry.MadeFrom blocks masterKey := by
  cases added with
  | recipient unknown complete made => exact ⟨setting, _, made⟩
  | passphrase acquired refused made => exact made.madeFrom

def Answer.key? : Except Stop Answer → Option MasterKey
  | .ok (.unlocked found) => some found.masterKey
  | _ => none

namespace Operation.Step

variable {setting : ι} {before : Session σ} {operation : Operation σ}
  {answer : Except Stop Answer} {edited : InfoFile}

private theorem madeFrom (step : Step (blocks setting) before operation answer edited)
    (faithful : Primitives.Faithful blocks) (made : before.info.MadeFrom blocks masterKey)
    (own : ∀ key, operation.addedKey? = some key → key = masterKey) :
    edited.MadeFrom blocks masterKey := by
  cases step with
  | stopped => exact made
  | added added =>
    obtain rfl := own _ rfl
    exact made.append added.madeFrom
  | removed found stored several =>
    exact ⟨fun entry member => made.entries entry (List.mem_of_mem_eraseIdx member),
      made.legacy⟩
  | upgraded upgraded =>
    cases upgraded with
    | unchanged => exact made
    | renumbered => exact ⟨made.entries, made.legacy⟩
    | rotated oldest present moved =>
      cases moved with
      | moved stored acquired derived wraps =>
        obtain rfl := made.eq_of_derives faithful stored derived
        exact ⟨(made.append wraps.madeFrom).entries, fun legacy stored => nomatch stored⟩
  | unlocked => exact made
  | unlockedWith => exact made

private theorem key_eq (step : Step (blocks setting) before operation answer edited)
    (faithful : Primitives.Faithful blocks) (made : before.info.MadeFrom blocks masterKey)
    {key : MasterKey} (shown : Answer.key? answer = some key) : key = masterKey := by
  cases step with
  | unlocked opened =>
    cases shown
    exact made.unlock_eq faithful opened
  | unlockedWith opened =>
    cases shown
    exact made.withPassphrase_eq faithful opened
  | _ => cases shown

end Operation.Step

/-- Every factor of the history is added for a key that is known by then: one of the
given keys, or one that an earlier operation of the history unlocked. -/
def AddsKnownKeys (blocks : ι → Primitives σ) :
    List MasterKey → InfoFile → List (Move ι σ) → Prop
  | _, _, [] => True
  | known, info, move :: rest =>
    (∀ key, move.operation.addedKey? = some key → key ∈ known) ∧
      AddsKnownKeys blocks (known ++ (Answer.key? (move.answer blocks info)).toList)
        (move.after blocks info) rest

theorem Begins.madeFrom {info : InfoFile} {credentials : Credentials}
    (begins : Begins blocks masterKey info credentials) :
    info.MadeFrom blocks masterKey := by
  cases begins with
  | created created =>
    obtain ⟨keyed, entry, -, added, rfl⟩ := of_returns_create created
    have empty : InfoFile.empty.MadeFrom blocks masterKey := by
      constructor
      · intro entry member
        cases member
      · intro legacy stored
        cases stored
    exact empty.append added.madeFrom
  | legacy oldest noEntries stored derived =>
    refine ⟨fun entry member => ?_, fun legacy found => ?_⟩
    · rw [noEntries] at member
      cases member
    · cases stored.symm.trans found
      exact ⟨_, _, derived⟩

/-- Known keys stay the one master key along a history, and so does the origin of all
that the info file holds. -/
theorem historyEnd_madeFrom (faithful : Primitives.Faithful blocks)
    (moves : List (Move ι σ)) {known : List MasterKey} {info : InfoFile}
    (only : ∀ key ∈ known, key = masterKey) (made : info.MadeFrom blocks masterKey)
    (adds : AddsKnownKeys blocks known info moves) :
    (historyEnd blocks moves info).MadeFrom blocks masterKey := by
  induction moves generalizing known info with
  | nil => exact made
  | cons move rest ih =>
    obtain ⟨addsNow, addsLater⟩ := adds
    have step := move.step blocks info
    refine ih ?_ (step.madeFrom faithful made fun key added =>
      only key (addsNow key added)) addsLater
    intro key member
    rcases List.mem_append.mp member with old | shown
    · exact only key old
    · exact step.key_eq faithful made (Option.mem_toList.mp shown)

/-- Every unlock after every history shows the master key with which the repository
began.  The caller may know that key from the start, and adds factors only for keys
known by then. -/
theorem unlocked_masterKey_eq (faithful : Primitives.Faithful blocks) {info : InfoFile}
    {credentials : Credentials} (begins : Begins blocks masterKey info credentials)
    (moves : List (Move ι σ)) (adds : AddsKnownKeys blocks [masterKey] info moves)
    (setting : ι) (unlocked : Unlocked) :
    (∀ source, (unlock (historyEnd blocks moves info) (blocks setting) source).Yields
      unlocked → unlocked.masterKey = masterKey) ∧
    (∀ passphrase, (withPassphrase (historyEnd blocks moves info) passphrase
      (blocks setting)).Yields unlocked → unlocked.masterKey = masterKey) := by
  have made : (historyEnd blocks moves info).MadeFrom blocks masterKey :=
    historyEnd_madeFrom faithful moves (by simp) begins.madeFrom adds
  exact ⟨fun source yields => made.unlock_eq faithful yields,
    fun passphrase yields => made.withPassphrase_eq faithful yields⟩

theorem Transparent.faithful : Primitives.Faithful Transparent.blocks where
  unwrap_eq := by
    rintro made read key other payload blob found ⟨_, _, wrapped⟩ ⟨_, _, unwrapped⟩
    obtain ⟨rfl, -⟩ := returns_pure.mp wrapped
    simp only [Transparent.blocks] at unwrapped
    split at unwrapped
    · next opened =>
      obtain ⟨rfl, -⟩ := returns_pure.mp unwrapped
      exact Transparent.eq_of_unwrap?_wrap opened
    · cases not_returns_fail unwrapped
  opened_eq := by
    rintro made read payload blob id opened ⟨_, _, sealed_⟩ ⟨_, _, unsealed⟩
    obtain ⟨rfl, -⟩ := returns_pure.mp sealed_
    simp only [Transparent.blocks] at unsealed
    split at unsealed
    · next found =>
      obtain ⟨rfl, -⟩ := returns_pure.mp unsealed
      exact Transparent.eq_of_open?_close found
    · cases not_returns_fail unsealed
  key_eq := by
    rintro first second left right salt cost leftKey rightKey hash ⟨_, _, once⟩ ⟨_, _, again⟩
    obtain ⟨once, -⟩ := returns_pure.mp once
    obtain ⟨again, -⟩ := returns_pure.mp again
    have same := Transparent.derive_injective
      ((congrArg Prod.snd once).trans (congrArg Prod.snd again).symm)
    rw [same] at once
    exact congrArg Prod.fst (once.symm.trans again)

/-- After the migration of an old file its recipient still unlocks the old key. -/
theorem unlocked_migration_eq :
    ∃ unlocked, (unlock (historyEnd Transparent.blocks
      (Transparent.migration "old" "backup") (Transparent.oldFile "old"))
      (Transparent.blocks ⟨.standard, ["ab12"]⟩) (.stored none)).Yields unlocked ∧
      unlocked.factor = .recipient "ab12" ∧
      unlocked.masterKey = Transparent.oldKey "old" := by
  have adds : AddsKnownKeys Transparent.blocks [Transparent.oldKey "old"]
      (Transparent.oldFile "old") (Transparent.migration "old" "backup") := by
    simp [AddsKnownKeys, Transparent.migration, Operation.addedKey?]
  have yields : (unlock (historyEnd Transparent.blocks
      (Transparent.migration "old" "backup") (Transparent.oldFile "old"))
      (Transparent.blocks ⟨.standard, ["ab12"]⟩) (.stored none)).Yields
      ⟨Transparent.oldKey "old", .recipient "ab12"⟩ := ⟨0, 0, rfl⟩
  refine ⟨_, yields, rfl, ?_⟩
  exact (unlocked_masterKey_eq Transparent.faithful (Transparent.begins_oldFile "old") _
    adds _ _).1 _ yields

end Keywarden
