import Keywarden.Proofs.Repository.Migration
import Keywarden.Proofs.Repository.Recipients
import Keywarden.Proofs.Unlocking.Policy

/-!
# The factor that unlocked can be removed

Unlocking reports a recipient or a position, and finds both in a list of entries of one kind.
Removing looks for the recipient among all entries, in any letter case, and takes the position as
one among all entries.  The two agree: what is removed under the reported name is the entry that
was opened.  The record of the calls tells which entry that was, even where several entries have
the same wrapped key.
-/

namespace Keywarden

open Keywarden.Action

variable {σ : Type}

def Exchange.derives : Exchange → Bool
  | .deriveKey .. => true
  | _ => false

/-- Whether a sealed blob was tried. -/
def Exchange.unseals : Exchange → Bool
  | .asymmetricUnwrap .. => true
  | _ => false

/-- The name under which unlocking reports an entry at a position. -/
def KeyEntry.factor (index : Nat) : KeyEntry → FactorId
  | .passphrase _ => .passphrase index
  | .asymmetric entry => .recipient entry.recipientId

/-- The name stands for an entry: a recipient for one in any letter case, a position for a
passphrase. -/
inductive FactorId.Names (keys : List KeyEntry) : FactorId → Prop
  | recipient {id : String} {entry : AsymmetricEntry} (member : .asymmetric entry ∈ keys)
      (same : Text.equalFold entry.recipientId id = true) : Names keys (.recipient id)
  | passphrase {index : Nat} {entry : PassphraseEntry}
      (stored : keys[index]? = some (.passphrase entry)) : Names keys (.passphrase index)

section Positions

variable {α β : Type} {select : α → Option β} {keys : List α} {index other : Nat}

theorem length_filterMap_take_succ {found : β} (stored : keys[index]?.bind select = some found) :
    ((keys.take (index + 1)).filterMap select).length =
      ((keys.take index).filterMap select).length + 1 := by
  obtain ⟨key, present, selected⟩ := Option.bind_eq_some_iff.mp stored
  rw [List.take_add_one, present]
  simp [List.filterMap_append, selected]

/-- A selected element is known by how many are selected up to it. -/
theorem eq_of_length_filterMap_take {left right : β}
    (leftStored : keys[index]?.bind select = some left)
    (rightStored : keys[other]?.bind select = some right)
    (same : ((keys.take (index + 1)).filterMap select).length =
      ((keys.take (other + 1)).filterMap select).length) : index = other := by
  have grows {lower upper : Nat} (below : lower < upper) {found : β}
      (stored : keys[upper]?.bind select = some found) :
      ((keys.take (lower + 1)).filterMap select).length <
        ((keys.take (upper + 1)).filterMap select).length := by
    have shorter : (keys.take (lower + 1)).Sublist (keys.take upper) :=
      List.take_sublist_take_left (by omega)
    have fewer := (shorter.filterMap select).length_le
    rw [length_filterMap_take_succ stored]
    omega
  rcases Nat.lt_trichotomy index other with below | equal | above
  · have := grows below rightStored
    omega
  · exact equal
  · have := grows above leftStored
    omega

end Positions

namespace Unlocking

variable {info : InfoFile} {keys : List KeyEntry} {masterKey : MasterKey} {unlocked : Unlocked}
  {made : List Exchange} {index other : Nat} {entry : KeyEntry}

/-- The last call opened the wrapped key of the entry at a position to the master key.  As many
entries of its kind were tried as the list has up to that position. -/
inductive OpenedAt (keys : List KeyEntry) (masterKey : MasterKey) (made : List Exchange)
    (index : Nat) : KeyEntry → Prop
  | asymmetric {entry : AsymmetricEntry} {opened : Opened}
      (stored : keys[index]? = some (.asymmetric entry))
      (last : made.getLast? = some (.asymmetricUnwrap entry.wrappedKey (.ok opened)))
      (payload : opened.payload = masterKey.bytes)
      (tried : made.countP Exchange.unseals =
        ((keys.take (index + 1)).filterMap KeyEntry.asymmetric?).length) :
      OpenedAt keys masterKey made index (.asymmetric entry)
  | passphrase {entry : PassphraseEntry} {key : WrappingKey}
      (stored : keys[index]? = some (.passphrase entry))
      (last : made.getLast? = some (.unwrap key entry.wrappedKey (.ok masterKey.bytes)))
      (tried : made.countP Exchange.derives =
        ((keys.take (index + 1)).filterMap KeyEntry.passphrase?).length) :
      OpenedAt keys masterKey made index (.passphrase entry)

namespace OpenedAt

private theorem stored (opened : OpenedAt keys masterKey made index entry) :
    keys[index]? = some entry := by
  cases opened <;> assumption

/-- The calls of one run opened one entry. -/
theorem index_eq {found : KeyEntry} (left : OpenedAt keys masterKey made index entry)
    (right : OpenedAt keys masterKey made other found) : index = other := by
  cases left with
  | asymmetric stored last payload tried =>
    cases right with
    | asymmetric otherStored otherLast otherPayload otherTried =>
      exact eq_of_length_filterMap_take
        (by rw [stored]; rfl) (by rw [otherStored]; rfl) (tried.symm.trans otherTried)
    | passphrase otherStored otherLast otherTried => cases last.symm.trans otherLast
  | passphrase stored last tried =>
    cases right with
    | asymmetric otherStored otherLast otherPayload otherTried => cases last.symm.trans otherLast
    | passphrase otherStored otherLast otherTried =>
      exact eq_of_length_filterMap_take
        (by rw [stored]; rfl) (by rw [otherStored]; rfl) (tried.symm.trans otherTried)

end OpenedAt

/-! ### What a successful run opened -/

theorem PassedOver.unseals {entry : AsymmetricEntry} {exchange : Exchange}
    (passes : PassedOver entry exchange) :
    exchange.unseals = true ∧ exchange.derives = false := by
  cases passes <;> exact ⟨rfl, rfl⟩

theorem Declined.derives {passphrase : Bytes} {entry : PassphraseEntry} {exchange : Exchange}
    (declined : Declined passphrase entry exchange) : exchange.derives = true := by
  cases declined
  rfl

theorem SilentSearch.openedAt (search : SilentSearch keys made (.ok (some unlocked))) :
    ∃ index entry, OpenedAt keys unlocked.masterKey made index entry ∧
      unlocked.factor = entry.factor index := by
  obtain ⟨index, entry, passed, last, found, before, ends, rfl⟩ := search.of_found
  obtain ⟨key, present, selected⟩ := Option.bind_eq_some_iff.mp found
  obtain rfl := KeyEntry.asymmetric?_eq_some.mp selected
  cases ends with
  | opened payload =>
    refine ⟨index, _, .asymmetric present List.getLast?_concat payload ?_, rfl⟩
    have counted : passed.countP Exchange.unseals = passed.length :=
      List.countP_eq_length.mpr fun exchange member => by
        obtain ⟨other, -, passes⟩ := exists_of_mem_forall₂ before member
        exact passes.unseals.1
    rw [List.countP_append, counted, ← before.length_eq, length_filterMap_take_succ found]
    rfl

/-- What precedes the search does not count as long as nothing is derived there. -/
theorem PassphraseSearch.openedAt {passphrase : Bytes} {earlier : List Exchange}
    (underived : earlier.countP Exchange.derives = 0)
    (search : PassphraseSearch passphrase 0 keys made (.ok (some unlocked))) :
    ∃ index entry, OpenedAt keys unlocked.masterKey (earlier ++ made) index entry ∧
      unlocked.factor = entry.factor index := by
  obtain ⟨index, entry, passed, last, found, before, ends, rfl⟩ := search.of_found
  obtain ⟨key, present, selected⟩ := Option.bind_eq_some_iff.mp found
  obtain rfl := KeyEntry.passphrase?_eq_some.mp selected
  rw [Nat.zero_add] at ends
  cases ends with
  | @opened key hash masterKey met =>
    have last (derived opened : Exchange) :
        (earlier ++ (passed ++ [derived, opened])).getLast? = some opened := by
      simp only [List.getLast?_append, List.getLast?_cons_cons, List.getLast?_singleton,
        Option.some_or]
    have counted : passed.countP Exchange.derives = passed.length :=
      List.countP_eq_length.mpr fun exchange member => by
        obtain ⟨other, -, declined⟩ := exists_of_mem_forall₂ before member
        exact declined.derives
    refine ⟨index, _, .passphrase present (last _ _) ?_, rfl⟩
    rw [List.countP_append, List.countP_append, underived, counted, ← before.length_eq,
      length_filterMap_take_succ found, Nat.zero_add]
    rfl

theorem PassphrasePolicy.openedAt {passphrase : Bytes} {earlier : List Exchange}
    (underived : earlier.countP Exchange.derives = 0)
    (policy : PassphrasePolicy info passphrase made (.ok unlocked))
    (listed : unlocked.factor ≠ .legacy) :
    ∃ index entry, OpenedAt info.keys unlocked.masterKey (earlier ++ made) index entry ∧
      unlocked.factor = entry.factor index := by
  cases policy with
  | listed search => exact PassphraseSearch.openedAt underived search
  | unlisted search resort =>
    cases resort with
    | derived kept met => exact absurd rfl listed

theorem UnlockPolicy.openedAt (policy : UnlockPolicy info made (.ok unlocked))
    (listed : unlocked.factor ≠ .legacy) :
    ∃ index entry, OpenedAt info.keys unlocked.masterKey made index entry ∧
      unlocked.factor = entry.factor index := by
  cases policy with
  | silent search => exact search.openedAt
  | @asked silent _ passphrase _ search policy =>
    have underived : silent.countP Exchange.derives = 0 := by
      rw [List.countP_eq_zero]
      intro exchange member
      obtain ⟨entry, -, passes⟩ := exists_of_mem_forall₂ search.of_exhausted member
      simp [passes.unseals.2]
    rw [← List.append_assoc]
    refine policy.openedAt ?_ listed
    rw [List.countP_append, underived]
    rfl

/-- Unlocking succeeded from a state, with whatever factor worked or with a known passphrase, and
made these calls. -/
inductive Succeeded (info : InfoFile) (primitives : Primitives σ) (source : PassphraseSource σ)
    (host : σ) (unlocked : Unlocked) : List Exchange → Prop
  | unlock {after : σ} (returned : (unlock info primitives source).Returns host unlocked after) :
      Succeeded info primitives source host unlocked
        (unlock info primitives.observed source.observed ⟨host, []⟩).2.exchanges
  | withPassphrase {passphrase : String} {after : σ}
      (returned : (withPassphrase info passphrase primitives).Returns host unlocked after) :
      Succeeded info primitives source host unlocked
        (withPassphrase info passphrase primitives.observed ⟨host, []⟩).2.exchanges

theorem Succeeded.openedAt {primitives : Primitives σ} {source : PassphraseSource σ} {host : σ}
    (succeeded : Succeeded info primitives source host unlocked made)
    (listed : unlocked.factor ≠ .legacy) :
    ∃ index entry, OpenedAt info.keys unlocked.masterKey made index entry ∧
      unlocked.factor = entry.factor index := by
  cases succeeded with
  | unlock returned =>
    obtain ⟨made, run, policy⟩ := observes_unlock info primitives source host []
    rw [returned] at policy
    rw [run]
    exact policy.openedAt listed
  | @withPassphrase passphrase _ returned =>
    obtain ⟨made, run, policy⟩ := observes_withPassphrase info passphrase primitives host []
    rw [returned] at policy
    rw [run]
    exact policy.openedAt List.countP_nil listed

end Unlocking

namespace Repository

open Edit Unlocking

variable {info : InfoFile} {index : Nat} {entry : KeyEntry} {target : FactorId}
  {before : Session σ}

theorem position?_eq_none_iff {keys : List KeyEntry} :
    position? keys target = none ↔ ¬ target.Names keys := by
  cases target with
  | recipient id =>
    rw [position?, List.findIdx?_eq_none_iff]
    constructor
    · rintro unknown ⟨member, same⟩
      have := unknown _ member
      simp [KeyEntry.isRecipient, same] at this
    · intro unnamed key member
      cases key with
      | passphrase entry => rfl
      | asymmetric entry =>
        rw [KeyEntry.isRecipient, ← Bool.not_eq_true]
        exact fun same => unnamed (.recipient member same)
  | passphrase index =>
    simp only [position?]
    split
    · next entry stored => simpa using FactorId.Names.passphrase stored
    · next other =>
      refine iff_of_true rfl fun named => ?_
      cases named with
      | passphrase stored => exact other _ stored
  | legacy =>
    refine iff_of_true rfl fun named => ?_
    cases named

private theorem exists_of_position? {keys : List KeyEntry}
    (found : position? keys target = some index) :
    ∃ entry, keys[index]? = some entry := by
  cases target with
  | recipient id =>
    obtain ⟨bound, -⟩ := List.findIdx?_eq_some_iff_getElem.mp found
    exact ⟨_, List.getElem?_eq_getElem bound⟩
  | passphrase position =>
    simp only [position?] at found
    split at found
    · next entry stored =>
      cases found
      exact ⟨_, stored⟩
    · cases found
  | legacy => cases found

/-- Under the name by which unlocking reports it an entry is found at its position. -/
theorem position?_factor
    (distinct : info.recipients.Pairwise fun left right => Text.equalFold left right = false)
    (stored : info.keys[index]? = some entry) :
    position? info.keys (entry.factor index) = some index := by
  cases entry with
  | passphrase entry => simp [KeyEntry.factor, position?, stored]
  | asymmetric entry =>
    obtain ⟨bound, at_⟩ := List.getElem?_eq_some_iff.mp stored
    refine List.findIdx?_eq_some_iff_getElem.mpr ⟨bound, ?_, ?_⟩
    · rw [at_]
      simp [KeyEntry.isRecipient, Text.equalFold]
    · intro earlier below
      cases key : info.keys[earlier] with
      | passphrase other => simp [KeyEntry.isRecipient]
      | asymmetric other =>
        have otherStored : info.keys[earlier]? = some (.asymmetric other) := by
          rw [List.getElem?_eq_getElem (by omega), key]
        simp [KeyEntry.isRecipient, InfoFile.equalFold_eq_false_of_distinct distinct
          (Nat.ne_of_lt below) otherStored stored]

/-- Once a recipient is removed, no entry is left for it in any letter case. -/
theorem hasRecipient_eraseIdx
    (distinct : info.recipients.Pairwise fun left right => Text.equalFold left right = false)
    {entry : AsymmetricEntry} (stored : info.keys[index]? = some (.asymmetric entry))
    {id : String} (same : Text.equalFold entry.recipientId id = true) :
    ({ info with keys := info.keys.eraseIdx index } : InfoFile).hasRecipient id = false := by
  rw [← Bool.not_eq_true, InfoFile.hasRecipient_iff]
  rintro ⟨other, member, otherSame⟩
  obtain ⟨position, apart, otherStored⟩ := List.mem_eraseIdx_iff_getElem?.mp member
  have differ := InfoFile.equalFold_eq_false_of_distinct distinct apart otherStored stored
  simp only [Text.equalFold, beq_iff_eq] at same otherSame differ
  simp [same, otherSame] at differ

private theorem stops_removeFactor_unnamed (unnamed : ¬ target.Names before.info.keys) :
    (removeFactor target).Stops before (.failed (.factorNotFound target.shown)) before := by
  refine stops_bind.mpr (.inr ⟨before.info, before, returns_info.mpr ⟨rfl, rfl⟩, ?_⟩)
  rw [position?_eq_none_iff.mpr unnamed]
  rfl

private theorem stops_removeFactor_last (named : target.Names before.info.keys)
    (last : before.info.factorCount ≤ 1) :
    (removeFactor target).Stops before (.failed .lastFactor) before := by
  refine stops_bind.mpr (.inr ⟨before.info, before, returns_info.mpr ⟨rfl, rfl⟩, ?_⟩)
  cases found : position? before.info.keys target with
  | none => exact absurd named (position?_eq_none_iff.mp found)
  | some index =>
    obtain ⟨entry, stored⟩ := exists_of_position? found
    simp only [stored, if_pos last]
    rfl

/-- What unlocking reports names the entry that it opened: when there are further factors, removing
under that name returns this entry and leaves all others in order, and a recipient that is removed
is gone in every letter case.  Any other name is refused, and so is the removal of the only
factor; then nothing changes. -/
theorem removeFactor_unlocking (primitives : Primitives σ) (source : PassphraseSource σ) (host : σ)
    (info : InfoFile)
    (distinct : info.recipients.Pairwise fun left right => Text.equalFold left right = false) :
    (∀ unlocked made, Succeeded info primitives source host unlocked made →
      unlocked.factor ≠ .legacy → 2 ≤ info.factorCount →
      (∃ index entry, OpenedAt info.keys unlocked.masterKey made index entry) ∧
      ∀ index entry, OpenedAt info.keys unlocked.masterKey made index entry →
        let rest : InfoFile := { info with keys := info.keys.eraseIdx index }
        (∀ session : σ, (removeFactor unlocked.factor).Returns ⟨info, session⟩ entry
          ⟨rest, session⟩) ∧
        ∀ id, unlocked.factor = .recipient id →
          ∀ spelling, Text.equalFold spelling id = true → rest.hasRecipient spelling = false) ∧
    (∀ (target : FactorId) (session : σ), target = .legacy ∨ ¬ target.Names info.keys →
      (removeFactor target).Stops ⟨info, session⟩ (.failed (.factorNotFound target.shown))
        ⟨info, session⟩) ∧
    (∀ (target : FactorId) (session : σ), target.Names info.keys → info.factorCount ≤ 1 →
      (removeFactor target).Stops ⟨info, session⟩ (.failed .lastFactor) ⟨info, session⟩) := by
  refine ⟨?_, ?_, ?_⟩
  · intro unlocked made succeeded listed several
    obtain ⟨index, entry, opened, named⟩ := succeeded.openedAt listed
    refine ⟨⟨index, entry, opened⟩, ?_⟩
    intro position found foundOpened rest
    obtain rfl := opened.index_eq foundOpened
    cases opened.stored.symm.trans foundOpened.stored
    refine ⟨?_, ?_⟩
    · intro session
      rw [named]
      exact returns_removeFactor.mpr ⟨index, position?_factor distinct opened.stored,
        opened.stored, several, rfl⟩
    · intro id recipient spelling same
      cases entry with
      | passphrase entry => cases named.symm.trans recipient
      | asymmetric entry =>
        cases named.symm.trans recipient
        rw [Text.equalFold_comm] at same
        exact hasRecipient_eraseIdx distinct opened.stored same
  · rintro target session (rfl | unnamed)
    · exact stops_removeFactor_unnamed nofun
    · exact stops_removeFactor_unnamed unnamed
  · intro target session named last
    exact stops_removeFactor_last named last

/-- Of a shared file, what the recipient or the second passphrase unlocks is removed under the
reported name, and what the recipient unlocks in no letter case stays. -/
theorem removeFactor_unlocking_shared :
    let file := Transparent.sharedFile "old" "backup"
    let key := Transparent.oldKey "old"
    let blocks := Transparent.blocks ⟨.standard, ["ab12"]⟩
    (unlock file blocks (.stored none)).Returns 0 ⟨key, .recipient "ab12"⟩ 0 ∧
    (withPassphrase file "backup" blocks).Returns 0 ⟨key, .passphrase 1⟩ 0 ∧
    (∃ entry, (removeFactor (.recipient "ab12")).Returns ⟨file, 0⟩ (.asymmetric entry)
      ⟨{ file with keys := file.keys.eraseIdx 0 }, 0⟩) ∧
    ({ file with keys := file.keys.eraseIdx 0 } : InfoFile).hasRecipient "AB12" = false ∧
    (∃ entry, (removeFactor (.passphrase 1)).Returns ⟨file, 0⟩ (.passphrase entry)
      ⟨{ file with keys := file.keys.eraseIdx 1 }, 0⟩) ∧
    (removeFactor (.passphrase 0)).Stops ⟨file, 0⟩ (.failed (.factorNotFound "passphrase:0"))
      ⟨file, 0⟩ := by
  intro file key blocks
  have silent : (unlock file blocks (.stored none)).Returns 0 ⟨key, .recipient "ab12"⟩ 0 := rfl
  have second : (withPassphrase file "backup" blocks).Returns 0 ⟨key, .passphrase 1⟩ 0 := rfl
  obtain ⟨removes, refuses, -⟩ := removeFactor_unlocking blocks (.stored none) 0 file
    (List.pairwise_singleton _ _)
  obtain ⟨-, recipient⟩ := removes _ _ (.unlock silent) nofun (by decide)
  obtain ⟨removed, gone⟩ := recipient 0 _ (.asymmetric rfl rfl rfl rfl)
  obtain ⟨-, passphrase⟩ := removes _ _ (.withPassphrase second) nofun (by decide)
  obtain ⟨removedSecond, -⟩ := passphrase 1 _ (.passphrase rfl rfl rfl)
  refine ⟨silent, second, ⟨_, removed 0⟩, gone "ab12" rfl "AB12" (by decide), ⟨_, removedSecond 0⟩,
    refuses (.passphrase 0) 0 (.inr ?_)⟩
  intro named
  cases named with
  | passphrase stored => cases stored

end Repository

end Keywarden
