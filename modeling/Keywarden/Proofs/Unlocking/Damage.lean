import Keywarden.Proofs.Repository.Migration
import Keywarden.Proofs.Unlocking.Policy
import Keywarden.Proofs.Unlocking.Refusal

/-!
# Damage to one wrapped key

What happens to unlocking when the wrapped key of one entry is replaced by other bytes.  A
passphrase notices it only where its search ends with a match at that entry, and is then given
what the new bytes unwrap to, or the reason why they do not.  A damaged asymmetric entry that stays
closed is passed over, as if it were not in the list.
-/

namespace Keywarden

open Keywarden.Action

variable {σ : Type} {primitives : Primitives σ}

/-- The file with another wrapped key in the entry at a position. -/
def InfoFile.rewrapped (info : InfoFile) (index : Nat) (blob : Bytes) : InfoFile :=
  { info with keys := info.keys.modify index (KeyEntry.withWrappedKey blob) }

/-- The position that an entry had before the one at `index` was taken out of the list. -/
def earlierPosition (index position : Nat) : Nat :=
  if position < index then position else position + 1

def FactorId.renumbered (count : Nat → Nat) : FactorId → FactorId
  | .passphrase position => .passphrase (count position)
  | .recipient id => .recipient id
  | .legacy => .legacy

/-- What was unlocked, under the other name. -/
def Unlocked.renumbered (count : Nat → Nat) (unlocked : Unlocked) : Unlocked :=
  { unlocked with factor := unlocked.factor.renumbered count }

/-- What an answer to unwrapping comes to: a payload of 32 bytes is the master key, and everything
else is reported. -/
def Unlocked.ofAnswer (factor : FactorId) : Except Stop Bytes → Except Stop Unlocked
  | .error stop => .error stop
  | .ok payload =>
    match MasterKey.ofPayload payload with
    | .ok masterKey => .ok ⟨masterKey, factor⟩
    | .error failure => .error (.failed failure)

namespace InfoFile

variable {info : InfoFile} {index : Nat} {key : KeyEntry}

/-- The list around an entry. -/
theorem keys_around (stored : info.keys[index]? = some key) :
    ∃ front back, front.length = index ∧ info.keys.take index = front ∧
      info.keys = front ++ key :: back ∧ info.keys.eraseIdx index = front ++ back ∧
      ∀ blob, (info.rewrapped index blob).keys = front ++ key.withWrappedKey blob :: back := by
  obtain ⟨bound, rfl⟩ := List.getElem?_eq_some_iff.mp stored
  refine ⟨info.keys.take index, info.keys.drop (index + 1), ?_, rfl, ?_, ?_, ?_⟩
  · rw [List.length_take]
    omega
  · simp
  · exact List.eraseIdx_eq_take_drop_succ _ _
  · intro blob
    simp [rewrapped, List.modify_eq_take_cons_drop bound]

private theorem passphrasesFrom_succ (start : Nat) (keys : List KeyEntry) :
    passphrasesFrom (start + 1) keys =
      (passphrasesFrom start keys).map fun numbered => (numbered.1 + 1, numbered.2) := by
  induction keys generalizing start with
  | nil => rfl
  | cons key rest ih => cases key <;> simp [passphrasesFrom, ih]

/-- Taking an asymmetric entry out changes no passphrase entry but its position. -/
theorem passphrases_eraseIdx {entry : AsymmetricEntry}
    (stored : info.keys[index]? = some (.asymmetric entry)) :
    info.passphrases = ({ info with keys := info.keys.eraseIdx index } : InfoFile).passphrases.map
      fun numbered => (earlierPosition index numbered.1, numbered.2) := by
  obtain ⟨front, back, length, -, around, erased, -⟩ := keys_around stored
  change passphrasesFrom 0 info.keys = (passphrasesFrom 0 (info.keys.eraseIdx index)).map _
  rw [erased, around, passphrasesFrom_append, passphrasesFrom_append, List.map_append]
  congr 1
  · refine (List.map_id _).symm.trans (List.map_congr_left fun numbered member => ?_)
    obtain ⟨-, present⟩ := mem_passphrasesFrom.mp member
    obtain ⟨bound, -⟩ := List.getElem?_eq_some_iff.mp present
    simp [earlierPosition, ← length, show numbered.1 < front.length by omega]
  · rw [passphrasesFrom, passphrasesFrom_succ]
    refine List.map_congr_left fun numbered member => ?_
    obtain ⟨behind, -⟩ := mem_passphrasesFrom.mp member
    simp [earlierPosition, ← length, show ¬ numbered.1 < front.length by omega]

/-- The passphrase entries around one of them. -/
theorem passphrases_around {entry : PassphraseEntry}
    (stored : info.keys[index]? = some (.passphrase entry)) :
    ∃ back, info.passphrases =
        passphrasesFrom 0 (info.keys.take index) ++ (index, entry) :: back ∧
      ∀ blob, (info.rewrapped index blob).passphrases =
        passphrasesFrom 0 (info.keys.take index) ++
          (index, { entry with wrappedKey := blob }) :: back := by
  obtain ⟨front, back, rfl, before, around, -, rewrapped⟩ := keys_around stored
  refine ⟨passphrasesFrom (front.length + 1) back, ?_, fun blob => ?_⟩
  · rw [before, passphrases, around, passphrasesFrom_append, Nat.zero_add]
    rfl
  · rw [before, passphrases, rewrapped, passphrasesFrom_append, Nat.zero_add]
    rfl

/-- The passphrase entries do not see another wrapped key in an asymmetric entry. -/
theorem passphrases_rewrapped {entry : AsymmetricEntry}
    (stored : info.keys[index]? = some (.asymmetric entry)) (blob : Bytes) :
    (info.rewrapped index blob).passphrases = info.passphrases := by
  obtain ⟨front, back, -, -, around, -, rewrapped⟩ := keys_around stored
  rw [passphrases, rewrapped, passphrases, around, passphrasesFrom_append, passphrasesFrom_append]
  rfl

private theorem passphrases_rewrapped_eraseIdx {entry : AsymmetricEntry}
    (stored : info.keys[index]? = some (.asymmetric entry)) (blob : Bytes) :
    (info.rewrapped index blob).passphrases =
      ({ info with keys := info.keys.eraseIdx index } : InfoFile).passphrases.map
        fun numbered => (earlierPosition index numbered.1, numbered.2) := by
  rw [passphrases_rewrapped stored, passphrases_eraseIdx stored]

/-- The asymmetric entries around one of them, and without it. -/
theorem asymmetrics_around {entry : AsymmetricEntry}
    (stored : info.keys[index]? = some (.asymmetric entry)) :
    ∃ front back,
      ({ info with keys := info.keys.eraseIdx index } : InfoFile).asymmetrics = front ++ back ∧
      ∀ blob, (info.rewrapped index blob).asymmetrics =
        front ++ { entry with wrappedKey := blob } :: back := by
  obtain ⟨front, back, -, -, -, erased, rewrapped⟩ := keys_around stored
  refine ⟨front.filterMap KeyEntry.asymmetric?, back.filterMap KeyEntry.asymmetric?, ?_,
    fun blob => ?_⟩
  · rw [asymmetrics, erased, List.filterMap_append]
  · rw [asymmetrics, rewrapped, List.filterMap_append]
    rfl

end InfoFile

namespace Unlocking

private theorem tryPassphrases_map (primitives : Primitives σ) (passphrase : Bytes)
    (count : Nat → Nat) (entries : List (Nat × PassphraseEntry)) :
    tryPassphrases primitives passphrase
        (entries.map fun numbered => (count numbered.1, numbered.2)) =
      Option.map (Unlocked.renumbered count) <$> tryPassphrases primitives passphrase entries := by
  induction entries with
  | nil => rfl
  | cons head rest ih =>
    obtain ⟨index, entry⟩ := head
    simp only [List.map_cons, tryPassphrases, map_bind]
    congr 1
    funext derived
    obtain ⟨key, hash⟩ := derived
    by_cases accepted : hash.accepts entry.confirmationHash = true
    · simp only [if_pos accepted, map_bind, map_pure]
      rfl
    · simp only [if_neg accepted]
      exact ih

/-- Unlocking with a passphrase sees positions in the names of factors alone. -/
theorem withPassphrase_renumbered {info counted : InfoFile} {count : Nat → Nat}
    (same : counted.passphrases =
      info.passphrases.map fun numbered => (count numbered.1, numbered.2))
    (legacy : counted.legacyPassphrase? = info.legacyPassphrase?) (passphrase : String) :
    withPassphrase counted passphrase primitives =
      Unlocked.renumbered count <$> withPassphrase info passphrase primitives := by
  dsimp only [withPassphrase, legacyMasterKey]
  rw [same, legacy, tryPassphrases_map, bind_map_left, map_bind]
  congr 1
  funext found
  cases found with
  | some unlocked => rfl
  | none =>
    simp only [Option.map_none, map_bind]
    congr 1
    funext derived
    cases derived <;> rfl

/-! ### Damage to a passphrase entry -/

/-- The search for a passphrase ends with a match at a position: the hash of the entry there is
met, and the entries before it have other hashes. -/
structure MetAt (primitives : Primitives σ) (passphrase : Bytes) (keys : List KeyEntry)
    (index : Nat) (entry : PassphraseEntry) (key : WrappingKey) (hash : ConfirmationHash) :
    Prop where
  stored : keys[index]? = some (.passphrase entry)
  unmet : ∀ position other, position < index → keys[position]? = some (.passphrase other) →
    Unmet primitives passphrase other.salt other.cost other.confirmationHash
  derived : (primitives.deriveKey passphrase entry.salt entry.cost).Answers (.ok (key, hash))
  met : hash.bytes = entry.confirmationHash

section Passphrase

variable {passphrase : Bytes} {info : InfoFile} {index : Nat} {entry : PassphraseEntry}
  {key : WrappingKey} {hash : ConfirmationHash} {blob : Bytes}

/-- A search without a result derived another hash for every entry. -/
theorem unmet_of_returns_tryPassphrases_none
    (repeatable : Primitives.Repeatable fun _ : Unit => primitives)
    {entries : List (Nat × PassphraseEntry)} {before after : σ}
    (returned : (tryPassphrases primitives passphrase entries).Returns before none after) :
    ∀ index entry, (index, entry) ∈ entries →
      Unmet primitives passphrase entry.salt entry.cost entry.confirmationHash := by
  induction entries generalizing before with
  | nil => simp
  | cons head rest ih =>
    obtain ⟨position, first⟩ := head
    obtain ⟨⟨key, hash⟩, between, derived, returned⟩ := returns_bind.mp returned
    by_cases accepted : hash.accepts first.confirmationHash = true
    · simp only [if_pos accepted] at returned
      obtain ⟨payload, unwrapped, -, returned⟩ := returns_bind.mp returned
      obtain ⟨masterKey, read, -, returned⟩ := returns_bind.mp returned
      cases (returns_pure.mp returned).1
    · simp only [if_neg accepted] at returned
      intro index entry member
      rcases List.mem_cons.mp member with here | later
      · cases here
        intro state
        have answers := (repeatable.derives passphrase first.salt first.cost).answers_of_yields ()
          derived.yields ()
        exact ⟨key, hash, _, Prod.ext (answers state) rfl,
          fun met => accepted ((hash.accepts_iff _).mpr met)⟩
      · exact ih returned index entry later

/-- Another wrapped key makes no difference where the hash is not met. -/
theorem tryPassphrases_rewrapped_eq (back : List (Nat × PassphraseEntry)) {state : σ}
    (other : ∀ key hash after,
      (primitives.deriveKey passphrase entry.salt entry.cost).Returns state (key, hash) after →
        hash.bytes ≠ entry.confirmationHash) :
    tryPassphrases primitives passphrase
        ((index, { entry with wrappedKey := blob }) :: back) state =
      tryPassphrases primitives passphrase ((index, entry) :: back) state := by
  refine bind_congr_returns fun derived after returned => ?_
  obtain ⟨key, hash⟩ := derived
  have refused := ConfirmationHash.accepts_eq_false.mpr (other key hash after returned)
  simp only [refused, Bool.false_eq_true, if_false]

/-- A passphrase whose search does not end with a match at an entry never learns what became of
the wrapped key there. -/
theorem withPassphrase_rewrapped_eq
    (repeatable : Primitives.Repeatable fun _ : Unit => primitives)
    (stored : info.keys[index]? = some (.passphrase entry)) {passphrase : String}
    (elsewhere : ∀ key hash, ¬ MetAt primitives (Bytes.ofString passphrase) info.keys index entry
      key hash) (blob : Bytes) (host : σ) :
    withPassphrase (info.rewrapped index blob) passphrase primitives host =
      withPassphrase info passphrase primitives host := by
  obtain ⟨back, around, rewrapped⟩ := InfoFile.passphrases_around stored
  refine bind_congr_run ?_ _
  rw [around, rewrapped, tryPassphrases_append, tryPassphrases_append]
  refine bind_congr_returns fun found between returned => ?_
  cases found with
  | some unlocked => rfl
  | none =>
    have unmet := unmet_of_returns_tryPassphrases_none repeatable returned
    refine tryPassphrases_rewrapped_eq back fun key hash after derived met => ?_
    refine elsewhere key hash ⟨stored, ?_, ?_, met⟩
    · intro position other below present
      refine unmet position other (InfoFile.mem_passphrasesFrom.mpr ⟨Nat.zero_le _, ?_⟩)
      rw [Nat.sub_zero, List.getElem?_take_of_lt below, present]
    · exact (repeatable.derives _ _ _).answers_of_yields () derived.yields ()

private theorem observes_unmet {salt stored : Bytes} {cost : DerivationCost}
    (unmet : Unmet primitives passphrase salt cost stored) :
    Observes (primitives.deriveKey passphrase salt cost)
      (primitives.observed.deriveKey passphrase salt cost) fun added outcome =>
        ∃ key hash, hash.bytes ≠ stored ∧ outcome = .ok (key, hash) ∧
          added = [.deriveKey passphrase salt cost (.ok (key, hash))] := by
  intro host earlier
  obtain ⟨key, hash, after, returned, other⟩ := unmet host
  obtain ⟨added, run, rfl⟩ := observes_observed (Exchange.deriveKey passphrase salt cost)
    (primitives.deriveKey passphrase salt cost) host earlier
  refine ⟨_, run, key, hash, other, ?_, ?_⟩ <;> rw [returned]

private theorem observes_answered {α : Type} {action : Action σ α} {outcome : Except Stop α}
    (answers : action.Answers outcome) (exchange : Except Stop α → Exchange) :
    Observes action (action.observed exchange) fun added found =>
      found = outcome ∧ added = [exchange outcome] := by
  intro host earlier
  obtain ⟨added, run, rfl⟩ := observes_observed exchange action host earlier
  exact ⟨_, run, answers host, by rw [answers host]⟩

/-- A search that ends with a match tries no other entry behind the match, and comes to what the
wrapped key there unwraps to. -/
theorem observes_tryPassphrases_met {start : Nat} {front : List KeyEntry}
    {back : List (Nat × PassphraseEntry)} {answer : Except Stop Bytes}
    (unmet : ∀ other, .passphrase other ∈ front →
      Unmet primitives passphrase other.salt other.cost other.confirmationHash)
    (derived : (primitives.deriveKey passphrase entry.salt entry.cost).Answers (.ok (key, hash)))
    (met : hash.bytes = entry.confirmationHash)
    (answered : (primitives.unwrap key blob).Answers answer) :
    let entries := InfoFile.passphrasesFrom start front ++
      (index, { entry with wrappedKey := blob }) :: back
    Observes (tryPassphrases primitives passphrase entries)
      (tryPassphrases primitives.observed passphrase entries) fun added outcome =>
        outcome = (Unlocked.ofAnswer (.passphrase index) answer).map some ∧
          ∃ passed, List.Forall₂ (Declined passphrase)
              (front.filterMap KeyEntry.passphrase?) passed ∧
            added = passed ++ [.deriveKey passphrase entry.salt entry.cost (.ok (key, hash)),
              .unwrap key blob answer] := by
  induction front generalizing start with
  | nil =>
    intro entries
    apply (observes_answered derived _).bind
    · rintro added stop ⟨impossible, -⟩
      cases impossible
    rintro added _ ⟨⟨⟩, rfl⟩
    simp only [if_pos ((hash.accepts_iff _).mpr met)]
    apply (observes_answered answered _).bind
    · rintro added stop ⟨rfl, rfl⟩
      exact ⟨rfl, [], .nil, rfl⟩
    rintro added payload ⟨rfl, rfl⟩
    rcases MasterKey.ofPayload_cases payload with ⟨masterKey, rfl, read⟩ | ⟨length, read⟩
    · rw [read]
      apply (observes_pure _).weaken
      rintro added outcome ⟨rfl, rfl⟩
      exact ⟨by rw [Unlocked.ofAnswer, read]; rfl, [], .nil, rfl⟩
    · rw [read]
      apply (observes_fail _).weaken
      rintro added outcome ⟨rfl, rfl⟩
      exact ⟨by rw [Unlocked.ofAnswer, read]; rfl, [], .nil, rfl⟩
  | cons first rest ih =>
    have later := @ih (start + 1) fun other member => unmet other (List.mem_cons_of_mem _ member)
    cases first with
    | asymmetric other => exact later
    | passphrase other =>
      intro entries
      apply (observes_unmet (unmet other List.mem_cons_self)).bind
      · rintro added stop ⟨otherKey, otherHash, -, impossible, -⟩
        cases impossible
      rintro added _ ⟨otherKey, otherHash, differs, ⟨⟩, rfl⟩
      simp only [ConfirmationHash.accepts_eq_false.mpr differs, Bool.false_eq_true, if_false]
      apply later.weaken
      rintro added outcome ⟨same, passed, declined, rfl⟩
      exact ⟨same, _ :: passed, .cons (.declined differs) declined, rfl⟩

private theorem observes_withPassphrase_met {passphrase : String} {answer : Except Stop Bytes}
    (metAt : MetAt primitives (Bytes.ofString passphrase) info.keys index entry key hash)
    (answered : (primitives.unwrap key blob).Answers answer) :
    Observes (withPassphrase (info.rewrapped index blob) passphrase primitives)
      (withPassphrase (info.rewrapped index blob) passphrase primitives.observed)
      fun added outcome => outcome = Unlocked.ofAnswer (.passphrase index) answer ∧
        ∃ passed, List.Forall₂ (Declined (Bytes.ofString passphrase))
            ((info.keys.take index).filterMap KeyEntry.passphrase?) passed ∧
          added = passed ++
            [.deriveKey (Bytes.ofString passphrase) entry.salt entry.cost (.ok (key, hash)),
              .unwrap key blob answer] := by
  obtain ⟨back, -, rewrapped⟩ := InfoFile.passphrases_around metAt.stored
  have unmet : ∀ other, .passphrase other ∈ info.keys.take index →
      Unmet primitives (Bytes.ofString passphrase) other.salt other.cost
        other.confirmationHash := by
    intro other member
    obtain ⟨position, bound, present⟩ := List.mem_take_iff_getElem.mp member
    refine metAt.unmet position other (by omega) ?_
    rw [List.getElem?_eq_getElem (by omega), present]
  unfold withPassphrase
  simp only [rewrapped]
  apply (observes_tryPassphrases_met unmet metAt.derived metAt.met answered).bind
  · rintro added stop ⟨same, tried⟩
    refine ⟨?_, tried⟩
    generalize Unlocked.ofAnswer (.passphrase index) answer = result at same ⊢
    cases result <;> cases same
    rfl
  · rintro added found ⟨same, passed, declined, rfl⟩
    generalize Unlocked.ofAnswer (.passphrase index) answer = result at same ⊢
    cases result <;> cases same
    apply (observes_pure _).weaken
    rintro added outcome ⟨rfl, rfl⟩
    exact ⟨rfl, passed, declined, List.append_nil _⟩

end Passphrase

/-! ### Damage to an asymmetric entry -/

/-- As many passphrases were asked for, and the states behind the record look the same. -/
def AskedAlike {γ : Type} (view : σ → γ) (first second : Observed σ) : Prop :=
  first.exchanges.countP Exchange.asks = second.exchanges.countP Exchange.asks ∧
    view first.host = view second.host

section Asymmetric

variable {γ : Type} {view : σ → γ} {info : InfoFile} {index : Nat}

theorem respects_observed {α : Type} {action : Action σ α}
    (uniform : Uniform fun _ : Unit => action) (keeps : action.Keeps view)
    {exchange : Except Stop α → Exchange} (silent : ∀ answer, (exchange answer).asks = false) :
    (action.observed exchange).Respects (AskedAlike view) := by
  obtain ⟨outcome, answers⟩ := uniform
  rintro first second ⟨asked, same⟩
  refine ⟨(answers () first.host).trans (answers () second.host).symm, ?_, ?_⟩
  · change (first.exchanges ++ [_]).countP _ = (second.exchanges ++ [_]).countP _
    simp [List.countP_append, silent, asked]
  · exact (keeps first.host).trans (same.trans (keeps second.host).symm)

theorem alike_tryAsymmetric_cons {related : σ → σ → Prop} {entry : AsymmetricEntry}
    {left right : List AsymmetricEntry}
    (respects : (primitives.asymmetricUnwrap entry.wrappedKey).Respects related)
    (rest : Alike related related (tryAsymmetric primitives left)
      (tryAsymmetric primitives right)) :
    Alike related related (tryAsymmetric primitives (entry :: left))
      (tryAsymmetric primitives (entry :: right)) := by
  refine respects.attempt.bind (fun _ _ states => states) fun attempted => ?_
  cases attempted with
  | error failure => exact rest
  | ok opened =>
    dsimp only
    split
    · exact (inherited_respects related).pure _
    · exact rest

private theorem respects_tryAsymmetric {related : σ → σ → Prop} (entries : List AsymmetricEntry)
    (respects : ∀ blob, (primitives.asymmetricUnwrap blob).Respects related) :
    (tryAsymmetric primitives entries).Respects related := by
  induction entries with
  | nil => exact (inherited_respects related).pure none
  | cons entry rest ih => exact alike_tryAsymmetric_cons (respects entry.wrappedKey) ih

/-- Trying an entry that stays closed leads to where trying the entries behind it leads. -/
theorem alike_tryAsymmetric_closed {entry : AsymmetricEntry} {rest : List AsymmetricEntry}
    (closed : StaysClosed primitives entry.wrappedKey)
    (keeps : (primitives.asymmetricUnwrap entry.wrappedKey).Keeps view)
    (respects : (tryAsymmetric primitives.observed rest).Respects (AskedAlike view)) :
    Alike (AskedAlike view) (AskedAlike view) (tryAsymmetric primitives.observed (entry :: rest))
      (tryAsymmetric primitives.observed rest) := by
  rintro ⟨host, earlier⟩ second ⟨asked, same⟩
  have passed {after : σ} (answer : Except Stop Opened)
      (ran : primitives.asymmetricUnwrap entry.wrappedKey host = (answer, after)) :
      AskedAlike view ⟨after, earlier ++ [.asymmetricUnwrap entry.wrappedKey answer]⟩ second := by
    refine ⟨?_, ?_⟩
    · simpa [List.countP_append, Exchange.asks] using asked
    · rw [← same, ← keeps host, ran]
  rcases closed host with ⟨failure, after, stopped⟩ | ⟨opened, after, returned, wrongLength⟩
  · have unwrapped : (attempt (primitives.observed.asymmetricUnwrap entry.wrappedKey)).Returns
        ⟨host, earlier⟩ (.error failure)
        ⟨after, earlier ++ [.asymmetricUnwrap entry.wrappedKey (.error (.failed failure))]⟩ :=
      returns_attempt.mpr (stopped.observed _ earlier)
    rw [tryAsymmetric, unwrapped.bind_eq]
    exact respects _ _ (passed _ stopped)
  · have unwrapped : (attempt (primitives.observed.asymmetricUnwrap entry.wrappedKey)).Returns
        ⟨host, earlier⟩ (.ok opened)
        ⟨after, earlier ++ [.asymmetricUnwrap entry.wrappedKey (.ok opened)]⟩ :=
      returns_attempt.mpr (returned.observed _ earlier)
    rw [tryAsymmetric, unwrapped.bind_eq]
    simp only [MasterKey.ofPayload, wrongLength, dite_false]
    exact respects _ _ (passed _ returned)

private theorem alike_tryAsymmetric_around {entry : AsymmetricEntry} (front : List AsymmetricEntry)
    {back : List AsymmetricEntry} (closed : StaysClosed primitives entry.wrappedKey)
    (opens : ∀ blob, Uniform fun _ : Unit => primitives.asymmetricUnwrap blob)
    (keeps : ∀ blob, (primitives.asymmetricUnwrap blob).Keeps view) :
    Alike (AskedAlike view) (AskedAlike view)
      (tryAsymmetric primitives.observed (front ++ entry :: back))
      (tryAsymmetric primitives.observed (front ++ back)) := by
  have respects (blob : Bytes) :
      (primitives.observed.asymmetricUnwrap blob).Respects (AskedAlike view) :=
    respects_observed (opens blob) (keeps blob) fun _ => rfl
  induction front with
  | nil =>
    exact alike_tryAsymmetric_closed closed (keeps _) (respects_tryAsymmetric back respects)
  | cons first rest ih => exact alike_tryAsymmetric_cons (respects first.wrappedKey) ih

/-- The source answers alike where it looks alike, and one more passphrase was asked for. -/
theorem alike_acquire (source : PassphraseSource σ) :
    Alike (AskedAlike fun state => (source.acquire state).1) (AskedAlike fun _ => ())
      source.observed.acquire source.observed.acquire := by
  rintro first second ⟨asked, same⟩
  refine ⟨same, ?_, rfl⟩
  change (first.exchanges ++ [_]).countP _ = (second.exchanges ++ [_]).countP _
  simp [List.countP_append, Exchange.asks, asked]

/-- With an entry that stays closed in an info file, unlocking goes as without it. -/
theorem alike_unlock_rewrapped {source : PassphraseSource σ} {entry : AsymmetricEntry}
    {blob : Bytes} (functional : Primitives.Functional fun _ : Unit => primitives)
    (stored : info.keys[index]? = some (.asymmetric entry)) (closed : StaysClosed primitives blob)
    (undisturbed : ∀ blob, (primitives.asymmetricUnwrap blob).Keeps fun state =>
      (source.acquire state).1) :
    Alike (AskedAlike fun state => (source.acquire state).1) (AskedAlike fun _ => ())
      (unlock (info.rewrapped index blob) primitives.observed source.observed)
      (Unlocked.renumbered (earlierPosition index) <$>
        unlock { info with keys := info.keys.eraseIdx index } primitives.observed
          source.observed) := by
  obtain ⟨front, back, erased, rewrapped⟩ := InfoFile.asymmetrics_around stored
  have sameAsked : ∀ first second : Observed σ,
      AskedAlike (fun state => (source.acquire state).1) first second →
        AskedAlike (fun _ => ()) first second := fun _ _ states => ⟨states.1, rfl⟩
  have searching : primitives.observed.Searching fun action =>
      action.Respects (AskedAlike fun _ : σ => ()) :=
    { inherited_respects (AskedAlike fun _ : σ => ()) with
      deriveKey := fun passphrase salt cost =>
        respects_observed (functional.derives passphrase salt cost) (fun _ => rfl) fun _ => rfl
      unwrap := fun key blob =>
        respects_observed (functional.unwraps key blob) (fun _ => rfl) fun _ => rfl
      asymmetricUnwrap := fun blob =>
        respects_observed (functional.opens () blob) (fun _ => rfl) fun _ => rfl }
  unfold unlock
  rw [map_bind, erased, rewrapped]
  refine (alike_tryAsymmetric_around front closed (functional.opens ()) undisturbed).bind_yields
    sameAsked fun found yields => ?_
  cases found with
  | some unlocked =>
    obtain ⟨before, after, returned⟩ := yields
    obtain ⟨other, -, -, named⟩ := of_returns_tryAsymmetric returned
    obtain ⟨masterKey, factor⟩ := unlocked
    obtain rfl : factor = _ := named
    exact fun first second states => ⟨rfl, sameAsked first second states⟩
  | none =>
    dsimp only
    rw [map_bind]
    refine (alike_acquire source).bind (fun _ _ states => states) fun passphrase => ?_
    rw [withPassphrase_renumbered (InfoFile.passphrases_rewrapped_eraseIdx stored blob) rfl]
    rw [map_eq_pure_bind]
    exact searching.bind (holds_withPassphrase searching _ passphrase) fun _ => searching.pure _

end Asymmetric

/-- Damage to one wrapped key is contained.

A passphrase whose search does not end with a match at the damaged entry unlocks or fails as
before.  Where the search does end there, the outcome is what the new bytes unwrap to, and after
the entries before it no other entry is tried.

Damage to an asymmetric entry is nothing to a passphrase.  If the entry stays closed, unlocking
asks as often and has the same outcome as without the entry, except that an entry behind it is
named by the position that it has with the damaged one still in the list. -/
theorem rewrapped_contained (primitives : Primitives σ)
    (functional : Primitives.Functional fun _ : Unit => primitives) (info : InfoFile)
    (index : Nat) (blob : Bytes) :
    (∀ entry, info.keys[index]? = some (.passphrase entry) → ∀ passphrase,
      let bytes := Bytes.ofString passphrase
      ((∀ key hash, ¬ MetAt primitives bytes info.keys index entry key hash) →
        ∀ host, withPassphrase (info.rewrapped index blob) passphrase primitives host =
          withPassphrase info passphrase primitives host) ∧
      ∀ key hash, MetAt primitives bytes info.keys index entry key hash →
        ∃ answer, (primitives.unwrap key blob).Answers answer ∧ ∀ host,
          let (outcome, final) :=
            withPassphrase (info.rewrapped index blob) passphrase primitives.observed ⟨host, []⟩
          withPassphrase (info.rewrapped index blob) passphrase primitives host =
              (outcome, final.host) ∧
            outcome = Unlocked.ofAnswer (.passphrase index) answer ∧
            ∃ passed, List.Forall₂ (Declined bytes)
                ((info.keys.take index).filterMap KeyEntry.passphrase?) passed ∧
              final.exchanges = passed ++
                [.deriveKey bytes entry.salt entry.cost (.ok (key, hash)),
                  .unwrap key blob answer]) ∧
    (∀ entry, info.keys[index]? = some (.asymmetric entry) →
      (∀ passphrase, withPassphrase (info.rewrapped index blob) passphrase primitives =
        withPassphrase info passphrase primitives) ∧
      (StaysClosed primitives blob → ∀ source : PassphraseSource σ,
        (∀ blob, (primitives.asymmetricUnwrap blob).Keeps fun state => (source.acquire state).1) →
        ∀ host,
          let erased : InfoFile := { info with keys := info.keys.eraseIdx index }
          let (outcome, final) :=
            unlock (info.rewrapped index blob) primitives.observed source.observed ⟨host, []⟩
          let (without, finalWithout) :=
            unlock erased primitives.observed source.observed ⟨host, []⟩
          (unlock (info.rewrapped index blob) primitives source host).1 = outcome ∧
            (unlock erased primitives source host).1 = without ∧
            outcome = without.map (Unlocked.renumbered (earlierPosition index)) ∧
            final.exchanges.countP Exchange.asks =
              finalWithout.exchanges.countP Exchange.asks)) := by
  refine ⟨?_, ?_⟩
  · intro entry stored passphrase bytes
    refine ⟨fun elsewhere host => ?_, fun key hash metAt => ?_⟩
    · exact withPassphrase_rewrapped_eq functional.repeatable stored elsewhere blob host
    · obtain ⟨answer, answered⟩ := functional.unwraps key blob
      exact ⟨answer, answered (), (observes_withPassphrase_met metAt (answered ())).run⟩
  · intro entry stored
    refine ⟨fun passphrase => ?_, fun closed source undisturbed host => ?_⟩
    · unfold withPassphrase
      rw [InfoFile.passphrases_rewrapped stored]
      rfl
    · have damaged := (observes_unlock (info.rewrapped index blob) primitives source).run host
      have erased := (observes_unlock { info with keys := info.keys.eraseIdx index } primitives
        source).run host
      obtain ⟨outcome, asked, -⟩ :=
        alike_unlock_rewrapped functional stored closed undisturbed ⟨host, []⟩ ⟨host, []⟩ ⟨rfl, rfl⟩
      rw [run_map] at outcome asked
      exact ⟨congrArg Prod.fst damaged.1, congrArg Prod.fst erased.1, outcome, asked⟩

/-- Of a shared file, a damaged passphrase entry fails its own passphrase and leaves the other one
alone, and with a damaged recipient the source is asked once, as without the recipient. -/
theorem rewrapped_contained_shared :
    let file := Transparent.sharedFile "old" "backup"
    let key := Transparent.oldKey "old"
    let blocks := Transparent.blocks ⟨.standard, ["ab12"]⟩
    let source := PassphraseSource.stored (some "backup")
    (withPassphrase (file.rewrapped 1 [9]) "backup" blocks 0).1 =
        .error (.failed Transparent.refusal) ∧
      (withPassphrase (file.rewrapped 1 [9]) "old" blocks 0).1 = .ok ⟨key, .legacy⟩ ∧
      (unlock (file.rewrapped 0 [9]) blocks source 0).1 = .ok ⟨key, .passphrase 1⟩ ∧
      (unlock { file with keys := file.keys.eraseIdx 0 } blocks source 0).1 =
        .ok ⟨key, .passphrase 0⟩ ∧
      (unlock (file.rewrapped 0 [9]) blocks.observed source.observed ⟨0, []⟩).2.exchanges.countP
        Exchange.asks = 1 := by
  intro file key blocks source
  have functional : Primitives.Functional fun _ : Unit => blocks :=
    Transparent.functional.member ⟨.standard, ["ab12"]⟩
  have damaged := (rewrapped_contained blocks functional file 1 [9]).1 _ rfl
  have recipient := (rewrapped_contained blocks functional file 0 [9]).2 _ rfl
  have unmet : ∀ position other, position < 1 → file.keys[position]? = some (.passphrase other) →
      Unmet blocks (Bytes.ofString "backup") other.salt other.cost other.confirmationHash := by
    intro position other below present
    obtain rfl : position = 0 := by omega
    cases present
  obtain ⟨answer, answered, run⟩ := (damaged "backup").2 _ _ ⟨rfl, unmet, fun _ => rfl, rfl⟩
  have elsewhere := (damaged "old").1 (fun key hash metAt => by
    have derived := metAt.derived 0
    have met := metAt.met
    cases derived
    exact absurd met (by decide)) 0
  have closed : StaysClosed blocks [9] := fun before => .inl ⟨_, before, rfl⟩
  have keeps : ∀ blob, (blocks.asymmetricUnwrap blob).Keeps fun state => (source.acquire state).1 :=
    fun blob state => rfl
  obtain ⟨unlocked, without, renumbered, asked⟩ := recipient.2 closed source keeps 0
  refine ⟨?_, ?_, ?_, ?_, ?_⟩
  · obtain ⟨same, outcome, -⟩ := run 0
    rw [same, outcome, ← answered 0]
  · rw [elsewhere]
    rfl
  · rw [unlocked, renumbered]
    rfl
  · rfl
  · exact asked.trans rfl

end Unlocking

end Keywarden
