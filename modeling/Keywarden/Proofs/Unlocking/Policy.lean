import Keywarden.Proofs.Exchange
import Keywarden.Proofs.Unlocking

/-!
# The policy of unlocking

Which calls unlocking makes, in which order, and how each answer decides what comes next.  Both
searches go through the entries of one kind in the order of the list; they differ in what passes
an entry over and in what ends them.  A failure to open an asymmetric entry is passed over, while
a failure of a derivation, or any trouble with an entry whose hash is met, ends everything.
-/

namespace Keywarden

theorem KeyEntry.passphrase?_passphrase {entry : PassphraseEntry} :
    (KeyEntry.passphrase entry).passphrase? = some entry :=
  rfl

theorem KeyEntry.asymmetric?_asymmetric {entry : AsymmetricEntry} :
    (KeyEntry.asymmetric entry).asymmetric? = some entry :=
  rfl

theorem KeyEntry.passphrase?_eq_some {key : KeyEntry} {entry : PassphraseEntry} :
    key.passphrase? = some entry ↔ key = .passphrase entry := by
  cases key <;> simp [passphrase?]

theorem KeyEntry.asymmetric?_eq_some {key : KeyEntry} {entry : AsymmetricEntry} :
    key.asymmetric? = some entry ↔ key = .asymmetric entry := by
  cases key <;> simp [asymmetric?]

/-- Every element of the second list is related to one of the first. -/
theorem exists_of_mem_forall₂ {α β : Type} {R : α → β → Prop} {xs : List α} {ys : List β}
    (all : List.Forall₂ R xs ys) {y : β} (member : y ∈ ys) : ∃ x ∈ xs, R x y := by
  induction all with
  | nil => cases member
  | cons head tail ih =>
    rcases List.mem_cons.mp member with rfl | member
    · exact ⟨_, List.mem_cons_self, head⟩
    · obtain ⟨x, found, related⟩ := ih member
      exact ⟨x, List.mem_cons_of_mem _ found, related⟩

namespace Unlocking

open Keywarden.Action

variable {σ ε : Type}

/-! ### Searches -/

section Search

variable {select : KeyEntry → Option ε} {Passes : ε → Exchange → Prop}
  {Ends : Nat → ε → List Exchange → Except Stop Unlocked → Prop} {key : KeyEntry}
  {keys : List KeyEntry} {entry : ε}

/-- A search through the selected entries of a list.  Each of them costs one exchange, which
passes it over, up to the entry at some position, where the search ends; or all of them are
passed over. -/
inductive Search (select : KeyEntry → Option ε) (Passes : ε → Exchange → Prop)
    (Ends : Nat → ε → List Exchange → Except Stop Unlocked → Prop) (keys : List KeyEntry) :
    List Exchange → Except Stop (Option Unlocked) → Prop
  | ended {index : Nat} {entry : ε} {passed last : List Exchange}
      {outcome : Except Stop Unlocked} (stored : keys[index]?.bind select = some entry)
      (before : List.Forall₂ Passes ((keys.take index).filterMap select) passed)
      (ends : Ends index entry last outcome) :
      Search select Passes Ends keys (passed ++ last) (outcome.map some)
  | exhausted {passed : List Exchange}
      (all : List.Forall₂ Passes (keys.filterMap select) passed) :
      Search select Passes Ends keys passed (.ok none)

namespace Search

/-- A search that found something ended at some entry. -/
theorem of_found {made : List Exchange} {unlocked : Unlocked}
    (search : Search select Passes Ends keys made (.ok (some unlocked))) :
    ∃ index entry passed last, keys[index]?.bind select = some entry ∧
      List.Forall₂ Passes ((keys.take index).filterMap select) passed ∧
      Ends index entry last (.ok unlocked) ∧ made = passed ++ last := by
  generalize same : (Except.ok (some unlocked) : Except Stop _) = outcome at search
  cases search with
  | @ended index entry passed last outcome stored before ends =>
    cases outcome with
    | error stop => cases same
    | ok found =>
      cases same
      exact ⟨index, entry, passed, last, stored, before, ends, rfl⟩
  | exhausted all => cases same

/-- A search that found nothing passed every entry over. -/
theorem of_exhausted {made : List Exchange}
    (search : Search select Passes Ends keys made (.ok none)) :
    List.Forall₂ Passes (keys.filterMap select) made := by
  generalize same : (Except.ok none : Except Stop (Option Unlocked)) = outcome at search
  cases search with
  | @ended index entry passed last outcome stored before ends => cases outcome <;> cases same
  | exhausted all => exact all

theorem first (selected : select key = some entry) {last : List Exchange}
    {outcome : Except Stop Unlocked} (ends : Ends 0 entry last outcome) :
    Search select Passes Ends (key :: keys) last (outcome.map some) := by
  have stored : (key :: keys)[0]?.bind select = some entry := by simpa using selected
  exact .ended stored .nil ends

variable {made : List Exchange} {outcome : Except Stop (Option Unlocked)}

/-- An entry of another kind costs nothing but its position. -/
theorem skip (other : select key = none)
    (search : Search select Passes (fun index => Ends (index + 1)) keys made outcome) :
    Search select Passes Ends (key :: keys) made outcome := by
  cases search with
  | ended stored before ends =>
    refine .ended (by simpa using stored) ?_ ends
    rwa [List.take_succ_cons, List.filterMap_cons_none other]
  | exhausted all =>
    apply Search.exhausted
    rwa [List.filterMap_cons_none other]

theorem pass (search : Search select Passes (fun index => Ends (index + 1)) keys made outcome)
    (selected : select key = some entry) {exchange : Exchange} (passes : Passes entry exchange) :
    Search select Passes Ends (key :: keys) (exchange :: made) outcome := by
  cases search with
  | @ended index _ passed last _ stored before ends =>
    rw [← List.cons_append]
    refine .ended (by simpa using stored) ?_ ends
    rw [List.take_succ_cons, List.filterMap_cons_some selected]
    exact .cons passes before
  | exhausted all =>
    apply Search.exhausted
    rw [List.filterMap_cons_some selected]
    exact .cons passes all

end Search

end Search

/-! ### Asymmetric entries -/

/-- The exchange does not open the entry to a master key. -/
inductive PassedOver (entry : AsymmetricEntry) : Exchange → Prop
  | failed (failure : Failure) :
      PassedOver entry (.asymmetricUnwrap entry.wrappedKey (.error (.failed failure)))
  | malformed {opened : Opened} (length : opened.payload.length ≠ 32) :
      PassedOver entry (.asymmetricUnwrap entry.wrappedKey (.ok opened))

/-- What ends the search at an asymmetric entry: a payload of 32 bytes, or the end of the
process. -/
inductive Opening (entry : AsymmetricEntry) : List Exchange → Except Stop Unlocked → Prop
  | opened {opened : Opened} {masterKey : MasterKey} (payload : opened.payload = masterKey.bytes) :
      Opening entry [.asymmetricUnwrap entry.wrappedKey (.ok opened)]
        (.ok ⟨masterKey, .recipient entry.recipientId⟩)
  | brokeOff {stop : Stop} (other : ∀ failure, stop ≠ .failed failure) :
      Opening entry [.asymmetricUnwrap entry.wrappedKey (.error stop)] (.error stop)

abbrev SilentSearch (keys : List KeyEntry) :
    List Exchange → Except Stop (Option Unlocked) → Prop :=
  Search KeyEntry.asymmetric? PassedOver (fun _ => Opening) keys

theorem Opening.search {entry : AsymmetricEntry} {last : List Exchange}
    {outcome : Except Stop Unlocked} (opening : Opening entry last outcome)
    {rest : List KeyEntry} :
    SilentSearch (.asymmetric entry :: rest) last (outcome.map some) :=
  Search.first KeyEntry.asymmetric?_asymmetric opening

theorem observes_tryAsymmetric (primitives : Primitives σ) (keys : List KeyEntry) :
    Observes (tryAsymmetric primitives (keys.filterMap KeyEntry.asymmetric?))
      (tryAsymmetric primitives.observed (keys.filterMap KeyEntry.asymmetric?))
      (SilentSearch keys) := by
  -- The induction is on all entries, since those of the other kind count for the positions.
  induction keys with
  | nil =>
    apply (observes_pure none).weaken
    rintro added outcome ⟨rfl, rfl⟩
    exact .exhausted .nil
  | cons key rest ih =>
    cases key with
    | passphrase entry => exact ih.weaken fun added outcome search => search.skip rfl
    | asymmetric entry =>
      have unwrapping := (observes_observed (Exchange.asymmetricUnwrap entry.wrappedKey)
        (primitives.asymmetricUnwrap entry.wrappedKey)).attempt
      have later {exchange : Exchange} (passes : PassedOver entry exchange) :
          Observes (tryAsymmetric primitives (rest.filterMap KeyEntry.asymmetric?))
            (tryAsymmetric primitives.observed (rest.filterMap KeyEntry.asymmetric?))
            fun later outcome =>
              SilentSearch (.asymmetric entry :: rest) ([exchange] ++ later) outcome :=
        ih.weaken fun added outcome search => search.pass KeyEntry.asymmetric?_asymmetric passes
      apply unwrapping.bind
      · rintro added stop ⟨rfl, other⟩
        exact (Opening.brokeOff other).search
      · rintro added (failure | opened) rfl
        · exact later (.failed failure)
        · rcases MasterKey.ofPayload_cases opened.payload with
            ⟨masterKey, payload, read⟩ | ⟨length, read⟩
          · simp only [read]
            apply (observes_pure _).weaken
            rintro added outcome ⟨rfl, rfl⟩
            exact (Opening.opened payload).search
          · simp only [read]
            exact later (.malformed length)

/-- A search through the asymmetric entries opens blobs and does nothing else. -/
theorem SilentSearch.asks_eq_false {keys : List KeyEntry} {made : List Exchange}
    {outcome : Except Stop (Option Unlocked)} (search : SilentSearch keys made outcome) :
    ∀ exchange ∈ made, exchange.asks = false := by
  have passedOver {entries : List AsymmetricEntry} {passed : List Exchange}
      (all : List.Forall₂ PassedOver entries passed) :
      ∀ exchange ∈ passed, exchange.asks = false := by
    intro exchange member
    obtain ⟨entry, -, passes⟩ := exists_of_mem_forall₂ all member
    cases passes <;> rfl
  cases search with
  | ended stored before ends =>
    intro exchange member
    rcases List.mem_append.mp member with early | last
    · exact passedOver before exchange early
    · cases ends <;> rw [List.mem_singleton.mp last] <;> rfl
  | exhausted all => exact passedOver all

/-! ### Passphrase entries -/

/-- The exchange derives another hash than that of the entry. -/
inductive Declined (passphrase : Bytes) (entry : PassphraseEntry) : Exchange → Prop
  | declined {key : WrappingKey} {hash : ConfirmationHash}
      (other : hash.bytes ≠ entry.confirmationHash) :
      Declined passphrase entry
        (.deriveKey passphrase entry.salt entry.cost (.ok (key, hash)))

/-- What ends the search at the passphrase entry at a position: nothing can be derived, or the
hash is met, and the wrapped key is opened once, which may go wrong. -/
inductive Decision (passphrase : Bytes) (index : Nat) (entry : PassphraseEntry) :
    List Exchange → Except Stop Unlocked → Prop
  | underivable {stop : Stop} :
      Decision passphrase index entry
        [.deriveKey passphrase entry.salt entry.cost (.error stop)] (.error stop)
  | damaged {key : WrappingKey} {hash : ConfirmationHash} {stop : Stop}
      (met : hash.bytes = entry.confirmationHash) :
      Decision passphrase index entry
        [.deriveKey passphrase entry.salt entry.cost (.ok (key, hash)),
          .unwrap key entry.wrappedKey (.error stop)]
        (.error stop)
  | malformed {key : WrappingKey} {hash : ConfirmationHash} {payload : Bytes}
      (met : hash.bytes = entry.confirmationHash) (length : payload.length ≠ 32) :
      Decision passphrase index entry
        [.deriveKey passphrase entry.salt entry.cost (.ok (key, hash)),
          .unwrap key entry.wrappedKey (.ok payload)]
        (.error (.failed (.primitive "Error unwrapping the master key"
          ("expected 32 bytes, got " ++ toString payload.length))))
  | opened {key : WrappingKey} {hash : ConfirmationHash} {masterKey : MasterKey}
      (met : hash.bytes = entry.confirmationHash) :
      Decision passphrase index entry
        [.deriveKey passphrase entry.salt entry.cost (.ok (key, hash)),
          .unwrap key entry.wrappedKey (.ok masterKey.bytes)]
        (.ok ⟨masterKey, .passphrase index⟩)

/-- The search through the passphrase entries of a list that stands behind `start` others. -/
abbrev PassphraseSearch (passphrase : Bytes) (start : Nat) (keys : List KeyEntry) :
    List Exchange → Except Stop (Option Unlocked) → Prop :=
  Search KeyEntry.passphrase? (Declined passphrase)
    (fun index => Decision passphrase (start + index)) keys

theorem Decision.search {passphrase : Bytes} {start : Nat} {entry : PassphraseEntry}
    {last : List Exchange} {outcome : Except Stop Unlocked}
    (decision : Decision passphrase start entry last outcome) {rest : List KeyEntry} :
    PassphraseSearch passphrase start (.passphrase entry :: rest) last (outcome.map some) :=
  Search.first KeyEntry.passphrase?_passphrase decision

private theorem observes_tryPassphrases (primitives : Primitives σ) (passphrase : Bytes)
    (start : Nat) (keys : List KeyEntry) :
    Observes (tryPassphrases primitives passphrase (InfoFile.passphrasesFrom start keys))
      (tryPassphrases primitives.observed passphrase (InfoFile.passphrasesFrom start keys))
      (PassphraseSearch passphrase start keys) := by
  induction keys generalizing start with
  | nil =>
    apply (observes_pure none).weaken
    rintro added outcome ⟨rfl, rfl⟩
    exact .exhausted .nil
  | cons key rest ih =>
    have shifted : (fun index => Decision passphrase (start + 1 + index)) =
        fun index => Decision passphrase (start + (index + 1)) := by
      funext index
      rw [Nat.add_right_comm, Nat.add_assoc]
    have searchRest := ih (start + 1)
    rw [PassphraseSearch, shifted] at searchRest
    cases key with
    | asymmetric entry => exact searchRest.weaken fun added outcome search => search.skip rfl
    | passphrase entry =>
      apply (observes_observed (Exchange.deriveKey passphrase entry.salt entry.cost)
        (primitives.deriveKey passphrase entry.salt entry.cost)).bind
      · rintro added stop rfl
        exact Decision.underivable.search
      rintro added ⟨key, hash⟩ rfl
      by_cases accepted : hash.accepts entry.confirmationHash = true
      · have met := (hash.accepts_iff _).mp accepted
        simp only [if_pos accepted]
        apply (observes_observed (Exchange.unwrap key entry.wrappedKey)
          (primitives.unwrap key entry.wrappedKey)).bind
        · rintro added stop rfl
          exact (Decision.damaged met).search
        rintro added payload rfl
        rcases MasterKey.ofPayload_cases payload with ⟨masterKey, rfl, read⟩ | ⟨length, read⟩
        · rw [read]
          apply (observes_pure _).weaken
          rintro added outcome ⟨rfl, rfl⟩
          exact (Decision.opened met).search
        · rw [read]
          apply (observes_fail _).weaken
          rintro added outcome ⟨rfl, rfl⟩
          exact (Decision.malformed met length).search
      · have other : hash.bytes ≠ entry.confirmationHash := fun met =>
          accepted ((hash.accepts_iff _).mpr met)
        simp only [if_neg accepted]
        exact searchRest.weaken fun added outcome search =>
          search.pass KeyEntry.passphrase?_passphrase (.declined other)

/-! ### The legacy passphrase -/

/-- What is left when no entry is met: one more derivation, if there is a legacy passphrase. -/
inductive LastResort (info : InfoFile) (passphrase : Bytes) :
    List Exchange → Except Stop Unlocked → Prop
  | absent (none : ∀ legacy, ¬ info.KeepsLegacy legacy) :
      LastResort info passphrase [] (.error (.failed noMatch))
  | underivable {legacy : LegacyPassphrase} {stop : Stop} (kept : info.KeepsLegacy legacy) :
      LastResort info passphrase
        [.deriveKey passphrase legacy.salt legacy.cost (.error stop)] (.error stop)
  | declined {legacy : LegacyPassphrase} {key : WrappingKey} {hash : ConfirmationHash}
      (kept : info.KeepsLegacy legacy) (other : hash.bytes ≠ legacy.confirmationHash) :
      LastResort info passphrase
        [.deriveKey passphrase legacy.salt legacy.cost (.ok (key, hash))]
        (.error (.failed noMatch))
  | derived {legacy : LegacyPassphrase} {key : WrappingKey} {hash : ConfirmationHash}
      (kept : info.KeepsLegacy legacy) (met : hash.bytes = legacy.confirmationHash) :
      LastResort info passphrase
        [.deriveKey passphrase legacy.salt legacy.cost (.ok (key, hash))]
        (.ok ⟨key.asMaster, .legacy⟩)

/-- Unlocking with a passphrase: the entries, then the legacy passphrase. -/
inductive PassphrasePolicy (info : InfoFile) (passphrase : Bytes) :
    List Exchange → Except Stop Unlocked → Prop
  | stopped {made : List Exchange} {stop : Stop}
      (search : PassphraseSearch passphrase 0 info.keys made (.error stop)) :
      PassphrasePolicy info passphrase made (.error stop)
  | listed {made : List Exchange} {unlocked : Unlocked}
      (search : PassphraseSearch passphrase 0 info.keys made (.ok (some unlocked))) :
      PassphrasePolicy info passphrase made (.ok unlocked)
  | unlisted {made last : List Exchange} {outcome : Except Stop Unlocked}
      (search : PassphraseSearch passphrase 0 info.keys made (.ok none))
      (resort : LastResort info passphrase last outcome) :
      PassphrasePolicy info passphrase (made ++ last) outcome

/-- Unlocking: the asymmetric entries, then the passphrase that the source gives. -/
inductive UnlockPolicy (info : InfoFile) : List Exchange → Except Stop Unlocked → Prop
  | stopped {made : List Exchange} {stop : Stop}
      (search : SilentSearch info.keys made (.error stop)) :
      UnlockPolicy info made (.error stop)
  | silent {made : List Exchange} {unlocked : Unlocked}
      (search : SilentSearch info.keys made (.ok (some unlocked))) :
      UnlockPolicy info made (.ok unlocked)
  | unanswered {made : List Exchange} {stop : Stop}
      (search : SilentSearch info.keys made (.ok none)) :
      UnlockPolicy info (made ++ [.acquire (.error stop)]) (.error stop)
  | asked {made later : List Exchange} {passphrase : String} {outcome : Except Stop Unlocked}
      (search : SilentSearch info.keys made (.ok none))
      (policy : PassphrasePolicy info (Bytes.ofString passphrase) later outcome) :
      UnlockPolicy info (made ++ ([.acquire (.ok passphrase)] ++ later)) outcome

/-- The legacy passphrase is tried when no entry was met. -/
theorem observes_lastResort (info : InfoFile) (passphrase : Bytes) (primitives : Primitives σ) :
    Observes
      (do
        match ← legacyMasterKey info passphrase primitives with
        | some masterKey => return ⟨masterKey, .legacy⟩
        | none => Action.fail noMatch)
      (do
        match ← legacyMasterKey info passphrase primitives.observed with
        | some masterKey => return ⟨masterKey, .legacy⟩
        | none => Action.fail noMatch)
      (LastResort info passphrase) := by
  unfold legacyMasterKey
  cases stored : info.legacyPassphrase? with
  | none =>
    apply (observes_fail noMatch).weaken
    rintro added outcome ⟨rfl, rfl⟩
    refine .absent fun legacy kept => ?_
    rw [InfoFile.legacyPassphrase?_eq_some.mpr kept] at stored
    cases stored
  | some legacy =>
    have kept := InfoFile.legacyPassphrase?_eq_some.mp stored
    simp only [bind_assoc]
    apply (observes_observed (Exchange.deriveKey passphrase legacy.salt legacy.cost)
      (primitives.deriveKey passphrase legacy.salt legacy.cost)).bind
    · rintro added stop rfl
      exact .underivable kept
    rintro added ⟨key, hash⟩ rfl
    by_cases accepted : hash.accepts legacy.confirmationHash = true
    · simp only [if_pos accepted, pure_bind]
      apply (observes_pure _).weaken
      rintro added outcome ⟨rfl, rfl⟩
      exact .derived kept ((hash.accepts_iff _).mp accepted)
    · simp only [if_neg accepted, pure_bind]
      apply (observes_fail noMatch).weaken
      rintro added outcome ⟨rfl, rfl⟩
      exact .declined kept fun met => accepted ((hash.accepts_iff _).mpr met)

theorem observes_withPassphrase (info : InfoFile) (passphrase : String)
    (primitives : Primitives σ) :
    Observes (withPassphrase info passphrase primitives)
      (withPassphrase info passphrase primitives.observed)
      (PassphrasePolicy info (Bytes.ofString passphrase)) := by
  apply (observes_tryPassphrases primitives (Bytes.ofString passphrase) 0 info.keys).bind
  · exact fun made stop search => .stopped search
  intro made found search
  cases found with
  | some unlocked =>
    apply (observes_pure unlocked).weaken
    rintro added outcome ⟨rfl, rfl⟩
    rw [List.append_nil]
    exact .listed search
  | none =>
    apply (observes_lastResort info (Bytes.ofString passphrase) primitives).weaken
    exact fun added outcome resort => .unlisted search resort

theorem observes_unlock (info : InfoFile) (primitives : Primitives σ)
    (source : PassphraseSource σ) :
    Observes (unlock info primitives source) (unlock info primitives.observed source.observed)
      (UnlockPolicy info) := by
  apply (observes_tryAsymmetric primitives info.keys).bind
  · exact fun made stop search => .stopped search
  intro made found search
  cases found with
  | some unlocked =>
    apply (observes_pure unlocked).weaken
    rintro added outcome ⟨rfl, rfl⟩
    rw [List.append_nil]
    exact .silent search
  | none =>
    apply (observes_observed Exchange.acquire source.acquire).bind
    · rintro added stop rfl
      exact .unanswered search
    rintro added passphrase rfl
    apply (observes_withPassphrase info passphrase primitives).weaken
    exact fun later outcome policy => .asked search policy

/-- Every run of unlocking follows the policy, from the first call to the last: what is observed
are the calls of the policy, answer by answer, and the run ends as the policy says and as it does
when nobody observes it. -/
theorem unlock_by_policy (info : InfoFile) (primitives : Primitives σ)
    (source : PassphraseSource σ) (host : σ) :
    let (outcome, final) := unlock info primitives.observed source.observed ⟨host, []⟩
    (unlock info primitives source host = (outcome, final.host) ∧
      UnlockPolicy info final.exchanges outcome) ∧
    ∀ passphrase,
      let (outcome, final) := withPassphrase info passphrase primitives.observed ⟨host, []⟩
      withPassphrase info passphrase primitives host = (outcome, final.host) ∧
        PassphrasePolicy info (Bytes.ofString passphrase) final.exchanges outcome :=
  ⟨(observes_unlock info primitives source).run host,
    fun passphrase => (observes_withPassphrase info passphrase primitives).run host⟩

end Unlocking

end Keywarden
