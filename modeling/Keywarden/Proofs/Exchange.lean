import Keywarden.Proofs.Repository.Inherited

/-!
# Exchanges with the building blocks

Building blocks and sources of passphrases can be observed: every call is put down with its
arguments and its answer, in order, and nothing else changes.  What an operation asks for, how
often and in which order is then a statement about the record that it leaves.

`Observes` describes a whole run, its exchanges together with its outcome.  `Adds` looks at the
exchanges alone and is meant for edits, where the record is a part of a larger state.
-/

namespace Keywarden

open Keywarden.Action

variable {σ τ α β : Type}

/-- One call with its answer. -/
inductive Exchange
  /-- A passphrase was asked for. -/
  | acquire (answer : Except Stop String)
  | generateMasterKey (answer : Except Stop MasterKey)
  | generateSalt (answer : Except Stop Bytes)
  | deriveKey (passphrase salt : Bytes) (cost : DerivationCost)
    (answer : Except Stop (WrappingKey × ConfirmationHash))
  | wrap (key : WrappingKey) (payload : Bytes) (answer : Except Stop Bytes)
  | unwrap (key : WrappingKey) (blob : Bytes) (answer : Except Stop Bytes)
  | asymmetricWrap (payload : Bytes) (recipientId : String) (answer : Except Stop Bytes)
  | asymmetricUnwrap (blob : Bytes) (answer : Except Stop Opened)

/-- Whether a passphrase was asked for. -/
def Exchange.asks : Exchange → Bool
  | .acquire _ => true
  | _ => false

/-- A state and the exchanges so far. -/
structure Observed (σ : Type) where
  host : σ
  exchanges : List Exchange

namespace Action

/-- The action, with its answer put down. -/
def observed (exchange : Except Stop α → Exchange) (action : Action σ α) :
    Action (Observed σ) α := fun state =>
  let (answer, host) := action state.host
  (answer, ⟨host, state.exchanges ++ [exchange answer]⟩)

end Action

/-- The building blocks under observation. -/
def Primitives.observed (primitives : Primitives σ) : Primitives (Observed σ) where
  generateMasterKey := primitives.generateMasterKey.observed .generateMasterKey
  generateSalt := primitives.generateSalt.observed .generateSalt
  cost state := primitives.cost state.host
  deriveKey passphrase salt cost :=
    (primitives.deriveKey passphrase salt cost).observed (.deriveKey passphrase salt cost)
  wrap key payload := (primitives.wrap key payload).observed (.wrap key payload)
  unwrap key blob := (primitives.unwrap key blob).observed (.unwrap key blob)
  asymmetricWrap payload recipientId :=
    (primitives.asymmetricWrap payload recipientId).observed (.asymmetricWrap payload recipientId)
  asymmetricUnwrap blob := (primitives.asymmetricUnwrap blob).observed (.asymmetricUnwrap blob)

def PassphraseSource.observed (source : PassphraseSource σ) : PassphraseSource (Observed σ) where
  acquire := source.acquire.observed .acquire

/-- A session in which nothing has been put down yet. -/
def Session.observed (session : Session σ) : Session (Observed σ) :=
  ⟨session.info, session.host, []⟩

/-- What was put down in a session. -/
def Session.exchanges (session : Session (Observed σ)) : List Exchange :=
  session.host.exchanges

namespace Action

/-- What is returned without anybody observing it is returned and put down under observation. -/
theorem Returns.observed {action : Action σ α} {before after : σ} {value : α}
    (returned : action.Returns before value after) (exchange : Except Stop α → Exchange)
    (earlier : List Exchange) :
    (action.observed exchange).Returns ⟨before, earlier⟩ value
      ⟨after, earlier ++ [exchange (.ok value)]⟩ := by
  unfold Returns Action.observed
  rw [returned]

theorem Stops.observed {action : Action σ α} {before after : σ} {stop : Stop}
    (stopped : action.Stops before stop after) (exchange : Except Stop α → Exchange)
    (earlier : List Exchange) :
    (action.observed exchange).Stops ⟨before, earlier⟩ stop
      ⟨after, earlier ++ [exchange (.error stop)]⟩ := by
  unfold Stops Action.observed
  rw [stopped]

/-! ### Whole runs -/

/-- Under observation an action ends as it does without, and the exchanges that it adds to the
record fit its outcome. -/
def Observes (plain : Action σ α) (observed : Action (Observed σ) α)
    (Fits : List Exchange → Except Stop α → Prop) : Prop :=
  ∀ host earlier, ∃ added,
    observed ⟨host, earlier⟩ = ((plain host).1, ⟨(plain host).2, earlier ++ added⟩) ∧
      Fits added (plain host).1

theorem observes_observed (exchange : Except Stop α → Exchange) (action : Action σ α) :
    Observes action (action.observed exchange) fun added outcome =>
      added = [exchange outcome] :=
  fun _ _ => ⟨_, rfl, rfl⟩

theorem observes_pure (value : α) :
    Observes (pure value : Action σ α) (pure value) fun added outcome =>
      added = [] ∧ outcome = .ok value :=
  fun _ earlier => ⟨[], by rw [List.append_nil]; rfl, rfl, rfl⟩

theorem observes_fail (failure : Failure) :
    Observes (fail failure : Action σ α) (fail failure) fun added outcome =>
      added = [] ∧ outcome = .error (.failed failure) :=
  fun _ earlier => ⟨[], by rw [List.append_nil]; rfl, rfl, rfl⟩

namespace Observes

variable {plain : Action σ α} {observed : Action (Observed σ) α}
  {First Fits : List Exchange → Except Stop α → Prop}

theorem weaken (observes : Observes plain observed First)
    (weaker : ∀ added outcome, First added outcome → Fits added outcome) :
    Observes plain observed Fits := by
  intro host earlier
  obtain ⟨added, run, fits⟩ := observes host earlier
  exact ⟨added, run, weaker _ _ fits⟩

/-- What is put down from an empty record on fits the outcome. -/
theorem run (observes : Observes plain observed Fits) (host : σ) :
    let (outcome, final) := observed ⟨host, []⟩
    plain host = (outcome, final.host) ∧ Fits final.exchanges outcome := by
  obtain ⟨added, ran, fits⟩ := observes host []
  rw [ran]
  exact ⟨rfl, fits⟩

/-- The exchanges of a sequence are those of its first part, and after a value those of its
second part behind them. -/
theorem bind {next : α → Action σ β} {nextObserved : α → Action (Observed σ) β}
    {Fits : List Exchange → Except Stop β → Prop} (front : Observes plain observed First)
    (stops : ∀ added stop, First added (.error stop) → Fits added (.error stop))
    (rest : ∀ added value, First added (.ok value) →
      Observes (next value) (nextObserved value) fun later outcome => Fits (added ++ later) outcome) :
    Observes (plain >>= next) (observed >>= nextObserved) Fits := by
  intro host earlier
  obtain ⟨added, ran, fits⟩ := front host earlier
  rcases run : plain host with ⟨stop | value, between⟩
  · rw [run] at ran fits
    have stopped : (plain >>= next).Stops host stop between := stops_bind.mpr (.inl run)
    have observedStopped : (observed >>= nextObserved).Stops ⟨host, earlier⟩ stop
        ⟨between, earlier ++ added⟩ := stops_bind.mpr (.inl ran)
    refine ⟨added, ?_⟩
    rw [stopped, observedStopped]
    exact ⟨rfl, stops added stop fits⟩
  · rw [run] at ran fits
    obtain ⟨later, continued, fitsLater⟩ := rest added value fits between (earlier ++ added)
    refine ⟨added ++ later, ?_⟩
    rw [Returns.bind_eq run, Returns.bind_eq ran, continued, List.append_assoc]
    exact ⟨rfl, fitsLater⟩

/-- What is held back counts as the outcome that it was; nothing else fails. -/
theorem attempt (observes : Observes plain observed First) :
    Observes (Action.attempt plain) (Action.attempt observed) fun added outcome =>
      match outcome with
      | .ok (.ok value) => First added (.ok value)
      | .ok (.error failure) => First added (.error (.failed failure))
      | .error stop => First added (.error stop) ∧ ∀ failure, stop ≠ .failed failure := by
  intro host earlier
  obtain ⟨added, ran, fits⟩ := observes host earlier
  refine ⟨added, ?_⟩
  unfold Action.attempt
  rw [ran]
  rcases run : plain host with ⟨(failure | _ | _) | value, after⟩ <;> rw [run] at fits
  · exact ⟨rfl, fits⟩
  · exact ⟨rfl, fits, nofun⟩
  · exact ⟨rfl, fits, nofun⟩
  · exact ⟨rfl, fits⟩

end Observes

/-! ### Exchanges alone -/

def Adds (record : τ → List Exchange) (Fits : List Exchange → Prop) (action : Action τ α) : Prop :=
  ∀ before, ∃ added, record (action before).2 = record before ++ added ∧ Fits added

def AddsOnly (record : τ → List Exchange) (Allowed : Exchange → Prop) (action : Action τ α) : Prop :=
  action.Adds record fun added => ∀ exchange ∈ added, Allowed exchange

variable {record : τ → List Exchange}

theorem adds_observed (exchange : Except Stop α → Exchange) (action : Action σ α) :
    (action.observed exchange).Adds Observed.exchanges fun added =>
      ∃ answer, added = [exchange answer] :=
  fun _ => ⟨_, rfl, _, rfl⟩

theorem addsOnly_observed {exchange : Except Stop α → Exchange} {Allowed : Exchange → Prop}
    (action : Action σ α) (allowed : ∀ answer, Allowed (exchange answer)) :
    (action.observed exchange).AddsOnly Observed.exchanges Allowed := by
  intro before
  obtain ⟨added, grown, answer, rfl⟩ := adds_observed exchange action before
  refine ⟨_, grown, ?_⟩
  intro found member
  rw [List.mem_singleton.mp member]
  exact allowed answer

/-- A stop in the first part leaves its exchanges alone on the record. -/
theorem Adds.bind {action : Action τ α} {next : α → Action τ β}
    {First Rest Fits : List Exchange → Prop} (front : action.Adds record First)
    (rest : ∀ value, (next value).Adds record Rest)
    (stops : ∀ added, First added → Fits added)
    (goesOn : ∀ added later, First added → Rest later → Fits (added ++ later)) :
    (action >>= next).Adds record Fits := by
  intro before
  obtain ⟨added, grown, fits⟩ := front before
  rcases returns_or_stops action before with ⟨value, between, returned⟩ | ⟨stop, after, stopped⟩
  · obtain ⟨later, grownLater, fitsLater⟩ := rest value between
    rw [returned] at grown
    refine ⟨added ++ later, ?_, goesOn added later fits fitsLater⟩
    rw [returned.bind_eq, grownLater, grown, List.append_assoc]
  · have whole : (action >>= next).Stops before stop after := stops_bind.mpr (.inl stopped)
    rw [stopped] at grown
    refine ⟨added, ?_, stops added fits⟩
    rw [whole, grown]

/-- What is put down from an empty record on fits. -/
theorem Adds.of_empty {Fits : List Exchange → Prop} {action : Action τ α}
    (adds : action.Adds record Fits) {before : τ} (empty : record before = []) :
    Fits (record (action before).2) := by
  obtain ⟨added, grown, fits⟩ := adds before
  rw [grown, empty]
  exact fits

theorem Keeps.addsOnly {action : Action τ α} (keeps : action.Keeps record)
    (Allowed : Exchange → Prop) : action.AddsOnly record Allowed := by
  intro before
  refine ⟨[], ?_, by simp⟩
  rw [keeps before, List.append_nil]

theorem AddsOnly.bind {Allowed : Exchange → Prop} {action : Action τ α} {next : α → Action τ β}
    (front : action.AddsOnly record Allowed) (rest : ∀ value, (next value).AddsOnly record Allowed) :
    (action >>= next).AddsOnly record Allowed := by
  apply Adds.bind front rest
  · exact fun _ only => only
  · intro added later only onlyLater exchange member
    rcases List.mem_append.mp member with early | late
    · exact only exchange early
    · exact onlyLater exchange late

theorem inherited_addsOnly (record : τ → List Exchange) (Allowed : Exchange → Prop) :
    Inherited fun action : Action τ _ => action.AddsOnly record Allowed where
  pure value := (keeps_pure record value).addsOnly Allowed
  fail failure := (keeps_fail record failure).addsOnly Allowed
  bind := AddsOnly.bind
  attempt {_ action} only := by
    intro before
    obtain ⟨added, grown, allowed⟩ := only before
    exact ⟨added, by rw [state_attempt, grown], allowed⟩

end Action

namespace Edit

theorem adds_lift {Fits : List Exchange → Prop} {action : Action (Observed σ) α}
    (adds : action.Adds Observed.exchanges Fits) : (lift action).Adds Session.exchanges Fits :=
  fun before => adds before.host

theorem inherited_addsOnly (Allowed : Exchange → Prop) :
    Edit.Inherited (fun action : Action (Observed σ) _ => action.AddsOnly Observed.exchanges Allowed)
      (fun edit => edit.AddsOnly Session.exchanges Allowed) where
  toInherited := Action.inherited_addsOnly Session.exchanges Allowed
  lift := adds_lift
  info := Keeps.addsOnly (fun _ => rfl) Allowed
  setInfo _ := Keeps.addsOnly (fun _ => rfl) Allowed
  onFile {α edit} only info := by
    intro host
    obtain ⟨added, grown, allowed⟩ := only ⟨info, host⟩
    refine ⟨added, ?_, allowed⟩
    unfold onFile
    generalize edit ⟨info, host⟩ = outcome at grown ⊢
    rcases outcome with ⟨_ | _, after⟩ <;> exact grown

end Edit

namespace Primitives

variable {Allowed : Exchange → Prop}

theorem searching_observed (primitives : Primitives σ)
    (derives : ∀ passphrase salt cost answer, Allowed (.deriveKey passphrase salt cost answer))
    (unwraps : ∀ key blob answer, Allowed (.unwrap key blob answer))
    (opens : ∀ blob answer, Allowed (.asymmetricUnwrap blob answer)) :
    primitives.observed.Searching
      fun action => action.AddsOnly Observed.exchanges Allowed where
  toInherited := inherited_addsOnly Observed.exchanges Allowed
  deriveKey passphrase salt cost := addsOnly_observed _ (derives passphrase salt cost)
  unwrap key blob := addsOnly_observed _ (unwraps key blob)
  asymmetricUnwrap blob := addsOnly_observed _ (opens blob)

/-- Whatever is done with the building blocks, none of their exchanges asks for a passphrase. -/
theorem working_observed (primitives : Primitives σ)
    (allowed : ∀ exchange, exchange.asks = false → Allowed exchange) :
    primitives.observed.Working
      (fun action => action.AddsOnly Observed.exchanges Allowed)
      (fun edit => edit.AddsOnly Session.exchanges Allowed) where
  toSearching := searching_observed primitives (fun _ _ _ _ => allowed _ rfl)
    (fun _ _ _ => allowed _ rfl) (fun _ _ => allowed _ rfl)
  edits := Edit.inherited_addsOnly Allowed
  generateMasterKey := addsOnly_observed _ fun _ => allowed _ rfl
  generateSalt := addsOnly_observed _ fun _ => allowed _ rfl
  cost := Keeps.addsOnly (fun _ => rfl) Allowed
  wrap _ _ := addsOnly_observed _ fun _ => allowed _ rfl
  asymmetricWrap _ _ := addsOnly_observed _ fun _ => allowed _ rfl

end Primitives

end Keywarden
