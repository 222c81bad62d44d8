import Keywarden.Action
import Mathlib.Tactic.Common

/-!
# The outcomes of actions

An action that runs in a state either returns a value or stops.  This module reads
off the outcome of a composed action from the outcomes of its parts.

Two further notions leave the state aside.  An action yields a value when it
returns the value in some state, and it answers with an outcome when the outcome
is the same in every state.
-/

namespace Keywarden

/-- A sequence of checked computations gives a value when both of its parts do. -/
theorem bind_eq_ok {ε α β : Type} {first : Except ε α} {next : α → Except ε β} {value : β} :
    (first >>= next) = .ok value ↔ ∃ found, first = .ok found ∧ next found = .ok value := by
  cases first with
  | error fault =>
    constructor
    · intro given
      cases given
    · rintro ⟨found, other, -⟩
      cases other
  | ok found =>
    constructor
    · intro given
      exact ⟨found, rfl, given⟩
    · rintro ⟨other, same, given⟩
      cases same
      exact given

namespace Action

variable {σ τ α β : Type}

def Returns (action : Action σ α) (before : σ) (value : α) (after : σ) : Prop :=
  action before = (.ok value, after)

def Stops (action : Action σ α) (before : σ) (stop : Stop) (after : σ) : Prop :=
  action before = (.error stop, after)

def Yields (action : Action σ α) (value : α) : Prop :=
  ∃ before after, action.Returns before value after

/-- The outcome of the action is the same in every state. -/
def Answers (action : Action σ α) (outcome : Except Stop α) : Prop :=
  ∀ state, (action state).1 = outcome

theorem returns_or_stops (action : Action σ α) (before : σ) :
    (∃ value after, action.Returns before value after) ∨
      ∃ stop after, action.Stops before stop after := by
  rcases run : action before with ⟨stop | value, after⟩
  · exact .inr ⟨stop, after, run⟩
  · exact .inl ⟨value, after, run⟩

theorem Returns.yields {action : Action σ α} {before after : σ} {value : α}
    (returned : action.Returns before value after) : action.Yields value :=
  ⟨before, after, returned⟩

/-- What an action yields is what it answers with. -/
theorem Answers.eq_of_yields {action : Action σ α} {outcome : Except Stop α} {value : α}
    (answers : action.Answers outcome) (yields : action.Yields value) :
    outcome = .ok value := by
  obtain ⟨before, after, returned⟩ := yields
  rw [← answers before, returned]

theorem Answers.eq_of_stops {action : Action σ α} {outcome : Except Stop α} {stop : Stop}
    {before after : σ} (answers : action.Answers outcome)
    (stopped : action.Stops before stop after) : outcome = .error stop := by
  rw [← answers before, stopped]

theorem Answers.yields {action : Action σ α} {value : α}
    (answers : action.Answers (.ok value)) (state : σ) : action.Yields value :=
  ⟨state, (action state).2, Prod.ext (answers state) rfl⟩

section Parts

variable {before after : σ} {stop : Stop}

@[simp] theorem returns_pure {value found : α} :
    (pure value : Action σ α).Returns before found after ↔
      value = found ∧ before = after := by
  change (Except.ok value, before) = (Except.ok found, after) ↔ _
  simp

@[simp] theorem not_stops_pure {value : α} :
    ¬ (pure value : Action σ α).Stops before stop after := by
  change ¬ (Except.ok value, before) = (Except.error stop, after)
  simp

@[simp] theorem not_returns_fail {failure : Failure} {value : α} :
    ¬ (fail failure : Action σ α).Returns before value after := by
  change ¬ (Except.error (Stop.failed failure), before) = (Except.ok value, after)
  simp

@[simp] theorem returns_ofExcept {result : Except Failure α} {value : α} :
    (ofExcept result : Action σ α).Returns before value after ↔
      result = .ok value ∧ before = after := by
  cases result with
  | ok found => simp [ofExcept]
  | error failure => simp [ofExcept]

theorem returns_random {entropy : Entropy σ} {count : Nat} {refusal : String → Stop}
    {bytes : Bytes} :
    (random entropy count refusal).Returns before bytes after ↔
      entropy.draw count before = (.ok bytes, after) := by
  unfold Returns random
  rcases entropy.draw count before with ⟨reason | drawn, between⟩ <;> constructor <;>
    intro same <;> cases same <;> rfl

theorem stops_ofExcept {result : Except Failure α} :
    (ofExcept result : Action σ α).Stops before stop after ↔
      ∃ failure, result = .error failure ∧ stop = .failed failure ∧ before = after := by
  cases result with
  | ok found => simp [ofExcept]
  | error failure =>
    change (Except.error (Stop.failed failure), before) = (Except.error stop, after) ↔ _
    simp [eq_comm]

theorem run_map (change : α → β) (action : Action σ α) (state : σ) :
    (change <$> action) state = ((action state).1.map change, (action state).2) := by
  rw [map_eq_pure_bind]
  change ExceptT.bindCont (fun value => (pure (change value) : Action σ β))
    (action state).1 (action state).2 = _
  rcases action state with ⟨stop | value, after⟩ <;> rfl

/-- A sequence returns exactly when both of its parts return. -/
theorem returns_bind {action : Action σ α} {next : α → Action σ β} {value : β} :
    (action >>= next).Returns before value after ↔
      ∃ found between, action.Returns before found between ∧
        (next found).Returns between value after := by
  change ExceptT.bindCont next (action before).1 (action before).2 = _ ↔ _
  rcases first : action before with ⟨stop | found, between⟩
  · constructor
    · intro run
      cases run
    · rintro ⟨found, other, returned, -⟩
      cases first.symm.trans returned
  · constructor
    · intro run
      exact ⟨found, between, first, run⟩
    · rintro ⟨found, other, returned, second⟩
      cases first.symm.trans returned
      exact second

/-- After a value the sequence goes on as its second part does. -/
theorem Returns.bind_eq {action : Action σ α} {between : σ} {found : α}
    (returned : action.Returns before found between) (next : α → Action σ β) :
    (action >>= next) before = next found between := by
  change ExceptT.bindCont next (action before).1 (action before).2 = _
  rw [returned]
  rfl

/-- First parts that run alike can stand for one another. -/
theorem bind_congr_run {first second : Action σ α} (alike : first before = second before)
    (next : α → Action σ β) : (first >>= next) before = (second >>= next) before := by
  change ExceptT.bindCont next (first before).1 (first before).2 =
    ExceptT.bindCont next (second before).1 (second before).2
  rw [alike]

/-- Second parts that run alike after every value of the first part can stand for one another. -/
theorem bind_congr_returns {action : Action σ α} {next other : α → Action σ β}
    (alike : ∀ value after, action.Returns before value after →
      next value after = other value after) :
    (action >>= next) before = (action >>= other) before := by
  change ExceptT.bindCont next (action before).1 (action before).2 =
    ExceptT.bindCont other (action before).1 (action before).2
  rcases run : action before with ⟨stop | value, after⟩
  · rfl
  · exact alike value after run

/-- A sequence stops exactly when one of its parts does. -/
theorem stops_bind {action : Action σ α} {next : α → Action σ β} :
    (action >>= next).Stops before stop after ↔
      action.Stops before stop after ∨
        ∃ found between, action.Returns before found between ∧
          (next found).Stops between stop after := by
  change ExceptT.bindCont next (action before).1 (action before).2 = _ ↔ _
  rcases first : action before with ⟨cause | found, between⟩
  · constructor
    · intro run
      cases run
      exact .inl first
    · rintro (stopped | ⟨found, other, returned, -⟩)
      · cases first.symm.trans stopped
        rfl
      · cases first.symm.trans returned
  · constructor
    · intro run
      exact .inr ⟨found, between, first, run⟩
    · rintro (stopped | ⟨found, other, returned, second⟩)
      · cases first.symm.trans stopped
      · cases first.symm.trans returned
        exact second

theorem state_attempt (action : Action σ α) (before : σ) :
    (attempt action before).2 = (action before).2 := by
  unfold attempt
  rcases action before with ⟨(_ | _ | _) | _, after⟩ <;> rfl

/-- A held-back failure is that of the action. -/
theorem returns_attempt {action : Action σ α} {result : Except Failure α} :
    (attempt action).Returns before result after ↔
      match result with
      | .ok value => action.Returns before value after
      | .error failure => action.Stops before (.failed failure) after := by
  simp only [Returns, Stops, attempt]
  rcases action before with ⟨(failure | _ | _) | value, between⟩ <;> cases result <;>
    constructor <;> intro run <;> cases run <;> rfl

theorem returns_mapFailure {action : Action σ α} {change : Failure → Failure} {value : α} :
    (mapFailure change action).Returns before value after ↔ action.Returns before value after := by
  unfold Returns mapFailure
  rcases action before with ⟨(failure | _ | _) | found, between⟩ <;> constructor <;>
    intro returned <;> cases returned <;> rfl

/-- A stop in another form is a stop. -/
theorem of_stops_mapFailure {action : Action σ α} {change : Failure → Failure}
    (stopped : (mapFailure change action).Stops before stop after) :
    ∃ cause, action.Stops before cause after ∧
      stop = match cause with
        | .failed failure => .failed (change failure)
        | other => other := by
  unfold Stops mapFailure at stopped
  rcases run : action before with ⟨(failure | _ | _) | found, between⟩ <;> rw [run] at stopped <;>
    cases stopped
  · exact ⟨.failed failure, run, rfl⟩
  · exact ⟨.aborted, run, rfl⟩
  · exact ⟨.awaiting, run, rfl⟩

theorem state_mapFailure (change : Failure → Failure) (action : Action σ α) (before : σ) :
    (mapFailure change action before).2 = (action before).2 := by
  unfold mapFailure
  rcases action before with ⟨(_ | _ | _) | _, after⟩ <;> rfl

/-- What is not held back ends the attempt as well. -/
theorem stops_attempt {action : Action σ α} :
    (attempt action).Stops before stop after ↔
      action.Stops before stop after ∧ ∀ failure, stop ≠ .failed failure := by
  unfold Stops attempt
  constructor
  · rcases action before with ⟨(failure | _ | _) | value, between⟩ <;> intro run <;> cases run
    · exact ⟨rfl, nofun⟩
    · exact ⟨rfl, nofun⟩
  · rintro ⟨run, other⟩
    rw [run]
    cases stop with
    | failed failure => exact absurd rfl (other failure)
    | aborted => rfl
    | awaiting => rfl

end Parts

section Answers

variable {outcome : Except Stop β}

theorem answers_pure (value : α) : (pure value : Action σ α).Answers (.ok value) :=
  fun _ => rfl

theorem answers_fail (failure : Failure) :
    (fail failure : Action σ α).Answers (.error (.failed failure)) :=
  fun _ => rfl

theorem Answers.bind_ok {action : Action σ α} {next : α → Action σ β} {value : α}
    (first : action.Answers (.ok value)) (second : (next value).Answers outcome) :
    (action >>= next).Answers outcome := by
  intro state
  change (ExceptT.bindCont next (action state).1 (action state).2).1 = _
  rw [first state]
  exact second _

theorem Answers.bind_error {action : Action σ α} {next : α → Action σ β} {stop : Stop}
    (first : action.Answers (.error stop)) :
    (action >>= next).Answers (.error stop) := by
  intro state
  change (ExceptT.bindCont next (action state).1 (action state).2).1 = _
  rw [first state]
  rfl

theorem Answers.attempt_ok {action : Action σ α} {value : α}
    (answers : action.Answers (.ok value)) : (attempt action).Answers (.ok (.ok value)) := by
  intro state
  have answer := answers state
  unfold attempt
  generalize action state = result at answer ⊢
  rcases result with ⟨stop | found, after⟩ <;> cases answer
  rfl

theorem Answers.attempt_failed {action : Action σ α} {failure : Failure}
    (answers : action.Answers (.error (.failed failure))) :
    (attempt action).Answers (.ok (.error failure)) := by
  intro state
  have answer := answers state
  unfold attempt
  generalize action state = result at answer ⊢
  rcases result with ⟨stop | found, after⟩ <;> cases answer
  rfl

/-- Only failures are held back. -/
theorem Answers.attempt_stop {action : Action σ α} {stop : Stop}
    (answers : action.Answers (.error stop)) (other : ∀ failure, stop ≠ .failed failure) :
    (attempt action).Answers (.error stop) := by
  intro state
  have answer := answers state
  unfold attempt
  generalize action state = result at answer ⊢
  rcases result with ⟨(failure | _ | _) | found, after⟩ <;> cases answer
  · exact absurd rfl (other failure)
  · rfl
  · rfl

end Answers

def Uniform {κ : Type} (family : κ → Action σ α) : Prop :=
  ∃ outcome, ∀ setting, (family setting).Answers outcome

namespace Uniform

variable {κ : Type} {family : κ → Action σ α}

/-- What one action of the family yields once, all of them answer with. -/
theorem answers_of_yields (uniform : Uniform family) (setting : κ) {value : α}
    (yields : (family setting).Yields value) (other : κ) :
    (family other).Answers (.ok value) := by
  obtain ⟨outcome, answers⟩ := uniform
  rw [← (answers setting).eq_of_yields yields]
  exact answers other

/-- In a uniform family the outcome in one state is the answer. -/
theorem answers_iff (uniform : Uniform family) (setting : κ) (state : σ)
    {outcome : Except Stop α} :
    (family setting).Answers outcome ↔ (family setting state).1 = outcome := by
  obtain ⟨answer, answers⟩ := uniform
  constructor
  · intro given
    exact given state
  · rintro rfl
    rw [answers setting state]
    exact answers setting

theorem of_answers {outcome : Except Stop α}
    (answers : ∀ setting, (family setting).Answers outcome) : Uniform family :=
  ⟨outcome, answers⟩

theorem pure (value : α) : Uniform fun _ : κ => (Pure.pure value : Action σ α) :=
  of_answers fun _ => answers_pure value

theorem fail (failure : Failure) : Uniform fun _ : κ => (Action.fail failure : Action σ α) :=
  of_answers fun _ => answers_fail failure

theorem ofExcept (result : Except Failure α) :
    Uniform fun _ : κ => (Action.ofExcept result : Action σ α) := by
  cases result with
  | ok value => exact pure value
  | error failure => exact fail failure

theorem bind {next : κ → α → Action σ β} (first : Uniform family)
    (rest : ∀ value, Uniform fun setting => next setting value) :
    Uniform fun setting => family setting >>= next setting := by
  obtain ⟨outcome, answers⟩ := first
  cases outcome with
  | error stop => exact of_answers fun setting => (answers setting).bind_error
  | ok value =>
    obtain ⟨result, continues⟩ := rest value
    exact of_answers fun setting => (answers setting).bind_ok (continues setting)

theorem attempt (uniform : Uniform family) :
    Uniform fun setting => Action.attempt (family setting) := by
  obtain ⟨outcome, answers⟩ := uniform
  rcases outcome with (failure | _ | _) | value
  · exact of_answers fun setting => (answers setting).attempt_failed
  · exact of_answers fun setting => (answers setting).attempt_stop fun _ => nofun
  · exact of_answers fun setting => (answers setting).attempt_stop fun _ => nofun
  · exact of_answers fun setting => (answers setting).attempt_ok

end Uniform

end Action

end Keywarden
