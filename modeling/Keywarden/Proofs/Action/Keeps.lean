import Keywarden.Proofs.Action

/-!
# What actions leave alone

A view is a part of the state, or something computed from it.  An action may keep a view
in every case, or only when it stops; a sequence keeps a view on every stop when what comes
before its first change keeps it and what comes after never stops.
-/

namespace Keywarden.Action

variable {σ τ α β γ : Type} {view : σ → γ}

/-- The view is the same after the action, whatever happens. -/
def Keeps (view : σ → γ) (action : Action σ α) : Prop :=
  ∀ before, view (action before).2 = view before

def KeepsOnStop (view : σ → γ) (action : Action σ α) : Prop :=
  ∀ before stop after, action.Stops before stop after → view after = view before

def Unfailing (action : Action σ α) : Prop :=
  ∀ before stop after, ¬ action.Stops before stop after

/-- What an action on a part does to the whole. -/
theorem run_focus {get : τ → σ} {set : τ → σ → τ} {action : Action σ α}
    {outcome : Except Stop α} {before after : τ} :
    focus get set action before = (outcome, after) ↔
      ∃ part, action (get before) = (outcome, part) ∧ after = set before part := by
  unfold focus
  rcases action (get before) with ⟨found, part⟩
  constructor
  · intro run
    cases run
    exact ⟨part, rfl, rfl⟩
  · rintro ⟨other, run, rfl⟩
    cases run
    rfl

namespace Keeps

variable {action : Action σ α}

theorem of_returns (keeps : action.Keeps view) {before after : σ} {value : α}
    (returned : action.Returns before value after) : view after = view before := by
  rw [← keeps before, returned]

theorem onStop (keeps : action.Keeps view) : action.KeepsOnStop view := by
  intro before stop after stopped
  rw [← keeps before, stopped]

/-- Only the values that the first action yields are handed on. -/
theorem bind_yields {next : α → Action σ β} (first : action.Keeps view)
    (rest : ∀ value, action.Yields value → (next value).Keeps view) :
    (action >>= next).Keeps view := by
  intro before
  change view (ExceptT.bindCont next (action before).1 (action before).2).2 = view before
  rcases run : action before with ⟨stop | value, between⟩
  · exact first.onStop before stop between run
  · exact (rest value ⟨before, between, run⟩ between).trans (first.of_returns run)

theorem bind {next : α → Action σ β} (first : action.Keeps view)
    (rest : ∀ value, (next value).Keeps view) : (action >>= next).Keeps view :=
  first.bind_yields fun value _ => rest value

theorem attempt (keeps : action.Keeps view) : (Action.attempt action).Keeps view := by
  intro before
  rw [state_attempt, keeps before]

theorem mapFailure (keeps : action.Keeps view) (change : Failure → Failure) :
    (Action.mapFailure change action).Keeps view := by
  intro before
  rw [state_mapFailure, keeps before]

/-- What an action keeps of a part, its focus keeps of the whole. -/
theorem focus {get : τ → σ} {set : τ → σ → τ} (keeps : action.Keeps view)
    (get_set : ∀ whole part, get (set whole part) = part) :
    (Action.focus get set action).Keeps fun whole => view (get whole) := by
  intro whole
  change view (get (set whole (action (get whole)).2)) = view (get whole)
  rw [get_set, keeps]

/-- A coarser view is kept as well. -/
theorem coarser {δ : Type} (keeps : action.Keeps view) (look : γ → δ) :
    action.Keeps fun state => look (view state) :=
  fun before => congrArg look (keeps before)

/-- The first change comes after what keeps the view. -/
theorem bind_yields_onStop {next : α → Action σ β} (first : action.Keeps view)
    (rest : ∀ value, action.Yields value → (next value).KeepsOnStop view) :
    (action >>= next).KeepsOnStop view := by
  intro before stop after stopped
  rcases stops_bind.mp stopped with stopped | ⟨value, between, returned, stopped⟩
  · exact first.onStop before stop after stopped
  · rw [rest value returned.yields between stop after stopped, first.of_returns returned]

theorem bind_onStop {next : α → Action σ β} (first : action.Keeps view)
    (rest : ∀ value, (next value).KeepsOnStop view) : (action >>= next).KeepsOnStop view :=
  first.bind_yields_onStop fun value _ => rest value

end Keeps

theorem KeepsOnStop.focus {get : τ → σ} {set : τ → σ → τ} {action : Action σ α}
    (keeps : action.KeepsOnStop view) (get_set : ∀ whole part, get (set whole part) = part) :
    (Action.focus get set action).KeepsOnStop fun whole => view (get whole) := by
  intro whole stop after stopped
  obtain ⟨part, run, rfl⟩ := run_focus.mp stopped
  change view (get (set whole part)) = view (get whole)
  rw [get_set]
  exact keeps (get whole) stop part run

/-- After the first change nothing may stop. -/
theorem KeepsOnStop.bind_unfailing {action : Action σ α} {next : α → Action σ β}
    (first : action.KeepsOnStop view) (rest : ∀ value, (next value).Unfailing) :
    (action >>= next).KeepsOnStop view := by
  intro before stop after stopped
  rcases stops_bind.mp stopped with stopped | ⟨value, between, -, stopped⟩
  · exact first before stop after stopped
  · exact (rest value between stop after stopped).elim

theorem Unfailing.bind {action : Action σ α} {next : α → Action σ β} (first : action.Unfailing)
    (rest : ∀ value, (next value).Unfailing) : (action >>= next).Unfailing := by
  intro before stop after stopped
  rcases stops_bind.mp stopped with stopped | ⟨value, between, -, stopped⟩
  · exact first before stop after stopped
  · exact rest value between stop after stopped

section Parts

theorem keeps_pure (view : σ → γ) (value : α) : (pure value : Action σ α).Keeps view :=
  fun _ => rfl

theorem keeps_fail (view : σ → γ) (failure : Failure) : (fail failure : Action σ α).Keeps view :=
  fun _ => rfl

theorem keeps_throw (view : σ → γ) (stop : Stop) : (throw stop : Action σ α).Keeps view :=
  fun _ => rfl

theorem keeps_ofExcept (view : σ → γ) (result : Except Failure α) :
    (ofExcept result : Action σ α).Keeps view := by
  cases result <;> exact fun _ => rfl

theorem keeps_get (view : σ → γ) : (get : Action σ σ).Keeps view :=
  fun _ => rfl

theorem keeps_modify {change : σ → σ} (same : ∀ state, view (change state) = view state) :
    (modify change : Action σ Unit).Keeps view :=
  same

/-- An action on a part leaves alone what does not depend on the part. -/
theorem keeps_focus {get : τ → σ} {set : τ → σ → τ} {view : τ → γ}
    (apart : ∀ whole part, view (set whole part) = view whole) (action : Action σ α) :
    (focus get set action).Keeps view :=
  fun whole => apart whole _

theorem keeps_random {entropy : Entropy σ}
    (draws : ∀ count state, view (entropy.draw count state).2 = view state) (count : Nat)
    (refusal : String → Stop) : (random entropy count refusal).Keeps view := by
  intro before
  rw [← draws count before]
  unfold random
  rcases entropy.draw count before with ⟨_ | _, after⟩ <;> rfl

theorem unfailing_pure (value : α) : (pure value : Action σ α).Unfailing :=
  fun _ _ _ => not_stops_pure

theorem unfailing_get : (get : Action σ σ).Unfailing := by
  intro before stop after stopped
  cases stopped

theorem unfailing_modify (change : σ → σ) : (modify change : Action σ Unit).Unfailing := by
  intro before stop after stopped
  cases stopped

theorem unfailing_focus {get : τ → σ} {set : τ → σ → τ} {action : Action σ α}
    (unfailing : action.Unfailing) : (focus get set action).Unfailing := by
  intro before stop after stopped
  obtain ⟨part, run, -⟩ := run_focus.mp stopped
  exact unfailing (get before) stop part run

end Parts

/-! ### Attempts -/

/-- The action stops with failures alone. -/
def Reports (action : Action σ α) : Prop :=
  ∀ before stop after, action.Stops before stop after → ∃ failure, stop = .failed failure

namespace Reports

variable {action : Action σ α}

private theorem bind_yields {next : α → Action σ β} (first : action.Reports)
    (rest : ∀ value, action.Yields value → (next value).Reports) : (action >>= next).Reports := by
  intro before stop after stopped
  rcases stops_bind.mp stopped with stopped | ⟨value, between, returned, stopped⟩
  · exact first before stop after stopped
  · exact rest value returned.yields between stop after stopped

theorem bind {next : α → Action σ β} (first : action.Reports)
    (rest : ∀ value, (next value).Reports) : (action >>= next).Reports :=
  first.bind_yields fun value _ => rest value

/-- All that such an action reports is held back by an attempt. -/
theorem unfailing_attempt (reports : action.Reports) : (Action.attempt action).Unfailing := by
  intro before stop after stopped
  unfold Stops Action.attempt at stopped
  rcases run : action before with ⟨cause | value, between⟩
  · obtain ⟨failure, rfl⟩ := reports before cause between run
    simp only [run] at stopped
    cases stopped
  · simp only [run] at stopped
    cases stopped

theorem mapFailure (reports : action.Reports) (change : Failure → Failure) :
    (Action.mapFailure change action).Reports := by
  intro before stop after stopped
  obtain ⟨cause, failed, rfl⟩ := of_stops_mapFailure stopped
  obtain ⟨failure, rfl⟩ := reports before cause after failed
  exact ⟨change failure, rfl⟩

theorem focus {get : τ → σ} {set : τ → σ → τ} (reports : action.Reports) :
    (Action.focus get set action).Reports := by
  intro before stop after stopped
  obtain ⟨part, run, -⟩ := run_focus.mp stopped
  exact reports (get before) stop part run

end Reports

theorem Unfailing.reports {action : Action σ α} (unfailing : action.Unfailing) :
    action.Reports :=
  fun before stop after stopped => (unfailing before stop after stopped).elim

theorem reports_fail (failure : Failure) : (fail failure : Action σ α).Reports := by
  intro before stop after stopped
  cases stopped
  exact ⟨failure, rfl⟩

end Keywarden.Action
