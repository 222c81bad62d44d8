import Keywarden.Proofs.Action.Keeps

/-!
# Properties that programs inherit from their parts

Some properties of actions hold of every program that is put together from actions that have
them: keeping a view, giving the same outcome from states that are related, or staying within
some states until a failure is reported.  What a program inherits is proved once, for all such
properties.
-/

namespace Keywarden.Action

variable {σ τ α β γ : Type}

/-- The property holds of pure values and of failures, and of a sequence and an attempt when it
holds of the parts. -/
structure Inherited (Holds : ∀ {α : Type}, Action σ α → Prop) : Prop where
  pure : ∀ {α : Type} (value : α), Holds (Pure.pure value : Action σ α)
  fail : ∀ {α : Type} (failure : Failure), Holds (Action.fail failure : Action σ α)
  bind : ∀ {α β : Type} {action : Action σ α} {next : α → Action σ β},
    Holds action → (∀ value, Holds (next value)) → Holds (action >>= next)
  attempt : ∀ {α : Type} {action : Action σ α}, Holds action → Holds (Action.attempt action)

theorem Inherited.ofExcept {Holds : ∀ {α : Type}, Action σ α → Prop}
    (inherited : Inherited Holds) (result : Except Failure α) :
    Holds (Action.ofExcept result : Action σ α) := by
  cases result with
  | ok value => exact inherited.pure value
  | error failure => exact inherited.fail failure

theorem inherited_keeps (view : σ → γ) : Inherited fun action : Action σ _ => action.Keeps view where
  pure := keeps_pure view
  fail := keeps_fail view
  bind := Keeps.bind
  attempt := Keeps.attempt

theorem inherited_reports : Inherited fun action : Action σ _ => action.Reports where
  pure value := (unfailing_pure value).reports
  fail := reports_fail
  bind := Reports.bind
  attempt reports := reports.unfailing_attempt.reports

/-- The property is inherited even where the rest of a sequence has it only after the values that
the first part yields. -/
structure Selective (Holds : ∀ {α : Type}, Action σ α → Prop) : Prop extends Inherited Holds where
  bind_yields : ∀ {α β : Type} {action : Action σ α} {next : α → Action σ β},
    Holds action → (∀ value, action.Yields value → Holds (next value)) → Holds (action >>= next)

theorem selective_keeps (view : σ → γ) : Selective fun action : Action σ _ => action.Keeps view where
  toInherited := inherited_keeps view
  bind_yields := Keeps.bind_yields

/-! ### Two runs -/

/-- From related states two actions have the same outcome, and they leave states that are
related in turn. -/
def Alike (related later : σ → σ → Prop) (left right : Action σ α) : Prop :=
  ∀ first second, related first second →
    (left first).1 = (right second).1 ∧ later (left first).2 (right second).2

/-- From related states the action has the same outcome, and the states stay related. -/
def Respects (related : σ → σ → Prop) (action : Action σ α) : Prop :=
  Alike related related action action

namespace Alike

variable {related between later : σ → σ → Prop} {left right : Action σ α}

/-- A stop in the first part ends both runs, so that the states have to be related as those at
the end are. -/
theorem bind_returns {next other : α → Action σ β} (front : Alike related between left right)
    (weaker : ∀ first second, between first second → later first second)
    (rest : ∀ value first second after, related first second → left.Returns first value after →
      Alike between later (next value) (other value)) :
    Alike related later (left >>= next) (right >>= other) := by
  intro first second states
  obtain ⟨outcome, after⟩ := front first second states
  change (ExceptT.bindCont next (left first).1 (left first).2).1 =
      (ExceptT.bindCont other (right second).1 (right second).2).1 ∧
    later (ExceptT.bindCont next (left first).1 (left first).2).2
      (ExceptT.bindCont other (right second).1 (right second).2).2
  rw [← outcome]
  rcases ran : (left first).1 with stop | value
  · exact ⟨rfl, weaker _ _ after⟩
  · exact rest value first second (left first).2 states (Prod.ext ran rfl) _ _ after

theorem bind_yields {next other : α → Action σ β} (front : Alike related between left right)
    (weaker : ∀ first second, between first second → later first second)
    (rest : ∀ value, left.Yields value → Alike between later (next value) (other value)) :
    Alike related later (left >>= next) (right >>= other) :=
  front.bind_returns weaker fun value _ _ _ _ returned => rest value returned.yields

theorem bind {next other : α → Action σ β} (front : Alike related between left right)
    (weaker : ∀ first second, between first second → later first second)
    (rest : ∀ value, Alike between later (next value) (other value)) :
    Alike related later (left >>= next) (right >>= other) :=
  front.bind_yields weaker fun value _ => rest value

theorem attempt (alike : Alike related later left right) :
    Alike related later (Action.attempt left) (Action.attempt right) := by
  intro first second states
  obtain ⟨outcome, after⟩ := alike first second states
  unfold Action.attempt
  rcases leftRun : left first with ⟨found, between⟩
  rcases rightRun : right second with ⟨other, final⟩
  rw [leftRun, rightRun] at outcome after
  cases outcome
  rcases found with (_ | _ | _) | _ <;> exact ⟨rfl, after⟩

theorem mapFailure (alike : Alike related later left right) (change : Failure → Failure) :
    Alike related later (Action.mapFailure change left) (Action.mapFailure change right) := by
  intro first second states
  obtain ⟨outcome, after⟩ := alike first second states
  unfold Action.mapFailure
  rcases leftRun : left first with ⟨found, between⟩
  rcases rightRun : right second with ⟨other, final⟩
  rw [leftRun, rightRun] at outcome after
  cases outcome
  rcases found with (_ | _ | _) | _ <;> exact ⟨rfl, after⟩

end Alike

theorem inherited_respects (related : σ → σ → Prop) :
    Inherited fun action : Action σ _ => action.Respects related where
  pure _ _ _ states := ⟨rfl, states⟩
  fail _ _ _ states := ⟨rfl, states⟩
  bind front rest := front.bind (fun _ _ states => states) rest
  attempt := Alike.attempt

theorem selective_respects (related : σ → σ → Prop) :
    Selective fun action : Action σ _ => action.Respects related where
  toInherited := inherited_respects related
  bind_yields front rest := front.bind_yields (fun _ _ states => states) rest

/-- From a state with the property the action leaves one with the property, and it stops with
failures alone. -/
def ReportsWithin (property : σ → Prop) (action : Action σ α) : Prop :=
  ∀ before outcome after, property before → action before = (outcome, after) →
    property after ∧ ∀ stop, outcome = .error stop → ∃ failure, stop = .failed failure

namespace ReportsWithin

variable {property : σ → Prop} {action : Action σ α}

theorem bind {next : α → Action σ β} (front : action.ReportsWithin property)
    (rest : ∀ value, (next value).ReportsWithin property) :
    (action >>= next).ReportsWithin property := by
  intro before outcome after given run
  cases outcome with
  | ok value =>
    obtain ⟨found, between, returned, run⟩ := returns_bind.mp run
    exact rest found between _ after (front before _ between given returned).1 run
  | error stop =>
    rcases stops_bind.mp run with stopped | ⟨found, between, returned, stopped⟩
    · obtain ⟨kept, reports⟩ := front before _ after given stopped
      refine ⟨kept, fun cause same => ?_⟩
      cases same
      exact reports stop rfl
    · exact rest found between _ after (front before _ between given returned).1 stopped

private theorem attempt (within : action.ReportsWithin property) :
    (Action.attempt action).ReportsWithin property := by
  intro before outcome after given run
  unfold Action.attempt at run
  rcases ran : action before with ⟨found, between⟩
  obtain ⟨kept, reports⟩ := within before found between given ran
  rw [ran] at run
  rcases found with stop | value
  · obtain ⟨failure, rfl⟩ := reports stop rfl
    cases run
    exact ⟨kept, nofun⟩
  · cases run
    exact ⟨kept, nofun⟩

end ReportsWithin

def FailsWithin (property : σ → Prop) (action : Action σ α) : Prop :=
  ∀ before, property before → ∃ failure after, action.Stops before (.failed failure) after

namespace FailsWithin

variable {property : σ → Prop} {action : Action σ α}

theorem bind (fails : action.FailsWithin property) (next : α → Action σ β) :
    (action >>= next).FailsWithin property := by
  intro before given
  obtain ⟨failure, after, stopped⟩ := fails before given
  exact ⟨failure, after, stops_bind.mpr (.inl stopped)⟩

/-- What comes before the failure may fail as well. -/
theorem after {next : α → Action σ β} (front : action.ReportsWithin property)
    (rest : ∀ value, action.Yields value → (next value).FailsWithin property) :
    (action >>= next).FailsWithin property := by
  intro before given
  rcases returns_or_stops action before with ⟨value, between, returned⟩ | ⟨stop, between, stopped⟩
  · obtain ⟨failure, final, failed⟩ :=
      rest value returned.yields between (front before _ between given returned).1
    exact ⟨failure, final, stops_bind.mpr (.inr ⟨value, between, returned, failed⟩)⟩
  · obtain ⟨failure, rfl⟩ := (front before _ between given stopped).2 stop rfl
    exact ⟨failure, between, stops_bind.mpr (.inl stopped)⟩

end FailsWithin

end Keywarden.Action
