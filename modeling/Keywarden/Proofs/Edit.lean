import Keywarden.Repository
import Keywarden.Proofs.Action.Keeps

/-!
# Edits of an info file

What the steps of an edit do to the info file.  A quiet edit leaves the file alone
whatever happens, an edit is atomic when it leaves the file alone on every stop,
and it is total when it never stops.  A sequence is atomic when everything before
its first change is quiet and everything after it is total.
-/

namespace Keywarden.Edit

open Keywarden.Action

variable {σ α β : Type}

section Steps

variable {before after : Session σ} {stop : Stop}

/-- A lifted action has its own outcome and changes only the state beside the file. -/
theorem run_lift {action : Action σ α} {outcome : Except Stop α} :
    lift action before = (outcome, after) ↔
      ∃ host, action before.host = (outcome, host) ∧ { before with host } = after := by
  simp only [lift, focus]
  rcases action before.host with ⟨found, between⟩
  constructor
  · intro run
    cases run
    exact ⟨between, rfl, rfl⟩
  · rintro ⟨host, run, rfl⟩
    cases run
    rfl

theorem returns_lift {action : Action σ α} {value : α} :
    (lift action).Returns before value after ↔
      ∃ host, action.Returns before.host value host ∧ { before with host } = after :=
  run_lift

theorem stops_lift {action : Action σ α} :
    (lift action).Stops before stop after ↔
      ∃ host, action.Stops before.host stop host ∧ { before with host } = after :=
  run_lift

theorem returns_get {found : Session σ} :
    (get : Edit σ (Session σ)).Returns before found after ↔
      before = found ∧ before = after := by
  change (Except.ok before, before) = (Except.ok found, after) ↔ _
  simp

theorem returns_info {found : InfoFile} :
    (info : Edit σ InfoFile).Returns before found after ↔
      before.info = found ∧ before = after := by
  change (Except.ok before.info, before) = (Except.ok found, after) ↔ _
  simp

theorem returns_setInfo {written : InfoFile} {value : Unit} :
    (setInfo written : Edit σ Unit).Returns before value after ↔
      { before with info := written } = after := by
  change (Except.ok (), ({ before with info := written } : Session σ)) =
    (Except.ok value, after) ↔ _
  simp

/-- An edit of a given file returns exactly when the edit returns from it. -/
theorem returns_onFile {edit : Edit σ α} {info edited : InfoFile} {value : α}
    {host final : σ} :
    (onFile info edit).Returns host (value, edited) final ↔
      edit.Returns ⟨info, host⟩ value ⟨edited, final⟩ := by
  simp only [Returns, onFile]
  rcases edit ⟨info, host⟩ with ⟨_ | found, ⟨written, between⟩⟩
  · constructor <;> intro run <;> cases run
  · constructor <;> intro run <;> cases run <;> rfl

end Steps

/-- The edit leaves the info file alone. -/
def Quiet (edit : Edit σ α) : Prop :=
  ∀ before, (edit before).2.info = before.info

/-- The edit leaves the info file alone when it stops. -/
def Atomic (edit : Edit σ α) : Prop :=
  ∀ before stop after, edit.Stops before stop after → after.info = before.info

def Total (edit : Edit σ α) : Prop :=
  ∀ before stop after, ¬ edit.Stops before stop after

theorem Quiet.keeps {edit : Edit σ α} (quiet : edit.Quiet) : edit.Keeps Session.info :=
  quiet

theorem Quiet.atomic {edit : Edit σ α} (quiet : edit.Quiet) : edit.Atomic :=
  quiet.keeps.onStop

theorem Total.atomic {edit : Edit σ α} (total : edit.Total) : edit.Atomic :=
  fun before stop after stopped => (total before stop after stopped).elim

theorem quiet_lift (action : Action σ α) : (lift action).Quiet :=
  fun _ => rfl

theorem quiet_info : (info : Edit σ InfoFile).Quiet :=
  fun _ => rfl

theorem quiet_get : (get : Edit σ (Session σ)).Quiet :=
  keeps_get Session.info

theorem quiet_fail (failure : Failure) : Quiet (fail failure : Edit σ α) :=
  keeps_fail Session.info failure

theorem quiet_ofExcept (result : Except Failure α) :
    Quiet (ofExcept result : Edit σ α) :=
  keeps_ofExcept Session.info result

theorem quiet_attempt {edit : Edit σ α} (quiet : edit.Quiet) :
    Quiet (attempt edit : Edit σ (Except Failure α)) :=
  quiet.keeps.attempt

theorem total_pure (value : α) : (pure value : Edit σ α).Total :=
  unfailing_pure value

theorem total_info : (info : Edit σ InfoFile).Total := by
  intro before stop after stopped
  cases stopped

theorem total_setInfo (written : InfoFile) : (setInfo written : Edit σ Unit).Total :=
  unfailing_modify _

theorem Total.bind {edit : Edit σ α} {next : α → Edit σ β} (first : edit.Total)
    (rest : ∀ value, (next value).Total) : (edit >>= next).Total :=
  Unfailing.bind first rest

/-- What comes before the first change may stop at any point. -/
theorem Quiet.bind_atomic {edit : Edit σ α} {next : α → Edit σ β} (quiet : edit.Quiet)
    (rest : ∀ value, (next value).Atomic) : (edit >>= next).Atomic :=
  quiet.keeps.bind_onStop rest

/-- After the first change nothing may stop. -/
theorem Atomic.bind_total {edit : Edit σ α} {next : α → Edit σ β} (atomic : edit.Atomic)
    (rest : ∀ value, (next value).Total) : (edit >>= next).Atomic :=
  KeepsOnStop.bind_unfailing atomic rest

end Keywarden.Edit
