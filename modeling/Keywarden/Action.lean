import Keywarden.Entropy
import Keywarden.Failure

/-!
# Actions

An action works on a state and yields a value or stops.  Most stops report a
failure.  Two do not: the process breaks off when random bytes are refused where
nobody expects it, and it waits when a terminal has no line left to read.
-/

namespace Keywarden

/-- Why an action has no value. -/
inductive Stop
  /-- The failure is reported to the caller. -/
  | failed (failure : Failure)
  /-- The process broke off. -/
  | aborted
  /-- A terminal has to be typed at first. -/
  | awaiting
deriving DecidableEq, Repr

/-- An action on a state; the changes before a stop are kept. -/
abbrev Action (σ : Type) := ExceptT Stop (StateM σ)

namespace Action

variable {σ τ α : Type}

def fail (failure : Failure) : Action σ α :=
  throw (.failed failure)

def ofExcept : Except Failure α → Action σ α
  | .ok value => pure value
  | .error failure => fail failure

/-- The outcome of an action as a value; only failures are held back. -/
def attempt (action : Action σ α) : Action σ (Except Failure α) := fun state =>
  match action state with
  | (.ok value, state) => (.ok (.ok value), state)
  | (.error (.failed failure), state) => (.ok (.error failure), state)
  | (.error stop, state) => (.error stop, state)

/-- Reports failures in another form. -/
def mapFailure (change : Failure → Failure) (action : Action σ α) : Action σ α := fun state =>
  match action state with
  | (.error (.failed failure), state) => (.error (.failed (change failure)), state)
  | result => result

/-- An action on a part of the state. -/
def focus (get : τ → σ) (set : τ → σ → τ) (action : Action σ α) : Action τ α := fun whole =>
  let (outcome, part) := action (get whole)
  (outcome, set whole part)

/-- Random bytes; where they are refused, the reason decides how to stop. -/
def random (entropy : Entropy σ) (count : Nat) (refusal : String → Stop) : Action σ Bytes :=
  fun state =>
    match entropy.draw count state with
    | (.ok bytes, state) => (.ok bytes, state)
    | (.error reason, state) => (.error (refusal reason), state)

/-- Random bytes without which the process breaks off. -/
def certainRandom (entropy : Entropy σ) (count : Nat) : Action σ Bytes :=
  random entropy count fun _ => .aborted

end Action

end Keywarden
