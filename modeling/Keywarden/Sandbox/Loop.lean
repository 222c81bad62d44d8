import Keywarden.Sandbox

/-!
# The service loop of a sandbox

Calls wait in a queue and are served one at a time, in order, each into the reply
slot of its own caller.  The loop goes on when the queue is closed and ends only
after shutdown.  Which of two possible moves comes first is left open: a run is any
sequence of moves that are possible one after the other.
-/

namespace Keywarden.Sandbox

open Json (Content)

/-- A call on its way; the slot is the number of the reply slot of its caller. -/
structure HostCall where
  slot : Nat
  entryPoint : String
  args : Content

/-- What the service produced for a call. -/
structure Answered where
  call : HostCall
  result : Except HostError Content

/-- The loop and its channels. -/
structure Loop (σ : Type) where
  engineState : σ
  /-- Calls sent and not yet served, in order. -/
  queue : List HostCall
  /-- Whether the host can still send calls. -/
  isOpen : Bool
  /-- Whether the service still listens for calls. -/
  isAccepting : Bool
  /-- Whether shutdown was signalled, or can no longer be. -/
  isShutdown : Bool
  /-- Whether the loop goes on. -/
  isRunning : Bool
  /-- How many calls were sent. -/
  sent : Nat
  /-- Reply slots nobody waits at any more. -/
  abandoned : List Nat
  /-- Every result the service produced, in order. -/
  answered : List Answered

/-- A move of the host or of the service. -/
inductive Move
  | send (entryPoint : String) (args : Content)
  | abandon (slot : Nat)
  | closeCalls
  | shutdown
  /-- The service takes and serves the first call that waits. -/
  | serve
  /-- The service finds the queue empty and closed. -/
  | stopAccepting
  /-- The service notices the shutdown. -/
  | finish

namespace Loop

variable {σ : Type}

/-- A loop before its first move. -/
def start (engineState : σ) : Loop σ :=
  ⟨engineState, [], true, true, false, true, 0, [], []⟩

def serveCall (engine : Engine σ) (loop : Loop σ) (next : HostCall) (rest : List HostCall) :
    Loop σ :=
  let (result, engineState) := call engine next.entryPoint next.args loop.engineState
  { loop with engineState, queue := rest, answered := loop.answered ++ [⟨next, result⟩] }

def step? (engine : Engine σ) (loop : Loop σ) : Move → Option (Loop σ)
  | .send entryPoint args =>
    if loop.isOpen && loop.isRunning then
      some { loop with
        queue := loop.queue ++ [⟨loop.sent, entryPoint, args⟩], sent := loop.sent + 1 }
    else none
  | .abandon slot => some { loop with abandoned := slot :: loop.abandoned }
  | .closeCalls => some { loop with isOpen := false }
  | .shutdown => some { loop with isShutdown := true }
  | .serve =>
    match loop.queue with
    | next :: rest =>
      if loop.isRunning && loop.isAccepting then some (loop.serveCall engine next rest)
      else none
    | [] => none
  | .stopAccepting =>
    if loop.isRunning && loop.isAccepting && loop.queue.isEmpty && !loop.isOpen then
      some { loop with isAccepting := false }
    else none
  | .finish =>
    if loop.isRunning && loop.isShutdown then some { loop with isRunning := false } else none

/-- What the caller at a slot receives. -/
def reply? (loop : Loop σ) (slot : Nat) : Option (Except HostError Content) :=
  if loop.abandoned.contains slot then none
  else (loop.answered.find? fun answered => answered.call.slot == slot).map Answered.result

end Loop

end Keywarden.Sandbox
