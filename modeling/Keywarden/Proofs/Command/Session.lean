import Keywarden.Command.Run

/-!
# Sessions

Command lines that are run one after the other share the disk and nothing else: each of them
has its own console, its own time and its own source of random bytes.
-/

namespace Keywarden

variable {σ : Type}

/-- A command line with all that it meets besides the disk. -/
structure Call (σ : Type) where
  around : Surroundings σ
  arguments : List Bytes
  console : Console
  host : σ

/-- A call that is run on a disk. -/
structure Turn (σ : Type) where
  call : Call σ
  before : Disk

namespace Turn

/-- The machine that the call finds. -/
def machine (turn : Turn σ) : Machine σ where
  volume := .ofDisk turn.before
  console := turn.call.console
  printed := []
  host := turn.call.host

/-- What running the call gives. -/
def result (turn : Turn σ) : Ending × Machine σ :=
  CommandLine.run turn.call.around turn.call.arguments turn.machine

def ending (turn : Turn σ) : Ending :=
  turn.result.1

/-- The machine that the call leaves. -/
def after (turn : Turn σ) : Machine σ :=
  turn.result.2

/-- The disk that the call leaves. -/
def disk (turn : Turn σ) : Disk :=
  turn.after.volume.disk

end Turn

namespace Session

def turns : List (Call σ) → Disk → List (Turn σ)
  | [], _ => []
  | call :: rest, disk => ⟨call, disk⟩ :: turns rest (Turn.disk ⟨call, disk⟩)

def disk : List (Call σ) → Disk → Disk
  | [], disk => disk
  | call :: rest, start => disk rest (Turn.disk ⟨call, start⟩)

end Session

end Keywarden
