/-
  ClockDiscipline.Receiver — the built-in receivers.

  A missing receiver never gets a fix. A simulated one waits for its fix through a number
  of polls and stays valid from then on. Neither knows a quantization error.
-/

import ClockDiscipline.Config
import ClockDiscipline.Halt
import ClockDiscipline.Rig

namespace ClockDiscipline

/-- Polls left until the simulated fix is there. -/
structure Warmup where
  left : UInt32
  deriving DecidableEq, Repr, Inhabited

def Warmup.poll (w : Warmup) : Fix × Warmup := if 0 < w.left then (.waiting, ⟨w.left - 1⟩) else (.valid, w)

namespace Receiver

variable {m : Type → Type} [Monad m]

def missing : Receiver m where
  poll := return .ok .waiting
  qerr := return 0

def simulated (cell : Cell m Warmup) : Receiver m where
  poll := do return .ok (← cell.step Warmup.poll)
  qerr := return 0

/-- The receiver that the settings select. -/
def select (c : Config) : Except Error (Receiver m) :=
  match c.getD "gnss" "none" with
  | "none" => .ok missing
  | other => .error (.unsupported "GNSS source" other)

end Receiver

end ClockDiscipline
