/-
  ClockDiscipline.Loop.Turn — one edge in, one corrective action out.

  A turn waits for an edge and reads its sample. A cut wait, a sample that is not there
  yet and a sample to be ignored end it early; else it reads the oscillator and the
  receiver, asks the engine, and carries out the answer. A turn that fails leaves the
  state of the loop as it was.
-/

import ClockDiscipline.Loop.Correction
import ClockDiscipline.Loop.State
import ClockDiscipline.Settings

namespace ClockDiscipline

/-- How a turn ended that did not fail. -/
inductive Turn where
  /-- A signal cut the wait short. -/
  | interrupted
  /-- The sample of an edge was not there yet. -/
  | notReady
  /-- The sample showed our own phase jump and was ignored. -/
  | skipped
  /-- The action was carried out. -/
  | acted (action : Action)
  deriving DecidableEq, Repr, Inhabited

namespace Turn

variable {m : Type → Type} [Monad m] [Journal m]

/-- What becomes of a good sample that is not to be ignored. -/
def act (rig : Rig m) (settings : Settings) (s : LoopState) (sample : Int32) : ExceptT Error m (Turn × LoopState) := do
  let readout ← Readout.take rig.oscillator rig.receiver
  let input := ControlInput.build sample settings.polarity readout
  Journal.info .loop ("Input: " ++ input.text)
  let output ← driverError "decision engine" (rig.engine.process input)
  Journal.info .loop ("Output: " ++ output.text)
  let ignore ← Correction.carryOut rig settings.polarity output
  return (.acted output.action, if ignore then s.ignoring else s)

def take (rig : Rig m) (settings : Settings) (s : LoopState) : ExceptT Error m (Turn × LoopState) := do
  Journal.debug .loop "Waiting for PPS event"
  match ← ioError "waiting for PPS event" (rig.pps.wait settings.ppsTimeout) with
  | .interrupted => return (.interrupted, s)
  | .timeout => throw .ppsTimeout
  | .dataReady =>
    match ← ExceptT.lift rig.pps.read with
    | .error e =>
      if e.isTransient then
        Journal.debug .loop ("Phase error not readable yet: " ++ e.message)
        return (.notReady, s)
      else throw (.io "reading phase error" e)
    | .ok sample =>
      let (ignored, s) := s.takeIgnored
      if ignored then
        Journal.info .loop "Ignoring 1 input due to phase jump"
        return (.skipped, s)
      else act rig settings s sample

end Turn

end ClockDiscipline
