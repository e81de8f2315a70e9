/-
  ClockDiscipline.Loop.Readout — the state of oscillator and receiver in one cycle.

  Everything the engine needs besides the phase error is read in one order: temperature,
  fix, quantization error, controls. A missing or lost fix is no failure; it only marks
  the phase error as untrusted.
-/

import ClockDiscipline.Error
import ClockDiscipline.Journal
import ClockDiscipline.Rig

namespace ClockDiscipline

structure Readout where
  controls : Controls
  /-- 0 without a sensor. -/
  temperature : UInt16
  valid : Bool
  qerr : Int32
  deriving DecidableEq, Repr, Inhabited

/-- The failure of an operation that a collaborator reports. -/
def driverError {m : Type → Type} {α : Type} [Monad m] (operation : String) (x : m (Except String α)) : ExceptT Error m α :=
  ExceptT.mk do return (← x).mapError (.driver operation)

/-- The failure of an operation of the system. -/
def ioError {m : Type → Type} {α : Type} [Monad m] (operation : String) (x : m (Except IoError α)) : ExceptT Error m α :=
  ExceptT.mk do return (← x).mapError (.io operation)

namespace Readout

variable {m : Type → Type} [Monad m] [Journal m]

def temperature? (o : Oscillator m) : ExceptT Error m UInt16 := do
  return (← driverError "oscillator temperature" o.temperature).getD 0

def validity (r : Receiver m) : ExceptT Error m Bool := do
  let fix ← driverError "polling receiver data" r.poll
  if fix != .valid then
    Journal.debug .readout ("GNSS status " ++ fix.text ++ ", phase error not trusted")
  return fix.isValid

def readControls (o : Oscillator m) : ExceptT Error m Controls := do
  let c ← driverError "oscillator controls" o.controls
  Journal.debug .readout ("Oscillator controls: " ++ c.text)
  return c

def take (o : Oscillator m) (r : Receiver m) : ExceptT Error m Readout := do
  Journal.debug .readout "Getting oscillator temperature"
  let temperature ← temperature? o
  Journal.debug .readout "Getting GNSS data"
  let valid ← validity r
  let qerr ← r.qerr
  let controls ← readControls o
  return ⟨controls, temperature, valid, qerr⟩

end Readout

/-- One cycle's sample and readout as the engine takes them. -/
def ControlInput.build (sample : Int32) (p : Polarity) (r : Readout) : ControlInput :=
  ⟨.ofSample sample p, r.valid, r.controls.lock, r.temperature, r.qerr, r.controls.fine, r.controls.coarse⟩

end ClockDiscipline
