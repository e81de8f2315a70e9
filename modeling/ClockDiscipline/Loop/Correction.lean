/-
  ClockDiscipline.Loop.Correction — carrying out the action that the engine asked for.

  Exactly one of three things is done: a phase jump, a calibration, or handing the output
  to the oscillator, an unknown action included. Every failure is fatal. `carryOut`
  answers whether the next sample is to be ignored: after a phase jump that reached the
  device, and never else.
-/

import ClockDiscipline.Loop.Readout

namespace ClockDiscipline.Correction

variable {m : Type → Type} [Monad m] [Journal m]

/-- Write a one-shot correction to the PPS device. -/
def shiftPhase (pps : EdgeSource m) (ns : Int32) : ExceptT Error m Unit := do
  ioError "apply phase offset" (pps.shift ns)
  Journal.info .correction (pps.name ++ ": applied a phase offset correction of " ++ Decimal.text ns.toInt ++ "ns")

/-- A thing that a collaborator should have given. -/
def expected {α : Type} (operation : String) (x : m (Option α)) : ExceptT Error m α := do
  match ← ExceptT.lift x with
  | some a => return a
  | none => throw (.outOfMemory operation)

/-- The plan from the engine, the measurement by the oscillator, the results back to the engine. -/
def calibrate (rig : Rig m) (p : Polarity) : ExceptT Error m Unit := do
  Journal.debug .correction "Getting calibration parameters"
  let plan ← expected "calibration parameters" rig.engine.plan
  Journal.debug .correction "Running oscillator calibration"
  let results ← expected "oscillator calibration" (rig.oscillator.calibrate plan rig.pps p)
  rig.engine.submit plan results

/-- Tell which control an adjustment is for. -/
def announce (o : ControlOutput) : ExceptT Error m Unit :=
  match o.action with
  | .adjustCoarse =>
    Journal.info .correction ("Coarse adjustment to value " ++ Decimal.text o.setpoint.toNat ++ " requested")
  | .adjustFine =>
    Journal.info .correction ("Fine adjustment to value " ++ Decimal.text o.setpoint.toNat ++ " requested")
  | _ => pure ()

def carryOut (rig : Rig m) (p : Polarity) (o : ControlOutput) : ExceptT Error m Bool := do
  announce o
  match o.action with
  | .phaseJump =>
    Journal.info .correction "Phase jump requested"
    shiftPhase rig.pps (-o.phaseShift)
    return true
  | .calibrate =>
    Journal.info .correction "Calibration requested"
    calibrate rig p
    return false
  | _ =>
    Journal.debug .correction "Applying output to oscillator"
    driverError "apply output" (rig.oscillator.apply o)
    return false

end ClockDiscipline.Correction
