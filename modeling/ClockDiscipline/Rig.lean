/-
  ClockDiscipline.Rig — the four collaborators of the control loop.

  The loop is written against what a PPS source, an oscillator, a receiver and a
  decision engine can be asked, over any monad `m`, so that it says the same of the
  built-in parts, of scripted ones, and of any other. A failure that a collaborator
  reports is a value; whether it ends the loop is the loop's business.
-/

import ClockDiscipline.Calibration
import ClockDiscipline.Control
import ClockDiscipline.IoError
import ClockDiscipline.Span

namespace ClockDiscipline

/-- How a wait for the next edge ended. -/
inductive EdgeEvent where
  /-- A sample can be read. -/
  | dataReady
  /-- Nothing came in time. -/
  | timeout
  /-- A signal cut the wait short. -/
  | interrupted
  deriving DecidableEq, Repr, Inhabited

/-- Source of one phase error for each edge, which can shift its own phase. -/
structure EdgeSource (m : Type → Type) where
  name : String
  wait : Span → m (Except IoError EdgeEvent)
  /-- The phase error of the latest edge in nanoseconds. A transient failure means that it is not there yet. -/
  read : m (Except IoError Int32)
  /-- Shift the phase counter by nanoseconds. -/
  shift : Int32 → m (Except IoError Unit)
  release : m Unit

/-- The disciplined device: a frequency control with a fine and a coarse part. -/
structure Oscillator (m : Type → Type) where
  model : String
  controls : m (Except String Controls)
  /-- Temperature, if the model has a sensor. -/
  temperature : m (Except String (Option UInt16))
  /-- Apply the setpoint of an engine's output. -/
  apply : ControlOutput → m (Except String Unit)
  /-- Measure what the plan asks for, sampling the source; nothing if the procedure failed. It blocks for as
      long as it needs. -/
  calibrate : Calibration.Plan → EdgeSource m → Polarity → m (Option Calibration.Results)
  /-- Keep the control values between these two. -/
  bound : UInt32 → UInt32 → m Unit
  release : m Unit

/-- What a receiver says about its fix. -/
inductive Fix where
  /-- There is one that cannot be used. -/
  | invalid
  /-- There is none yet. -/
  | waiting
  | valid
  deriving DecidableEq, Repr, Inhabited

/-- Whether phase errors of this cycle can be trusted. -/
def Fix.isValid (f : Fix) : Bool := f == .valid

def Fix.text : Fix → String
  | .invalid => "Invalid"
  | .waiting => "Waiting"
  | .valid => "Valid"

/-- Receiver of the reference, asked once a cycle. -/
structure Receiver (m : Type → Type) where
  poll : m (Except String Fix)
  /-- Quantization error of the latest edge in picoseconds, as of the last poll. -/
  qerr : m Int32

/-- Maps one sample to a corrective action. -/
structure Engine (m : Type → Type) where
  dacMin : UInt32
  dacMax : UInt32
  process : ControlInput → m (Except String ControlOutput)
  /-- What to measure for a calibration, if there is a way to calibrate. -/
  plan : m (Option Calibration.Plan)
  /-- Take what the oscillator measured. -/
  submit : Calibration.Plan → Calibration.Results → m Unit
  release : m Unit

structure Rig (m : Type → Type) where
  pps : EdgeSource m
  oscillator : Oscillator m
  receiver : Receiver m
  engine : Engine m

end ClockDiscipline
