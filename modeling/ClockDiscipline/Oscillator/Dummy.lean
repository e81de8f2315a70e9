/-
  ClockDiscipline.Oscillator.Dummy — an oscillator that keeps its control values in memory.

  It is the `dummy` model, and the disciplined device of the bench, which reads the fine
  control back. Every write of the fine control goes through the range it is bound to.

  A calibration applies each control value of the plan, takes as many samples as asked
  and restores the control value it found, whether it succeeded or not. An interrupted
  wait and a sample that is not there yet are waited for again, as long as the patience
  for that sample lasts; a timeout and any other failure end the procedure.
-/

import ClockDiscipline.Config
import ClockDiscipline.Halt
import ClockDiscipline.Journal
import ClockDiscipline.Rig

namespace ClockDiscipline

structure Dummy where
  fine : UInt32
  coarse : UInt32
  lock : Bool
  range : DacRange
  deriving DecidableEq, Repr

namespace Dummy

/-- Starts unlocked and bound to no range. -/
def create (fine coarse : UInt32) : Dummy := ⟨fine, coarse, false, .full⟩

instance : Inhabited Dummy := ⟨create 0 0⟩

def setFine (s : Dummy) (v : UInt32) : Dummy := { s with fine := s.range.clamp v }

/-- Bind the fine control to a range, and move it into that range. -/
def bound (s : Dummy) (lo hi : UInt32) : Dummy := { s with range := .between lo hi }.setFine s.fine

def controls (s : Dummy) : Controls := ⟨s.fine, s.coarse, s.lock⟩

/-- An adjustment locks; any other output moves nothing. -/
def apply (s : Dummy) (o : ControlOutput) : Dummy :=
  match o.action with
  | .adjustFine => { s.setFine o.setpoint with lock := true }
  | .adjustCoarse => { s with coarse := o.setpoint, lock := true }
  | _ => s

/-- Mid-range, unless the settings say otherwise. -/
def ofConfig (c : Config) : Except Error Dummy := do
  let fine ← c.valueD "dummy-fine" (32768 : UInt32)
  let coarse ← c.valueD "dummy-coarse" (0 : UInt32)
  return create fine coarse

/-- How long a calibration waits for each edge. -/
def edgeTimeout : Span := .ofSecs 4

def noEdge : IoError := .custom .timedOut "no PPS edge during calibration"

section

variable {m : Type → Type} [Monad m]

/-- Wait for one edge and read it; nothing if it has to be waited for again. -/
def nextSample (pps : EdgeSource m) : m (Except IoError (Option Int32)) := do
  match ← pps.wait edgeTimeout with
  | .error e => return .error e
  | .ok .timeout => return .error noEdge
  | .ok .interrupted => return .ok none
  | .ok .dataReady =>
    match ← pps.read with
    | .ok sample => return .ok (some sample)
    | .error e => if e.isTransient then return .ok none else return .error e

variable [MonadExceptOf Halt m]

/-- Wait for the next sample, at most `patience` times. -/
def awaitSample (pps : EdgeSource m) : (patience : Nat) → m (Except IoError Int32)
  | 0 => throw .stalled
  | patience + 1 => do
    match ← nextSample pps with
    | .error e => return .error e
    | .ok none => awaitSample pps patience
    | .ok (some sample) => return .ok sample

/-- Take `wanted` more samples, the row so far in reverse. -/
def takeRow (pps : EdgeSource m) (polarity : Polarity) (patience : Nat) : (wanted : Nat) → List Int64 → m (Except IoError (List Int64))
  | 0, row => return .ok row.reverse
  | wanted + 1, row => do
    match ← awaitSample pps patience with
    | .error e => return .error e
    | .ok sample => takeRow pps polarity patience wanted (polarity.apply sample :: row)

variable [Journal m]

/-- Measure the rows of the remaining control values, those so far in reverse. -/
def takeRows (cell : Cell m Dummy) (pps : EdgeSource m) (polarity : Polarity) (patience : Nat) (samples : UInt32) :
    List UInt32 → List (List Int64) → m (Except IoError Calibration.Results)
  | [], rows => return .ok ⟨rows.reverse⟩
  | point :: points, rows => do
    cell.modify (·.setFine point)
    Journal.debug .oscillator ("Calibration: sampling at fine control " ++ Decimal.text point.toNat)
    match ← takeRow pps polarity patience samples.toNat [] with
    | .error e => return .error e
    | .ok row => takeRows cell pps polarity patience samples points (row :: rows)

def calibrate (cell : Cell m Dummy) (patience : Nat) (plan : Calibration.Plan) (pps : EdgeSource m) (polarity : Polarity) :
    m (Option Calibration.Results) := do
  let found := (← cell.get).fine
  Journal.info .oscillator ("Calibrating over " ++ Decimal.text plan.points.length ++ " control points, " ++
    Decimal.text plan.samples.toNat ++ " samples each")
  let results ← takeRows cell pps polarity patience plan.samples plan.points []
  cell.modify (·.setFine found)
  match results with
  | .ok results => return some results
  | .error e =>
    Journal.error .oscillator ("Calibration on " ++ pps.name ++ " failed: " ++ e.message)
    return none

/-- The oscillator as a collaborator that keeps its state in a cell. A calibration makes at most `patience`
    waits for each sample. -/
def oscillator (patience : Nat) (cell : Cell m Dummy) : Oscillator m where
  model := "dummy"
  controls := do return .ok (← cell.get).controls
  temperature := return .ok none
  apply o := do
    cell.modify (·.apply o)
    return .ok ()
  calibrate := calibrate cell patience
  bound lo hi := cell.modify (·.bound lo hi)
  release := pure ()

end

/-- The oscillator that the settings select. -/
def select (c : Config) : Except Error Dummy :=
  match c.getD "oscillator" "dummy" with
  | "dummy" => ofConfig c
  | other => .error (.unsupported "oscillator model" other)

end Dummy

end ClockDiscipline
