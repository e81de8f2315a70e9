/-
  ClockDiscipline.Control — the records of one control cycle.

  A cycle hands the decision engine one `ControlInput` and gets one `ControlOutput`
  back. An action is known by its code; a code without an action of its own is kept, so
  that code and action are the same thing written twice (`code_ofCode`, `ofCode_code`).
-/

import ClockDiscipline.Number.Decimal
import ClockDiscipline.Phase

namespace ClockDiscipline

/-- Corrective action that an engine asks for. -/
inductive Action where
  /-- Nothing to correct; the setpoint is still handed to the oscillator. -/
  | none
  /-- Move the fine control to the setpoint. -/
  | adjustFine
  /-- Move the coarse control to the setpoint. -/
  | adjustCoarse
  /-- Shift the phase counter of the PPS device. -/
  | phaseJump
  /-- Run the calibration procedure of the oscillator. -/
  | calibrate
  /-- A code that no action has. -/
  | unknown (code : UInt32)
  deriving DecidableEq, Repr, Inhabited

namespace Action

def ofCode (code : UInt32) : Action :=
  match code with
  | 0 => .none
  | 1 => .adjustFine
  | 2 => .adjustCoarse
  | 3 => .phaseJump
  | 4 => .calibrate
  | code => .unknown code

def code : Action → UInt32
  | .none => 0
  | .adjustFine => 1
  | .adjustCoarse => 2
  | .phaseJump => 3
  | .calibrate => 4
  | .unknown code => code

/-- How messages name an action. -/
def text : Action → String
  | .none => "None"
  | .adjustFine => "AdjustFine"
  | .adjustCoarse => "AdjustCoarse"
  | .phaseJump => "PhaseJump"
  | .calibrate => "Calibrate"
  | .unknown code => "Unknown(" ++ Decimal.text code.toNat ++ ")"

theorem code_ofCode (c : UInt32) : (ofCode c).code = c := by
  unfold ofCode
  split <;> rfl

/-- Reading back the code of an action gives the action, unless it was named by the code of another. -/
theorem ofCode_code (a : Action) (h : ∀ c, a = .unknown c → 4 < c) : ofCode a.code = a := by
  cases a with
  | unknown c =>
    have hc := h c rfl
    simp only [code]
    unfold ofCode
    split <;> first | rfl | (exact absurd hc (by decide))
  | _ => rfl

end Action

/-- Control values and lock status read back from an oscillator. -/
structure Controls where
  fine : UInt32
  coarse : UInt32
  lock : Bool
  deriving DecidableEq, Repr, Inhabited

def truthText (b : Bool) : String := if b then "true" else "false"

def Controls.text (c : Controls) : String :=
  "fine " ++ Decimal.text c.fine.toNat ++ ", coarse " ++ Decimal.text c.coarse.toNat ++ ", lock " ++ truthText c.lock

/-- Everything an engine sees about one edge. -/
structure ControlInput where
  /-- Measured phase error, polarity applied. -/
  phase : PhaseError
  /-- Whether the receiver has a usable fix. -/
  valid : Bool
  /-- Whether the oscillator reports lock on its control input. -/
  lock : Bool
  /-- Temperature of the oscillator, 0 without a sensor. -/
  temperature : UInt16
  /-- Quantization error of the edge, in picoseconds. -/
  qerr : Int32
  fine : UInt32
  coarse : UInt32
  deriving DecidableEq, Repr, Inhabited

def ControlInput.text (i : ControlInput) : String :=
  "phase_error = (" ++ Decimal.text i.phase.sec.toInt ++ "s, " ++ Decimal.zeroPadded 9 i.phase.nsec.toInt ++
    "ns), valid = " ++ truthText i.valid ++ ", lock = " ++ truthText i.lock ++ ", fine = " ++ Decimal.text i.fine.toNat ++
    ", coarse = " ++ Decimal.text i.coarse.toNat ++ ", temp = " ++ Decimal.text i.temperature.toNat ++ ", qErr = " ++
    Decimal.text i.qerr.toInt

/-- What an engine decided for one cycle. -/
structure ControlOutput where
  action : Action
  /-- Control value; which control it is for depends on the action. -/
  setpoint : UInt32
  /-- Phase correction in nanoseconds, of use to a phase jump only. -/
  phaseShift : Int32
  deriving DecidableEq, Repr, Inhabited

def ControlOutput.text (o : ControlOutput) : String :=
  "action = " ++ o.action.text ++ ", setpoint = " ++ Decimal.text o.setpoint.toNat ++ ", value_phase_ctrl = " ++
    Decimal.text o.phaseShift.toInt

/-- Keep the setpoint and do nothing else. -/
def ControlOutput.hold (setpoint : UInt32) : ControlOutput := ⟨.none, setpoint, 0⟩

/-- A range of control values that is not empty. -/
structure DacRange where
  min : UInt32
  max : UInt32
  ordered : min ≤ max
  deriving DecidableEq, Repr

namespace DacRange

/-- Every value. -/
def full : DacRange := ⟨0, 4294967295, by decide⟩

/-- From `lo` up to `hi`, or `lo` alone where `hi` lies below it. -/
def between (lo hi : UInt32) : DacRange :=
  if h : lo ≤ hi then ⟨lo, hi, h⟩ else ⟨lo, lo, by simp⟩

/-- A value put into the range. -/
def clamp (r : DacRange) (v : UInt32) : UInt32 := if v < r.min then r.min else if r.max < v then r.max else v

theorem min_le_clamp (r : DacRange) (v : UInt32) : r.min ≤ r.clamp v := by
  unfold clamp
  have := r.ordered
  split
  · simp
  · split
    · exact this
    · rename_i h _; simpa using h

theorem clamp_le_max (r : DacRange) (v : UInt32) : r.clamp v ≤ r.max := by
  unfold clamp
  have := r.ordered
  split
  · exact this
  · split
    · simp
    · rename_i h; simpa using h

theorem min_between (lo hi : UInt32) : (between lo hi).min = lo := by
  unfold between
  split <;> rfl

theorem max_between (lo hi : UInt32) : (between lo hi).max = Max.max lo hi := by
  unfold between
  rw [show Max.max lo hi = if lo ≤ hi then hi else lo from rfl]
  split <;> rfl

/-- A value that lies in the range stays as it is. -/
theorem clamp_of_mem (r : DacRange) {v : UInt32} (h1 : r.min ≤ v) (h2 : v ≤ r.max) : r.clamp v = v := by
  unfold clamp
  rw [if_neg (by simpa using h1), if_neg (by simpa using h2)]

end DacRange

end ClockDiscipline
