/-
  ClockDiscipline.Engine.Pid — the built-in decision engine.

  Proportional and integral control of the fine setpoint on the median of the latest
  phase errors, with phase jumps for large errors and a calibration of the gain on
  request. The setpoint is driven to

      center - (kp * e + ki * integral) / gain

  where the gain is the drift in ns/s that one step of the control causes, and the
  integral takes up whatever frequency offset the center leaves. Without a fix the phase
  error means nothing and the engine holds.

  The arithmetic is that of any `Scalar`. An answer that is missing (`none`) means that a
  step left its range: a total beyond 64 bits, a difference of samples beyond 64 bits, a
  clamp of the integral between ends in the wrong order.
-/

import ClockDiscipline.Calibration
import ClockDiscipline.Config
import ClockDiscipline.Control
import ClockDiscipline.Engine.LineFit
import ClockDiscipline.Engine.Median
import ClockDiscipline.Halt
import ClockDiscipline.Journal
import ClockDiscipline.Rig

namespace ClockDiscipline

/-- What a configuration settles once and for all. -/
structure Pid.Tuning (R : Type) where
  range : DacRange
  kp : R
  ki : R
  /-- Largest size of the integral. -/
  maxIntegral : R
  /-- Larger errors are jumped over, in nanoseconds. -/
  jumpThreshold : Int64
  /-- Control values that a calibration probes. -/
  points : List UInt32
  /-- Samples of a calibration at each of them. -/
  samples : UInt32

structure Pid (R : Type) where
  tuning : Pid.Tuning R
  /-- Drift in ns/s for one step of the fine control. -/
  gain : R
  /-- Control value to steer around, once there is one. -/
  center : Option UInt32
  integral : R
  window : Window
  /-- Whether the next trusted sample asks for a calibration. -/
  pending : Bool

namespace Pid

/-- Nothing tuned, over the full range. -/
instance {R : Type} [Scalar R] : Inhabited (Pid R) :=
  let zero : R := Scalar.ofInt 0
  ⟨⟨.full, zero, zero, zero, 0, [], 0⟩, Scalar.ofInt 1, none, zero, .zero, false⟩

/-- The quartiles of the range. -/
def quartiles (r : DacRange) : List UInt32 :=
  let span := r.max - r.min
  [r.min + span / 4, r.min + span / 2, r.min + span / 4 * 3]

def ofConfig (R : Type) [Numeral R] (c : Config) : Except Error (Pid R) := do
  let dacMin ← c.valueD "dac-min" (0 : UInt32)
  let dacMax ← c.valueD "dac-max" (65535 : UInt32)
  if ordered : dacMin ≤ dacMax then
    let range : DacRange := ⟨dacMin, dacMax, ordered⟩
    let points := (← c.list? UInt32 "calibration-points").getD (quartiles range)
    let gain ← c.valueD "ns-per-step" ((Scalar.ofInt 1 : R) / Scalar.ofInt 10)
    if Scalar.isNormal gain then
      let kp ← c.valueD "kp" ((Scalar.ofInt 1 : R) / Scalar.ofInt 10)
      let ki ← c.valueD "ki" ((Scalar.ofInt 1 : R) / Scalar.ofInt 100)
      let maxIntegral ← c.valueD "max-integral" (Scalar.ofInt 1000000 : R)
      let jumpThreshold ← c.valueD "phase-jump-threshold-ns" (1000 : Int64)
      let samples ← c.valueD "calibration-samples" (4 : UInt32)
      let pending ← c.valueD "calibrate-first" false
      return ⟨⟨range, kp, ki, maxIntegral, jumpThreshold, points, samples⟩, gain, none, Scalar.ofInt 0, .zero, pending⟩
    else throw (.invalidValue "ns-per-step" (Numeral.text gain))
  else throw (.invalidValue "dac-max" (Decimal.text dacMax.toNat))

section

variable {R : Type} [Scalar R]

/-- A regular adjustment of the fine control to an error within the threshold. -/
def steer (e : Pid R) (phase : Int64) (fine : UInt32) : Option (ControlOutput × Pid R) := do
  let t := e.tuning
  let center := e.center.getD fine
  let window := e.window.push phase.toInt
  let error : R := Scalar.ofInt window.median
  let integral ← Scalar.clamp? (-t.maxIntegral) t.maxIntegral (e.integral + error)
  let correction := (t.kp * error + t.ki * integral) / e.gain
  let target := Scalar.round (Scalar.ofInt (center.toNat : Int) - correction)
  let setpoint ← Scalar.clamp? (Scalar.ofInt (t.range.min.toNat : Int)) (Scalar.ofInt (t.range.max.toNat : Int)) target
  return (⟨.adjustFine, Scalar.toUInt32 setpoint, 0⟩, { e with center := some center, integral, window })

def outOfJumpRange (phase : Int64) : String :=
  "phase error of " ++ Decimal.text phase.toInt ++ "ns is out of phase jump range"

/-- Decide what to do about one sample. -/
def process (e : Pid R) (i : ControlInput) : Option (Except String ControlOutput × Pid R) :=
  if !i.valid then some (.ok (.hold i.fine), e)
  else if e.pending then some (.ok ⟨.calibrate, i.fine, 0⟩, e)
  else do
    let phase ← i.phase.asNs?
    let size ← int64? phase.toInt.natAbs
    if e.tuning.jumpThreshold < size then
      match int32? phase.toInt with
      | none => return (.error (outOfJumpRange phase), e)
      -- Samples from before the jump would drag the median after it.
      | some shift => return (.ok ⟨.phaseJump, i.fine, shift⟩, { e with window := .zero })
    else
      let (output, e) ← e.steer phase i.fine
      return (.ok output, e)

/-- What to measure: nothing without points, or with too few samples for a rate. -/
def plan (e : Pid R) : Option Calibration.Plan :=
  if e.tuning.points.isEmpty || e.tuning.samples < 2 then none else some ⟨e.tuning.points, e.tuning.samples⟩

/-- The drift at one control value, from the first and the last sample of its row, one second apart each. -/
def rate? (row : List Int64) : Option (Option R) :=
  match row.head?, row.getLast? with
  | some first, some last => do
    let drift ← int64? (last.toInt - first.toInt)
    return some (Scalar.ofInt drift.toInt / Scalar.ofInt ((row.length : Int) - 1))
  | _, _ => some none

/-- Control values against drifts; a row without samples gives no point. -/
def drifts? (points : List UInt32) (rows : List (List Int64)) : Option (List (R × R)) :=
  ((points.zip rows).mapM fun p : UInt32 × List Int64 =>
    (rate? p.2).map fun rate : Option R => rate.map fun r => ((Scalar.ofInt (p.1.toNat : Int) : R), r)).map (·.filterMap id)

/-- What became of submitted results. -/
inductive Adoption (R : Type) where
  /-- They do not have the shape of the plan. -/
  | mismatched
  /-- No line with a usable slope lies through them. -/
  | unusable
  | adopted (gain : R) (nominal : UInt32)

/-- Take the gain, and the control value where the drift vanishes, from measured drifts. -/
def submit (e : Pid R) (p : Calibration.Plan) (r : Calibration.Results) : Option (Adoption R × Pid R) :=
  let e := { e with pending := false }
  if !r.matches p then some (.mismatched, e)
  else do
    let points ← drifts? p.points r.rows
    match LineFit.fit? points with
    | none => return (.unusable, e)
    | some (slope, intercept) =>
      if Scalar.isNormal slope then
        let range := e.tuning.range
        let nominal ← Scalar.clamp? (Scalar.ofInt (range.min.toNat : Int)) (Scalar.ofInt (range.max.toNat : Int))
          (Scalar.round (-intercept / slope))
        let nominal := Scalar.toUInt32 nominal
        return (.adopted slope nominal, { e with gain := slope, center := some nominal, integral := Scalar.ofInt 0 })
      else return (.unusable, e)

end

section

variable {m : Type → Type} [Monad m] [Journal m] [MonadExceptOf Halt m] {R : Type} [Numeral R]

def noteAdoption : Adoption R → m Unit
  | .mismatched => Journal.warn .engine "Calibration results do not match the requested points; keeping previous gain"
  | .unusable => Journal.warn .engine "Calibration gave no usable slope; keeping previous gain"
  | .adopted gain nominal =>
    Journal.info .engine ("Calibrated: " ++ Numeral.fixed 6 gain ++ " ns/s per step, nominal fine control " ++
      Decimal.text nominal.toNat)

/-- The engine as a collaborator that keeps its state in a cell. -/
def engine (range : DacRange) (cell : Cell m (Pid R)) : Engine m where
  dacMin := range.min
  dacMax := range.max
  process i := do
    let (answer, e) ← orPanic ((← cell.get).process i)
    cell.set e
    return answer
  plan := do return (← cell.get).plan
  submit p r := do
    let (adoption, e) ← orPanic ((← cell.get).submit p r)
    cell.set e
    noteAdoption adoption
  release := pure ()

end

/-- The engine that the settings select. -/
def select (R : Type) [Numeral R] (c : Config) : Except Error (Pid R) :=
  match c.getD "engine" "pid" with
  | "pid" => ofConfig R c
  | other => .error (.unsupported "decision engine" other)

end Pid

end ClockDiscipline
