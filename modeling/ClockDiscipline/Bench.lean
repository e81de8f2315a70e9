/-
  ClockDiscipline.Bench — a simulation in place of PPS device and receiver.

  Each wait moves simulated time on by one second, in which the phase drifts by the
  distance of the fine control from its nominal value times the drift of one step; the
  first edge reports the initial phase. Shifts of the phase counter move the simulated
  phase at once. The pending sample is the phase just after the latest edge, so shifts
  and control changes since then do not show in it.
-/

import ClockDiscipline.Oscillator.Dummy
import ClockDiscipline.Receiver

namespace ClockDiscipline.Bench

/-- What is simulated. -/
structure Params (R : Type) where
  /-- Fine control at which the oscillator runs on frequency. -/
  nominalFine : UInt32
  /-- Drift per second for each step away from it. -/
  nsPerStep : R
  /-- Phase error at the first edge. -/
  initialPhase : R
  /-- Time between edges. -/
  period : Span
  /-- Polls of the receiver before its fix is valid. -/
  warmup : UInt32
  deriving BEq

/-- The time between edges in milliseconds, as it is set. -/
def Params.edgePeriod {R : Type} (p : Params R) : UInt32 := UInt32.ofNat p.period.toMillis

/-- A period that is set in milliseconds is kept as it was set. -/
theorem Params.edgePeriod_ofMillis {R : Type} (p : Params R) (ms : UInt32) :
    Params.edgePeriod { p with period := .ofMillis ms.toUInt64 } = ms := by
  rw [Params.edgePeriod, Span.toMillis_ofMillis, UInt32.toNat_toUInt64, UInt32.ofNat_toNat]

/-- The simulated PPS device. -/
structure Sim (R : Type) where
  name : String
  params : Params R
  phase : R
  /-- Simulated seconds, one for each edge. They stay below 2^64: even an edge every nanosecond would take more
      than five hundred years to get there. -/
  elapsed : Nat
  /-- Sample of the latest edge. -/
  pending : Option Int32

section

variable {R : Type} [Scalar R]

def Params.standard (R : Type) [Scalar R] : Params R :=
  ⟨32768, Scalar.ofInt 1 / Scalar.ofInt 10, Scalar.ofInt 0, .ofSecs 1, 3⟩

def Sim.create (name : String) (p : Params R) : Sim R := ⟨name, p, p.initialPhase, 0, none⟩

/-- A phase as a sample: to the next nanosecond, within 32 bits. -/
def sampleOf (phase : R) : Option Int32 :=
  (Scalar.clamp? (Scalar.ofInt (-2147483648)) (Scalar.ofInt 2147483647) (Scalar.round phase)).map Scalar.toInt32

/-- The phase one second on. -/
def Sim.drifted (s : Sim R) (fine : UInt32) : R :=
  s.phase + (Scalar.ofInt (fine.toNat : Int) - Scalar.ofInt (s.params.nominalFine.toNat : Int)) * s.params.nsPerStep

/-- Wait for the next edge with the fine control at `fine`. Edges that are further apart than the timeout
    are never seen. -/
def Sim.wait (s : Sim R) (fine : UInt32) (timeout : Span) : Option (EdgeEvent × Sim R) :=
  if timeout.toNanos < s.params.period.toNanos then some (.timeout, s)
  else do
    let phase := if s.pending.isSome then s.drifted fine else s.phase
    let sample ← sampleOf phase
    return (.dataReady, { s with phase, elapsed := s.elapsed + 1, pending := some sample })

def Sim.read (s : Sim R) : Except IoError Int32 :=
  match s.pending with
  | some sample => .ok sample
  | none => .error (.kind .wouldBlock)

def Sim.shift (s : Sim R) (ns : Int32) : Sim R := { s with phase := s.phase + Scalar.ofInt ns.toInt }

end

section

variable {m : Type → Type} [Monad m] [Journal m] [MonadExceptOf Halt m] {R : Type} [Numeral R]

def Params.ofConfig (R : Type) [Numeral R] (c : Config) : Except Error (Params R) := do
  let d := Params.standard R
  let nominalFine ← c.valueD "hootl-nominal-fine" d.nominalFine
  let nsPerStep ← c.valueD "hootl-ns-per-step" d.nsPerStep
  let initialPhase ← c.valueD "hootl-initial-phase-ns" d.initialPhase
  let edgePeriod ← c.valueD "hootl-edge-period-ms" d.edgePeriod
  let warmup ← c.valueD "hootl-gnss-warmup" d.warmup
  return { nominalFine, nsPerStep, initialPhase, period := .ofMillis edgePeriod.toUInt64, warmup }

/-- The simulated device as a collaborator: it follows the fine control of the oscillator's cell. -/
def source (name : String) (cell : Cell m (Sim R)) (oscillator : Cell m Dummy) : EdgeSource m where
  name := name
  wait timeout := do
    let fine := (← oscillator.get).fine
    let (event, s) ← orPanic ((← cell.get).wait fine timeout)
    cell.set s
    return .ok event
  read := do return (← cell.get).read
  shift ns := do
    let s := (← cell.get).shift ns
    cell.set s
    Journal.debug .bench ("Simulated phase moved by " ++ Decimal.text ns.toInt ++ "ns to " ++ Numeral.fixed 1 s.phase ++ "ns")
    return .ok ()
  release := do
    let s ← cell.get
    Journal.info .bench (s.name ++ ": simulation ended after " ++ Decimal.text s.elapsed ++ "s at " ++
      Numeral.fixed 1 s.phase ++ "ns")

/-- A simulated device at its pace: a wait takes until the next edge or the timeout. -/
def paced (pass : Nat → m Unit) (period : Span) (p : EdgeSource m) : EdgeSource m :=
  { p with wait := fun timeout => do
      pass (min timeout.toNanos period.toNanos)
      p.wait timeout }

/-- Simulation, oscillator and receiver at their start. -/
structure Parts (R : Type) where
  sim : Sim R
  oscillator : Dummy
  warmup : Warmup

/-- A bench of this name. -/
def Parts.named (R : Type) [Numeral R] (name : String) (c : Config) : Except Error (Parts R) := do
  let params ← Params.ofConfig R c
  let oscillator ← Dummy.ofConfig c
  return ⟨.create name params, oscillator, ⟨params.warmup⟩⟩

/-- A bench named after the configured device. -/
def Parts.ofConfig (R : Type) [Numeral R] (c : Config) : Except Error (Parts R) := do
  let parts ← Parts.named R "" c
  let device ← c.require "pps-device"
  return { parts with sim := { parts.sim with name := "hootl:" ++ device } }

/-- What is told about a new bench. -/
def Parts.announcement (p : Parts R) : String :=
  "Hardware out of the loop: nominal fine " ++ Decimal.text p.sim.params.nominalFine.toNat ++ ", " ++
    Numeral.text p.sim.params.nsPerStep ++ "ns/s per step"

end

end ClockDiscipline.Bench
