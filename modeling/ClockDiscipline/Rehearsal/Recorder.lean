/-
  ClockDiscipline.Rehearsal.Recorder — which calls were made, with which answers.

  A recorded collaborator passes each call on and pushes an event for it. Calls that
  give an answer are recorded once they returned, so calls made inside another come
  before it; calls without one are recorded as they are made. Of a call with arguments
  and an answer that can itself make calls both ends are recorded.
-/

import ClockDiscipline.Rig

namespace ClockDiscipline.Rehearsal

inductive Event where
  | wait (r : Except IoError EdgeEvent)
  | read (r : Except IoError Int32)
  | shift (ns : Int32) (r : Except IoError Unit)
  | releasePps
  | controls (r : Except String Controls)
  | temperature (r : Except String (Option UInt16))
  | apply (o : ControlOutput) (r : Except String Unit)
  | calibrate (p : Calibration.Plan) (polarity : Polarity)
  | calibrated (r : Option Calibration.Results)
  | bound (lo hi : UInt32)
  | releaseOscillator
  | poll (r : Except String Fix)
  | qerr (ps : Int32)
  | process (i : ControlInput)
  | output (r : Except String ControlOutput)
  | plan (p : Option Calibration.Plan)
  | submit (p : Calibration.Plan) (r : Calibration.Results)
  | releaseEngine

variable {m : Type → Type} [Monad m]

/-- Run a call and record it by its answer. -/
def after {α : Type} (push : Event → m Unit) (x : m α) (event : α → Event) : m α := do
  let a ← x
  push (event a)
  return a

def recordedPps (push : Event → m Unit) (p : EdgeSource m) : EdgeSource m where
  name := p.name
  wait t := after push (p.wait t) .wait
  read := after push p.read .read
  shift ns := after push (p.shift ns) (.shift ns)
  release := do push .releasePps; p.release

def recordedOscillator (push : Event → m Unit) (o : Oscillator m) : Oscillator m where
  model := o.model
  controls := after push o.controls .controls
  temperature := after push o.temperature .temperature
  apply out := after push (o.apply out) (.apply out)
  calibrate plan pps polarity := do
    push (.calibrate plan polarity)
    after push (o.calibrate plan pps polarity) .calibrated
  bound lo hi := do push (.bound lo hi); o.bound lo hi
  release := do push .releaseOscillator; o.release

def recordedReceiver (push : Event → m Unit) (r : Receiver m) : Receiver m where
  poll := after push r.poll .poll
  qerr := after push r.qerr .qerr

def recordedEngine (push : Event → m Unit) (e : Engine m) : Engine m where
  dacMin := e.dacMin
  dacMax := e.dacMax
  process i := do
    push (.process i)
    after push (e.process i) .output
  plan := after push e.plan .plan
  submit p r := do push (.submit p r); e.submit p r
  release := do push .releaseEngine; e.release

def recordedRig (push : Event → m Unit) (r : Rig m) : Rig m :=
  ⟨recordedPps push r.pps, recordedOscillator push r.oscillator, recordedReceiver push r.receiver, recordedEngine push r.engine⟩

end ClockDiscipline.Rehearsal
