/-
  ClockDiscipline.Loop.Run — the control loop from its first turn to its last.

  Turns follow each other until a stop is requested or the configured number of turns is
  used up; both are looked at between turns only. A failed turn ends the loop with its
  error. After an action the loop rests, in slices, and goes on at once where a
  stop is requested. The handles are given back once: oscillator, engine, PPS source.
-/

import ClockDiscipline.Halt
import ClockDiscipline.Loop.Turn
import ClockDiscipline.Stop

namespace ClockDiscipline

/-- Everything that the loop works with. -/
structure Controller (m : Type → Type) where
  settings : Settings
  rig : Rig m
  stop : Stop m
  /-- Let time pass, in nanoseconds. -/
  rest : Nat → m Unit

namespace Controller

/-- Longest time until a resting loop sees a stop request: 100 ms. -/
def restSlice : Nat := 100000000

section

variable {m : Type → Type} [Monad m]

/-- Rest for the time left, or until a stop is requested. -/
def restFor (c : Controller m) (left : Nat) : m Unit := do
  if ← c.stop.requested then return ()
  if left = 0 then return ()
  c.rest (min left restSlice)
  restFor c (left - min left restSlice)
termination_by left
decreasing_by simp only [restSlice]; omega

/-- Whether another turn follows. -/
def keepsRunning (c : Controller m) (s : LoopState) : m Bool := do
  return !(← c.stop.requested) && !s.exhausted

variable [Journal m]

/-- Count a turn and take it, with the rest that follows an action. -/
def cycle (c : Controller m) (s : LoopState) : m (Except Error Turn × LoopState) := do
  let s := s.beginTurn
  match ← (Turn.take c.rig c.settings s).run with
  | .error e => return (.error e, s)
  | .ok (.acted a, s) =>
    c.restFor c.settings.cycleDelay.toNanos
    return (.ok (.acted a), s)
  | .ok (t, s) => return (.ok t, s)

/-- Why the loop was left. -/
def farewell (c : Controller m) : m Unit := do
  if ← c.stop.requested then
    match ← c.stop.cause with
    | some signal => Journal.info .loop ("Caught " ++ signal.text ++ ", leaving main loop")
    | none => Journal.info .loop "Stop requested, leaving main loop"
  else Journal.info .loop "Configured number of turns done"

variable [MonadExceptOf Halt m]

/-- At most `patience` cycles. -/
def cycles (c : Controller m) : (patience : Nat) → LoopState → m (Except Error Unit × LoopState)
  | 0, _ => throw .stalled
  | patience + 1, s => do
    match ← c.cycle s with
    | (.error e, s) => return (.error e, s)
    | (.ok _, s) => if ← c.keepsRunning s then cycles c patience s else return (.ok (), s)

def run (c : Controller m) (patience : Nat) (s : LoopState) : m (Except Error Unit × LoopState) := do
  Journal.info .loop "Starting main loop"
  match ← c.cycles patience s with
  | (.error e, s) => return (.error e, s)
  | (.ok (), s) =>
    c.farewell
    return (.ok (), s)

end

/-- Give the handles back. Only the first call has an effect. -/
def release {m : Type → Type} [Monad m] [Journal m] (c : Controller m) (s : LoopState) : m LoopState := do
  if s.released then return s
  Journal.debug .loop ("Releasing " ++ c.rig.oscillator.model)
  c.rig.oscillator.release
  c.rig.engine.release
  c.rig.pps.release
  return { s with released := true }

/-- A controller and its state before the first turn. The oscillator is bound to the range that the engine
    works with. -/
def create {m : Type → Type} [Monad m] (settings : Settings) (rig : Rig m) (stop : Stop m) (rest : Nat → m Unit) :
    m (Controller m × LoopState) := do
  rig.oscillator.bound rig.engine.dacMin rig.engine.dacMax
  return (⟨settings, rig, stop, rest⟩, .start settings.turns)

end Controller

end ClockDiscipline
