/-
  ClockDiscipline.Acquisition — taking hold of the handles.

  Around an oscillator that is already there the PPS device, the engine, the receiver and
  the stop flag are taken in this order. A step that fails gives back what was taken
  before it, the latest first, and no later step is tried.
-/

import ClockDiscipline.Loop.Run

namespace ClockDiscipline

/-- How the handles are taken. -/
structure Acquisition (m : Type → Type) where
  openPps : Settings → m (Except Error (EdgeSource m))
  newEngine : Settings → m (Except Error (Engine m))
  newReceiver : m (Except Error (Receiver m))
  install : m (Except Error (Stop m))
  rest : Nat → m Unit

namespace Acquisition

variable {m : Type → Type} [Monad m] [Journal m]

/-- Go on with what was taken, or run the hook and fail. -/
def orRelease {α β : Type} (release : m Unit) (taken : m (Except Error α)) (next : α → m (Except Error β)) :
    m (Except Error β) := do
  match ← taken with
  | .ok a => next a
  | .error e =>
    release
    return .error e

def acquire (s : Acquisition m) (settings : Settings) (oscillator : Oscillator m) :
    m (Except Error (Controller m × LoopState)) := do
  Journal.info .acquisition ("Oscillator model " ++ oscillator.model)
  let releaseOscillator := oscillator.release
  orRelease releaseOscillator (do return (← oscillator.controls).mapError (.driver "oscillator controls")) fun controls => do
  Journal.debug .acquisition ("Initial controls: " ++ controls.text)
  Journal.info .acquisition ("PPS device " ++ settings.ppsDevice)
  orRelease releaseOscillator (s.openPps settings) fun pps => do
  let releasePps := do pps.release; releaseOscillator
  orRelease releasePps (s.newEngine settings) fun engine => do
  let releaseEngine := do engine.release; releasePps
  if settings.polarity = .opposite then
    Journal.info .acquisition "Taking the opposite of the phase error reported"
  let receiver : m (Except Error (Receiver m)) := do
    match ← s.newReceiver with
    | .ok r => return .ok r
    | .error e =>
      Journal.error .acquisition "Failed to listen to the receiver"
      return .error e
  orRelease releaseEngine receiver fun receiver => do
  orRelease releaseEngine s.install fun stop => do
  return .ok (← Controller.create settings ⟨pps, oscillator, receiver, engine⟩ stop s.rest)

end Acquisition

end ClockDiscipline
