/-
  ClockDiscipline.Settings — the daemon's own settings for one run.

  Only the PPS device has to be named. The engine is set up from the daemon's own file
  unless another one is named. How long to wait for an edge and how long to rest after a
  cycle with an action are not read from the file.
-/

import ClockDiscipline.Config
import ClockDiscipline.Phase
import ClockDiscipline.Span

namespace ClockDiscipline

structure Settings where
  /-- Bound on the turns of the loop, 0 for none. `N` lets `N - 1` cycles run. -/
  turns : UInt32
  ppsDevice : String
  polarity : Polarity
  /-- Whether debug messages are shown. -/
  debug : Bool
  /-- File with the settings of the engine. -/
  engineConfig : String
  /-- Longest wait for an edge. -/
  ppsTimeout : Span
  /-- Rest after each cycle with an action. -/
  cycleDelay : Span
  deriving DecidableEq, Repr

namespace Settings

/-- A watchdog resets a device that was silent for 2 s, so 4 s of silence mean that the reset failed too. -/
def standard : Settings := ⟨0, "", .normal, false, "", .ofSecs 4, .ofSecs 5⟩

instance : Inhabited Settings := ⟨standard⟩

def ofConfig (c : Config) : Except Error Settings := do
  let ppsDevice ← c.require "pps-device"
  let engineConfig := (c.get? "libod-config-path").getD c.path
  let turns ← c.valueD "turns" (0 : UInt32)
  let opposite ← c.valueD "opposite-phase-error" false
  let debug ← c.valueD "debug" false
  return { standard with turns, ppsDevice, polarity := .ofOpposite opposite, debug, engineConfig }

end Settings

end ClockDiscipline
