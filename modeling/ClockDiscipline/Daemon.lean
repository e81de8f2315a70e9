/-
  ClockDiscipline.Daemon — the daemon from its arguments to its exit status.

  One argument names the file with the settings. With `hootl` set the bench stands in
  for PPS device and receiver; else the device is opened and the receiver selected. The
  handles are given back however the loop ends, but for a process that leaves on the
  spot. Any error is told last, and is the only way to fail.
-/

import ClockDiscipline.Bench
import ClockDiscipline.Engine.Pid
import ClockDiscipline.Acquisition

namespace ClockDiscipline

/-- What the daemon needs of the system around it, and the cells of its parts. -/
structure System (m : Type → Type) where
  readText : String → m (Except IoError String)
  openDevice : String → m (Except IoError (EdgeSource m))
  install : m (Except Error (Stop m))
  /-- Let time pass, in nanoseconds, with an eye on signals. -/
  rest : Nat → m Unit
  /-- Let time pass, in nanoseconds. -/
  pass : Nat → m Unit
  showDebug : Bool → m Unit
  dummy : Cell m Dummy
  sim : Cell m (Bench.Sim Float)
  warmup : Cell m Warmup
  pid : Cell m (Pid Float)
  /-- Bound on the cycles of the loop and on the waits for one sample of a calibration. -/
  patience : Nat

namespace System

variable {m : Type → Type} [Monad m] [Journal m] [MonadExceptOf Halt m]

def readConfig (s : System m) (path : String) : m (Except Error Config) := do
  return Config.ofFile path (← s.readText path)

/-- The engine in its cell. -/
def placeEngine (s : System m) (e : Pid Float) : m (Engine m) := do
  s.pid.set e
  return Pid.engine e.tuning.range s.pid

/-- The engine that the settings in a file select. -/
def openEngine (s : System m) (path : String) : m (Except Error (Engine m)) := do
  match (← s.readConfig path).bind (Pid.select Float) with
  | .error e => return .error e
  | .ok e => return .ok (← s.placeEngine e)

/-- The oscillator in its cell. -/
def placeOscillator (s : System m) (o : Dummy) : m (Oscillator m) := do
  s.dummy.set o
  return Dummy.oscillator s.patience s.dummy

/-- A bench in its cells, with its announcement. -/
def placeBench (s : System m) (p : Bench.Parts Float) : m (EdgeSource m × Oscillator m × Receiver m) := do
  Journal.info .bench p.announcement
  s.sim.set p.sim
  s.warmup.set p.warmup
  let oscillator ← s.placeOscillator p.oscillator
  let pps := Bench.paced s.pass p.sim.params.period (Bench.source p.sim.name s.sim s.dummy)
  return (pps, oscillator, .simulated s.warmup)

/-- The oscillator, and how to come by the rest. -/
def prepare (s : System m) (c : Config) : ExceptT Error m (Oscillator m × Acquisition m) := do
  let newEngine (settings : Settings) := s.openEngine settings.engineConfig
  if ← c.valueD "hootl" false then
    let parts ← Bench.Parts.ofConfig Float c
    let (pps, oscillator, receiver) ← s.placeBench parts
    return (oscillator, ⟨fun _ => return .ok pps, newEngine, return .ok receiver, s.install, s.rest⟩)
  else
    let dummy ← Dummy.select c
    let oscillator ← s.placeOscillator dummy
    let openPps (settings : Settings) : m (Except Error (EdgeSource m)) := do
      return (← s.openDevice settings.ppsDevice).mapError (.io "open")
    return (oscillator, ⟨openPps, newEngine, return Receiver.select c, s.install, s.rest⟩)

/-- Run the loop and give the handles back, even where arithmetic leaves its range. -/
def discipline (s : System m) (c : Controller m) (state : LoopState) : m (Except Error Unit) := do
  let (result, state) ← tryCatchThe Halt (c.run s.patience state) fun halt => do
    if halt = .panic then
      let _ ← c.release state
    throw halt
  let _ ← c.release state
  return result

def serve (s : System m) (program : String) (args : List String) : ExceptT Error m Unit := do
  let [path] := args | throw (.usage program)
  let config ← ExceptT.mk (s.readConfig path)
  let settings ← Settings.ofConfig config
  s.showDebug settings.debug
  Journal.debug .daemon ("Configured turns: " ++ Decimal.text settings.turns.toNat)
  let (oscillator, acquisition) ← s.prepare config
  let (controller, state) ← ExceptT.mk (acquisition.acquire settings oscillator)
  ExceptT.mk (s.discipline controller state)

/-- The exit status of a served command: 0, or 1 once the error was told. -/
def command (s : System m) (program : String) (args : List String) : m Nat := do
  match ← (s.serve program args).run with
  | .ok () => return 0
  | .error e =>
    Journal.error .daemon e.message
    return 1

end System

end ClockDiscipline
