/-
  ClockDiscipline.Rehearsal.Stage — a world in which the whole daemon can be played.

  A stage holds the state of every part, the files, the stop flags, what was told and
  which calls were made. A signal finds the process as it is: with handlers it raises the
  flag of the process, or ends a process whose flag is up; without handlers it ends the
  process. A signal may be set to arrive while a device blocks, or while the loop rests
  after a line that shows a given text.
-/

import ClockDiscipline.Daemon
import ClockDiscipline.Device.Channel
import ClockDiscipline.LogFilter
import ClockDiscipline.Rehearsal.Recorder
import ClockDiscipline.Rehearsal.Script

namespace ClockDiscipline.Rehearsal

/-- What is shown of what is told: errors apart from everything else. -/
structure Console where
  verbosity : Verbosity
  out : Array String
  err : Array String
  /-- A signal that a line of the first kind brings about by its text. -/
  trigger : Option (String × Signal)
  /-- The signal, once the line was shown. -/
  due : Option Signal

instance : Inhabited Console := ⟨⟨.ofEnvironment none, #[], #[], none, none⟩⟩

/-- Whether a text is part of another. -/
def occursIn (text : List Char) : List Char → Bool
  | [] => text.isEmpty
  | c :: cs => text.isPrefixOf (c :: cs) || occursIn text cs

namespace Console

/-- The signal that a line brings about. -/
def triggered? (c : Console) (line : String) : Option Signal :=
  match c.trigger with
  | some (text, signal) => if occursIn text.toList line.toList then some signal else none
  | none => none

def tell (c : Console) (e : Entry) : Console :=
  if !c.verbosity.filter.shows e then c
  else if e.level = .error then { c with err := c.err.push e.shown }
  else
    match c.triggered? e.shown with
    | some signal => { c with out := c.out.push e.shown, due := some signal, trigger := none }
    | none => { c with out := c.out.push e.shown }

end Console

structure Stage where
  told : Array Entry
  calls : Array Event
  console : Console
  files : Files
  /-- Whether signals are handled. -/
  handled : Bool
  /-- The flag of the process. -/
  flag : StopFlag
  /-- A flag that no signal raises. -/
  ownFlag : StopFlag
  /-- A signal that arrives while a device blocks. -/
  arriving : Option Signal
  dummy : Dummy
  sim : Bench.Sim Float
  channel : Channel
  warmup : Warmup
  pid : Pid Float
  script : Script
  understudy : Understudy
  fixes : List (Except String Fix)
  outputs : List (Except String ControlOutput)
  loop : LoopState

namespace Stage

def empty : Stage where
  told := #[]
  calls := #[]
  console := default
  files := .standard
  handled := false
  flag := .lowered
  ownFlag := .lowered
  arriving := none
  dummy := default
  sim := .create "" (.standard Float)
  channel := default
  warmup := default
  pid := default
  script := default
  understudy := default
  fixes := []
  outputs := []
  loop := .start 0

instance : Inhabited Stage := ⟨empty⟩

/-- Everything told is kept, shown or not. -/
instance : Journal (Act Stage) where
  note e := modify fun w => { w with told := w.told.push e, console := w.console.tell e }

/-! ## Where the parts keep their state -/

def dummySlot : Slot Stage Dummy where
  get w := w.dummy
  set s w := { w with dummy := s }

def simSlot : Slot Stage (Bench.Sim Float) where
  get w := w.sim
  set s w := { w with sim := s }

def channelSlot : Slot Stage Channel where
  get w := w.channel
  set s w := { w with channel := s }

def filesSlot : Slot Stage Files where
  get w := w.files
  set s w := { w with files := s }

def warmupSlot : Slot Stage Warmup where
  get w := w.warmup
  set s w := { w with warmup := s }

def pidSlot : Slot Stage (Pid Float) where
  get w := w.pid
  set s w := { w with pid := s }

def scriptSlot : Slot Stage Script where
  get w := w.script
  set s w := { w with script := s }

def understudySlot : Slot Stage Understudy where
  get w := w.understudy
  set s w := { w with understudy := s }

def fixesSlot : Slot Stage (List (Except String Fix)) where
  get w := w.fixes
  set s w := { w with fixes := s }

def outputsSlot : Slot Stage (List (Except String ControlOutput)) where
  get w := w.outputs
  set s w := { w with outputs := s }

def loopSlot : Slot Stage LoopState where
  get w := w.loop
  set s w := { w with loop := s }

/-! ## Signals -/

/-- A signal reaches the process. -/
def raise (s : Signal) : Act Stage Unit := do
  let w ← get
  if w.handled then
    match w.flag.signal? s with
    | some flag => set { w with flag }
    | none => throw (.exit 1 signalledTwice)
  else throw (.killed s)

/-- Take the signal that arrives while a device blocks, if one does. -/
def interrupted : Act Stage Bool := do
  let w ← get
  match w.arriving with
  | none => return false
  | some s =>
    set { w with arriving := none }
    raise s
    return true

/-- The flag of the process, with its signals handled from now on. -/
def install : Act Stage (Stop (Act Stage)) := do
  modify fun w => { w with handled := true }
  return {
    requested := do return (← get).flag.requested
    cause := do return (← get).flag.cause
    request := modify fun w => { w with flag := w.flag.request } }

/-- A flag of its own. -/
def detached : Stop (Act Stage) where
  requested := do return (← get).ownFlag.requested
  cause := do return (← get).ownFlag.cause
  request := modify fun w => { w with ownFlag := w.ownFlag.request }

/-- A rest takes no time, but the signal that is due finds it. -/
def rest (_ : Nat) : Act Stage Unit := do
  let w ← get
  match w.console.due with
  | none => return ()
  | some s =>
    set { w with console := { w.console with due := none } }
    raise s

/-! ## The parts -/

/-- More than any count that a setting can hold. -/
def patience : Nat := 4611686018427387904

def record (e : Event) : Act Stage Unit := modify fun w => { w with calls := w.calls.push e }

def readText (path : String) : Act Stage (Except IoError String) := do
  match (← get).files.readText path with
  | some r => return r
  | none => throw .stalled

/-- Open a device by its path. -/
def openDevice (path : String) : Act Stage (Except IoError (EdgeSource (Act Stage))) := do
  let w ← get
  match Channel.openAt w.files path with
  | .error e => return .error e
  | .ok channel =>
    set { w with channel }
    return .ok (Channel.source path channelSlot.cell filesSlot.cell interrupted)

/-- The system that a stage is for the daemon. -/
def system : System (Act Stage) where
  readText := readText
  openDevice := openDevice
  install := do return .ok (← install)
  rest := rest
  pass _ := return ()
  showDebug on := modify fun w => { w with console := { w.console with verbosity := w.console.verbosity.showDebug on } }
  dummy := dummySlot.cell
  sim := simSlot.cell
  warmup := warmupSlot.cell
  pid := pidSlot.cell
  patience := patience

end Stage

end ClockDiscipline.Rehearsal
