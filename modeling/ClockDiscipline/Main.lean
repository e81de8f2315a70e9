/-
  ClockDiscipline.Main — the daemon on a real system.

  Only this module performs input and output. It reads files, asks the device through a
  task of its own so that a wait can time out, counts signals, and shows what the daemon
  tells: errors on standard error and everything else on standard output, a moment in
  front of each line. A read under way keeps the process until the device answers, but
  by then signals end it as they end any process.
-/

import ClockDiscipline.Daemon
import ClockDiscipline.Device.Channel
import ClockDiscipline.Instant
import ClockDiscipline.LogFilter
import Std.Async.Signal

namespace ClockDiscipline.Live

/-- What lasts as long as the process. -/
structure Process where
  verbosity : IO.Ref Verbosity
  flag : IO.Ref StopFlag
  /-- Whether a signal found the flag raised. -/
  twice : IO.Ref Bool
  waiters : IO.Ref (List Std.Async.Signal.Waiter)

abbrev Work := ReaderT Process (EIO Halt)

/-- Input or output whose failure ends the process. -/
def perform {α : Type} (x : IO α) : Work α := fun _ => x.toEIO fun e => .exit 1 (toString e ++ "\n")

/-- A failure by its number, whose sign does not count, or by its message. -/
def ioErrorOf : IO.Error → IoError
  | .alreadyExists _ n _ | .otherError n _ | .resourceBusy n _ | .resourceVanished n _ | .unsupportedOperation n _
  | .hardwareFault n _ | .unsatisfiedConstraints n _ | .illegalOperation n _ | .protocolError n _ | .timeExpired n _
  | .interrupted _ n _ | .noFileOrDirectory _ n _ | .invalidArgument _ n _ | .permissionDenied _ n _
  | .resourceExhausted _ n _ | .inappropriateType _ n _ | .noSuchThing _ n _ => .os n.toInt32.toInt.natAbs
  | .unexpectedEof => .kind .unexpectedEof
  | .userError message => .custom .other message

/-- Input or output whose failure is an answer. -/
def attempt {α : Type} (x : IO α) : Work (Except IoError α) := fun _ => do
  match ← x.toBaseIO with
  | .ok a => return .ok a
  | .error e => return .error (ioErrorOf e)

def refCell {S : Type} (r : IO.Ref S) : Cell Work S := ⟨perform r.get, fun s => perform (r.set s)⟩

/-! ## Telling -/

def moment : IO Instant := do
  let now ← Std.Time.Timestamp.now
  let nanos := now.toNanosecondsSinceUnixEpoch.val.toNat
  return ⟨nanos / 1000000000, nanos % 1000000000⟩

/-- Levels stand in a column of five. -/
def column (l : Level) : String := String.ofList (List.replicate (5 - l.text.length) ' ') ++ l.text

instance : Journal Work where
  note e := do
    let v ← perform (← read).verbosity.get
    if v.filter.shows e then
      let line := (← perform moment).text ++ " " ++ column e.level ++ " " ++ Text.defused e.text
      perform do
        let stream ← if e.level = .error then IO.getStderr else IO.getStdout
        stream.putStrLn line
        stream.flush

/-! ## Signals -/

/-- Count the signals of one kind, from the next one on. -/
partial def listen (p : Process) (s : Signal) (waiter : Std.Async.Signal.Waiter) : IO Unit := do
  let arrival ← waiter.wait
  let heard (r : Except IO.Error Int) : IO Unit := do
    if r.isOk then
      match (← p.flag.get).signal? s with
      | some flag => p.flag.set flag
      | none => p.twice.set true
      listen p s waiter
  let _ ← IO.mapTask heard arrival

/-- Leave at once if a signal came twice. -/
def checkpoint : Work Unit := do
  if ← perform (← read).twice.get then throw (.exit 1 signalledTwice)

def install : Work (Except Error (Stop Work)) := do
  let p ← read
  let watch : IO Unit := do
    for (s, number) in [(Signal.int, Std.Async.Signal.sigint), (Signal.term, Std.Async.Signal.sigterm)] do
      let waiter ← Std.Async.Signal.Waiter.mk number true
      p.waiters.modify (waiter :: ·)
      listen p s waiter
  match ← attempt watch with
  | .error e => return .error (.io "sigaction" e)
  | .ok () =>
    return .ok {
      requested := do checkpoint; return (← perform p.flag.get).requested
      cause := do return (← perform p.flag.get).cause
      request := perform (p.flag.modify StopFlag.request) }

/-! ## The device -/

/-- A device and the read under way, nothing once it is released. -/
structure Line where
  handle : IO.FS.Handle
  pending : Option (Task (Except IO.Error ByteArray))

/-- How often a wait looks, in milliseconds. -/
def pulse : Nat := 5

/-- Look until the read ends, a stop is requested or the time is up. -/
def watchLine (t : Task (Except IO.Error ByteArray)) (before : Bool) : (looks : Nat) → Work EdgeEvent
  | 0 => do return if ← perform (IO.hasFinished t) then .dataReady else .timeout
  | looks + 1 => do
    checkpoint
    if ← perform (IO.hasFinished t) then return .dataReady
    if (← perform (← read).flag.get).requested && !before then return .interrupted
    perform (IO.sleep pulse.toUInt32)
    watchLine t before looks

/-- A sample from the bytes of one read. -/
def sampleOf (bytes : ByteArray) : Except IoError Int32 :=
  match Channel.decode? bytes.toList with
  | some n => .ok n
  | none => .error (Channel.shortRead bytes.size)

def source (name : String) (line : IO.Ref (Option Line)) : EdgeSource Work where
  name := name
  wait t := do
    match ← perform line.get with
    | none => return .error Channel.released
    | some l =>
      let before := (← perform (← read).flag.get).requested
      let task ← match l.pending with
        | some task => pure task
        | none => perform (IO.asTask (l.handle.read 4))
      perform (line.set (some { l with pending := some task }))
      return .ok (← watchLine task before (t.toMillis / pulse))
  read := do
    match ← perform line.get with
    | none => return .error Channel.released
    | some l =>
      let bytes ← match l.pending with
        | some task => do
          perform (line.set (some { l with pending := none }))
          attempt (do IO.ofExcept (← IO.wait task))
        | none => attempt (l.handle.read 4)
      return bytes.bind sampleOf
  shift ns := do
    match ← perform line.get with
    | none => return .error Channel.released
    | some l => attempt (do l.handle.write ⟨(Channel.encode ns).toArray⟩; l.handle.flush)
  release := perform (line.set none)

/-! ## The whole -/

def readText (path : String) : Work (Except IoError String) := do
  match ← attempt (IO.FS.readBinFile path) with
  | .error e => return .error e
  | .ok bytes =>
    match String.fromUTF8? bytes with
    | some text => return .ok text
    | none => return .error (.custom .invalidData "stream did not contain valid UTF-8")

def openDevice (path : String) : Work (Except IoError (EdgeSource Work)) := do
  match ← attempt (IO.FS.Handle.mk path .readWrite) with
  | .error e => return .error e
  | .ok handle => return .ok (source path (← perform (IO.mkRef (some ⟨handle, none⟩))))

def pass (nanos : Nat) : Work Unit := perform (IO.sleep (nanos / 1000000).toUInt32)

def rest (nanos : Nat) : Work Unit := do
  checkpoint
  pass nanos

def system : IO (System Work) := do
  return {
    readText := readText
    openDevice := openDevice
    install := install
    rest := rest
    pass := pass
    showDebug := fun on => do perform ((← read).verbosity.modify (·.showDebug on))
    dummy := refCell (← IO.mkRef default)
    sim := refCell (← IO.mkRef (.create "" (.standard Float)))
    warmup := refCell (← IO.mkRef default)
    pid := refCell (← IO.mkRef default)
    patience := 4611686018427387904 }

/-- The status of how a command ended, after its last words. -/
def statusOf : Except Halt Nat → IO UInt32
  | .ok status => return status.toUInt32
  | .error (.exit status words) => do
    IO.eprint words
    return status.toUInt32
  | .error .panic => do
    IO.eprintln "arithmetic left its range"
    return 101
  | .error .stalled | .error (.killed _) => return 1

/-- Serve one command and leave with its status. -/
def run (args : List String) : IO UInt32 := do
  let verbosity ← IO.mkRef (.ofEnvironment (← IO.getEnv "RUST_LOG"))
  let p : Process := ⟨verbosity, ← IO.mkRef .lowered, ← IO.mkRef false, ← IO.mkRef []⟩
  let status ← statusOf (← (((← system).command "oscillatord" args) p).toBaseIO)
  for waiter in ← p.waiters.get do waiter.stop
  return status

end ClockDiscipline.Live

def main (args : List String) : IO UInt32 := ClockDiscipline.Live.run args
