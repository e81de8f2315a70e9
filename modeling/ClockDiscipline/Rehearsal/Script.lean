/-
  ClockDiscipline.Rehearsal.Script — collaborators that play back what they were given.

  Each keeps lists of answers and uses up one item for each call; when a list is used up
  it falls back on an answer of its own. The PPS source plays cues: a sample stays
  pending until it is read or a later cue takes its place.
-/

import ClockDiscipline.Halt
import ClockDiscipline.Rig
import ClockDiscipline.Stop

namespace ClockDiscipline.Rehearsal

/-- The first item of a list and the rest of it, or a fallback. -/
def playNext {α : Type} (fallback : α) : List α → α × List α
  | [] => (fallback, [])
  | a :: as => (a, as)

/-- What one wait of a scripted PPS source brings. -/
inductive Cue where
  | sample (ns : Int32)
  | interrupted
  /-- An edge that leaves the pending sample alone. -/
  | edge
  | silence
  /-- An edge whose sample cannot be read. -/
  | readFails (e : IoError)
  | waitFails (e : IoError)
  /-- A signal to the process. -/
  | signal (s : Signal)
  deriving DecidableEq, Repr

structure Script where
  cues : List Cue
  pending : Option (Except IoError Int32)
  /-- Failures of the next shifts; `none` succeeds. -/
  shifts : List (Option IoError)

instance : Inhabited Script := ⟨⟨[], none, []⟩⟩

namespace Script

/-- The event of the next cue, and the script after it. A script that is used up stays silent. -/
def wait (s : Script) : Except IoError EdgeEvent × Script :=
  match s.cues with
  | [] => (.ok .timeout, s)
  | .sample ns :: cues => (.ok .dataReady, { s with cues, pending := some (.ok ns) })
  | .interrupted :: cues => (.ok .interrupted, { s with cues })
  | .edge :: cues => (.ok .dataReady, { s with cues })
  | .silence :: cues => (.ok .timeout, { s with cues })
  | .readFails e :: cues => (.ok .dataReady, { s with cues, pending := some (.error e) })
  | .waitFails e :: cues => (.error e, { s with cues })
  | .signal _ :: cues => (.ok .interrupted, { s with cues })

/-- Take what is pending. -/
def read (s : Script) : Except IoError Int32 × Script :=
  (s.pending.getD (.error (.kind .wouldBlock)), { s with pending := none })

def shift (s : Script) : Except IoError Unit × Script :=
  let (failure, shifts) := playNext none s.shifts
  ((match failure with
    | none => .ok ()
    | some e => .error e), { s with shifts })

/-- The script as a collaborator. `raise` sends a signal to the process. -/
def source {m : Type → Type} [Monad m] (name : String) (cell : Cell m Script) (raise : Signal → m Unit) : EdgeSource m where
  name := name
  wait _ := do
    let cue := (← cell.get).cues.head?
    let event ← cell.step wait
    match cue with
    | some (.signal s) => raise s
    | _ => pure ()
    return event
  read := cell.step read
  shift _ := cell.step shift
  release := pure ()

end Script

/-- An oscillator that plays back its answers. -/
structure Understudy where
  controls : List (Except String Controls)
  temperatures : List (Except String (Option UInt16))
  /-- Failures of the next outputs; `none` succeeds. -/
  applies : List (Option String)
  /-- Results of the next calibrations; `none` fails. -/
  calibrations : List (Option Calibration.Results)

instance : Inhabited Understudy := ⟨⟨[], [], [], []⟩⟩

def Understudy.oscillator {m : Type → Type} [Monad m] (model : String) (cell : Cell m Understudy) : Oscillator m where
  model := model
  controls := cell.step fun u =>
    let (a, controls) := playNext (.ok ⟨1000, 10, true⟩) u.controls
    (a, { u with controls })
  temperature := cell.step fun u =>
    let (a, temperatures) := playNext (.ok none) u.temperatures
    (a, { u with temperatures })
  apply _ := cell.step fun u =>
    let (a, applies) := playNext none u.applies
    ((match a with
      | none => .ok ()
      | some reason => .error reason), { u with applies })
  calibrate _ _ _ := cell.step fun u =>
    let (a, calibrations) := playNext (some ⟨[]⟩) u.calibrations
    (a, { u with calibrations })
  bound _ _ := pure ()
  release := pure ()

/-- A receiver that plays back fixes and is valid from then on. -/
def playedReceiver {m : Type → Type} [Monad m] (qerr : Int32) (cell : Cell m (List (Except String Fix))) : Receiver m where
  poll := cell.step (playNext (.ok .valid))
  qerr := return qerr

/-- An engine that plays back its outputs and holds from then on. -/
def playedEngine {m : Type → Type} [Monad m] (dacMin dacMax : UInt32) (plan : Option Calibration.Plan)
    (cell : Cell m (List (Except String ControlOutput))) : Engine m where
  dacMin := dacMin
  dacMax := dacMax
  process i := cell.step (playNext (.ok (.hold i.fine)))
  plan := return plan
  submit _ _ := pure ()
  release := pure ()

end ClockDiscipline.Rehearsal
