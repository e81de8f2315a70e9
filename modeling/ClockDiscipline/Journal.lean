/-
  ClockDiscipline.Journal — what the daemon tells about itself.

  An entry has a level, the part of the daemon it is about, and a text. A computation
  that can tell is a `Journal`; what becomes of the entries is up to it.
-/

import ClockDiscipline.Text.Defused

namespace ClockDiscipline

inductive Level where
  | debug
  | info
  | warn
  | error
  deriving DecidableEq, Repr, Inhabited

def Level.text : Level → String
  | .debug => "DEBUG"
  | .info => "INFO"
  | .warn => "WARN"
  | .error => "ERROR"

/-- Severity, 1 for the gravest. -/
def Level.rank : Level → Nat
  | .error => 1
  | .warn => 2
  | .info => 3
  | .debug => 4

/-- Parts of the daemon. -/
inductive Topic where
  | daemon
  | acquisition
  | loop
  | readout
  | correction
  | engine
  | oscillator
  | bench
  deriving DecidableEq, Repr, Inhabited

/-- The name by which a log filter selects the entries of a part. -/
def Topic.target : Topic → String
  | .daemon => "oscillatord"
  | .acquisition => "oscillatord::controller::startup"
  | .loop => "oscillatord::controller"
  | .readout => "oscillatord::controller::collect"
  | .correction => "oscillatord::controller::dispatch"
  | .engine => "oscillatord::engine::pid"
  | .oscillator => "oscillatord::oscillator::soft"
  | .bench => "oscillatord::hootl"

structure Entry where
  level : Level
  topic : Topic
  text : String
  deriving DecidableEq, Repr, Inhabited

/-- Level and text in one line. -/
def Entry.line (e : Entry) : String := e.level.text ++ " " ++ e.text

/-- Level and text in one line that no terminal obeys. -/
def Entry.shown (e : Entry) : String := e.level.text ++ " " ++ Text.defused e.text

class Journal (m : Type → Type) where
  note : Entry → m Unit

/-- Telling goes on where a failure may end the computation. -/
instance {ε : Type} {m : Type → Type} [Monad m] [Journal m] : Journal (ExceptT ε m) where
  note e := ExceptT.lift (Journal.note e)

namespace Journal

variable {m : Type → Type} [Journal m]

def debug (topic : Topic) (text : String) : m Unit := note ⟨.debug, topic, text⟩

def info (topic : Topic) (text : String) : m Unit := note ⟨.info, topic, text⟩

def warn (topic : Topic) (text : String) : m Unit := note ⟨.warn, topic, text⟩

def error (topic : Topic) (text : String) : m Unit := note ⟨.error, topic, text⟩

end Journal

end ClockDiscipline
