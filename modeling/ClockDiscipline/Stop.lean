/-
  ClockDiscipline.Stop — stopping on request.

  The first signal only raises a flag, which the loop looks at between turns; a signal
  that lands during a wait cuts it short. A signal that finds the flag raised, by a
  signal or by a direct request, ends the process on the spot. The flag is never lowered.
-/

namespace ClockDiscipline

inductive Signal where
  | int
  | term
  deriving DecidableEq, Repr, Inhabited

def Signal.text : Signal → String
  | .int => "SIGINT"
  | .term => "SIGTERM"

/-- Whether a stop was requested, and the signal behind it. -/
structure StopFlag where
  requested : Bool
  cause : Option Signal
  deriving DecidableEq, Repr

namespace StopFlag

def lowered : StopFlag := ⟨false, none⟩

instance : Inhabited StopFlag := ⟨lowered⟩

/-- A direct request, which has no signal behind it. -/
def request (f : StopFlag) : StopFlag := { f with requested := true }

/-- A signal arrives. Nothing is left where it finds the flag raised. -/
def signal? (f : StopFlag) (s : Signal) : Option StopFlag := if f.requested then none else some ⟨true, some s⟩

end StopFlag

/-- What a process says that was signalled twice, before it fails. -/
def signalledTwice : String := "Signalled twice, brutal exit.\n"

/-- The stop flag as the loop sees it. -/
structure Stop (m : Type → Type) where
  requested : m Bool
  cause : m (Option Signal)
  request : m Unit

end ClockDiscipline
