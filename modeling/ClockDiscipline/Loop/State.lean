/-
  ClockDiscipline.Loop.State — what the loop carries from one turn to the next.

  The count of turns starts at the configured bound, goes down by one before each turn,
  and ends the loop at 1: a bound of `N` lets `N - 1` turns run. From 0 the count wraps
  around, which leaves the loop unbounded. After a phase jump the next sample shows the
  jump and no measurement, so it is to be ignored, once.
-/

namespace ClockDiscipline

structure LoopState where
  turns : UInt32
  ignoreNext : Bool
  /-- Whether the handles were given back. -/
  released : Bool
  deriving DecidableEq, Repr, Inhabited

namespace LoopState

def start (turns : UInt32) : LoopState := ⟨turns, false, false⟩

/-- Count a turn. -/
def beginTurn (s : LoopState) : LoopState := { s with turns := s.turns - 1 }

/-- Whether the turn just finished was the last one. -/
def exhausted (s : LoopState) : Bool := s.turns == 1

/-- Ignore the next sample. -/
def ignoring (s : LoopState) : LoopState := { s with ignoreNext := true }

/-- Whether the current sample is to be ignored, and the state where it has been. -/
def takeIgnored (s : LoopState) : Bool × LoopState := (s.ignoreNext, { s with ignoreNext := false })

end LoopState

end ClockDiscipline
