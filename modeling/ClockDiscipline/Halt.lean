/-
  ClockDiscipline.Halt — how a computation ends, and where it keeps its state.

  The parts of the daemon are written over any monad `m`: a real one for the command
  line, `Act W` for a world `W` of one's own choice. An `Act W` either answers and
  leaves a new world, or halts. The state of one part is a `Cell` of `m`; in `Act W` a
  cell is a `Slot`, a component of `W` that obeys the three laws of reading and
  writing.
-/

import ClockDiscipline.Stop

namespace ClockDiscipline

/-- Why a computation stops without an answer. -/
inductive Halt where
  /-- An arithmetic step left the range of its type. -/
  | panic
  /-- Patience ran out before the awaited event came. -/
  | stalled
  /-- The process left with this status, after these last words to standard error. -/
  | exit (status : Nat) (words : String)
  /-- A signal that nothing handles ended the process, which leaves no status. -/
  | killed (signal : Signal)
  deriving DecidableEq, Repr

/-- Computations over a world `W`. -/
abbrev Act (W : Type) : Type → Type := EStateM Halt W

/-- The state of one part of a computation. -/
structure Cell (m : Type → Type) (S : Type) where
  get : m S
  set : S → m Unit

/-- Replace the state by a function of it. -/
def Cell.modify {m : Type → Type} {S : Type} [Monad m] (c : Cell m S) (f : S → S) : m Unit := do
  c.set (f (← c.get))

/-- Answer from the state while replacing it. -/
def Cell.step {m : Type → Type} {S α : Type} [Monad m] (c : Cell m S) (f : S → α × S) : m α := do
  let (a, s) := f (← c.get)
  c.set s
  return a

/-- A component of a world. -/
structure Slot (W S : Type) where
  get : W → S
  set : S → W → W
  get_set : ∀ s w, get (set s w) = s := by intros; rfl
  set_get : ∀ w, set (get w) w = w := by intros; rfl
  set_set : ∀ s t w, set s (set t w) = set s w := by intros; rfl

/-- A slot as the state of a part that runs over the whole world. -/
def Slot.cell {W S : Type} (k : Slot W S) : Cell (Act W) S where
  get := fun w => .ok (k.get w) w
  set := fun s w => .ok () (k.set s w)

/-- An answer that may be missing because arithmetic left its range. -/
def orPanic {m : Type → Type} {α : Type} [Monad m] [MonadExceptOf Halt m] : Option α → m α
  | some a => pure a
  | none => throw .panic

end ClockDiscipline
