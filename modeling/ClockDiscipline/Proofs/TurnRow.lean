/-
  ClockDiscipline.Proofs.TurnRow — turns in a row.

  Turns in a row carry the state of the loop on; a turn that fails leaves it as it was.
  Each turn of a row is recorded by its calls and its answer, up to one that halts.

  Proved: what the calls of a turn keep, a row of turns keeps (`keeps_series`).
-/

import ClockDiscipline.Proofs.TurnForm

namespace ClockDiscipline.Turn

section

variable {m : Type → Type} [Monad m] [Journal m]

/-- The answer of a turn that was taken in a state, and the state for the next. -/
def settle (s : LoopState) : Except Error (Turn × LoopState) → Except Error Turn × LoopState
  | .error e => (.error e, s)
  | .ok (t, s) => (.ok t, s)

def step (rig : Rig m) (settings : Settings) (s : LoopState) : m (Except Error Turn × LoopState) := do
  return settle s (← (Turn.take rig settings s).run)

/-- As many turns as asked for, whatever they answer. -/
def series (rig : Rig m) (settings : Settings) : Nat → LoopState → m LoopState
  | 0, s => return s
  | n + 1, s => do
    let (_, s) ← step rig settings s
    series rig settings n s

end

section

variable {W : Type} [Journal (Act W)]

/-- A turn that was taken. -/
structure Record where
  calls : List Call
  answer : Except Error Turn

/-- The records of turns in a row, at most so many. A turn that halts has none and ends the row. -/
def records (rig : Rig (Act W)) (settings : Settings) : Nat → LoopState → W → List Record
  | 0, _, _ => []
  | n + 1, s, w =>
    match step rig settings s w with
    | .ok (answer, s') w' => ⟨callsMade rig settings s w, answer⟩ :: records rig settings n s' w'
    | .error _ _ => []

theorem step_of_ok {rig : Rig (Act W)} {settings : Settings} {s : LoopState} {w v : W}
    {r : Except Error (Turn × LoopState)} (h : (Turn.take rig settings s).run w = .ok r v) :
    step rig settings s w = .ok (settle s r) v := by
  simp only [step, Bind.bind, EStateM.bind, h]
  rfl

theorem step_of_error {rig : Rig (Act W)} {settings : Settings} {s : LoopState} {w v : W} {e : Halt}
    (h : (Turn.take rig settings s).run w = .error e v) : step rig settings s w = .error e v := by
  simp only [step, Bind.bind, EStateM.bind, h]

variable {P : W → Prop} {rig : Rig (Act W)} (hn : ∀ e, Act.Keeps P (Journal.note e : Act W Unit))
  (ha : ∀ c : Ask, c.InTurn → Act.Keeps P (rig.answer c)) (settings : Settings)

include hn ha

theorem keeps_take (s : LoopState) : Act.Keeps P (Turn.take rig settings s).run := by
  rw [← performs_take rig settings s]
  exact Talk.keeps_perform rig hn _ fun _ _ hp c hc => ha c.ask (inTurn_of_path rig hp hc)

theorem keeps_step (s : LoopState) : Act.Keeps P (step rig settings s) :=
  Act.keeps_bind (keeps_take hn ha settings s) fun _ => Act.keeps_pure _

theorem keeps_series (n : Nat) (s : LoopState) : Act.Keeps P (series rig settings n s) := by
  induction n generalizing s with
  | zero => exact Act.keeps_pure s
  | succ n ih => exact Act.keeps_bind (keeps_step hn ha settings s) fun r => ih r.2

end

end ClockDiscipline.Turn
