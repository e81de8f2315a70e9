/-
  ClockDiscipline.Proofs.SideBySide — two computations that go alike.

  Two computations are run side by side, in worlds that are related. They match if both
  answer, with related answers, or both halt for the same reason, and leave related
  worlds either way. Sequences match where their parts do. What is put aside matches
  itself wherever the worlds differ in the part alone.
-/

import ClockDiscipline.Proofs.Beside

namespace ClockDiscipline

/-- Two ends of computations that go alike. -/
inductive Alike {W α β : Type} (R : W → W → Prop) (Q : α → β → Prop) :
    EStateM.Result Halt W α → EStateM.Result Halt W β → Prop where
  | ok {a : α} {b : β} {v v' : W} (hq : Q a b) (hr : R v v') : Alike R Q (.ok a v) (.ok b v')
  | error (e : Halt) {v v' : W} (hr : R v v') : Alike R Q (.error e v) (.error e v')

theorem alike_cases {W α β : Type} {R : W → W → Prop} {Q : α → β → Prop} {r : EStateM.Result Halt W α}
    {r' : EStateM.Result Halt W β} (h : Alike R Q r r') :
    (∃ a b v v', r = .ok a v ∧ r' = .ok b v' ∧ Q a b ∧ R v v') ∨
      ∃ e v v', r = .error e v ∧ r' = .error e v' ∧ R v v' := by
  cases h with
  | ok hq hr => exact Or.inl ⟨_, _, _, _, rfl, rfl, hq, hr⟩
  | error e hr => exact Or.inr ⟨e, _, _, rfl, rfl, hr⟩

namespace Act

variable {W α α' β β' : Type} {R : W → W → Prop} {P : α → α' → Prop} {Q : β → β' → Prop}

def Matches (R : W → W → Prop) (Q : β → β' → Prop) (x : Act W β) (y : Act W β') : Prop :=
  ∀ w w', R w w' → Alike R Q (x w) (y w')

theorem matches_pure {b : β} {b' : β'} (h : Q b b') : Matches R Q (pure b) (pure b') :=
  fun _ _ hr => .ok h hr

theorem matches_throw (e : Halt) : Matches R Q (throw e) (throw e) := fun _ _ hr => .error e hr

theorem matches_bind {x : Act W α} {y : Act W α'} {f : α → Act W β} {g : α' → Act W β'} (hx : Matches R P x y)
    (hf : ∀ a b, P a b → Matches R Q (f a) (g b)) : Matches R Q (x >>= f) (y >>= g) := by
  intro w w' hr
  show Alike R Q (EStateM.bind x f w) (EStateM.bind y g w')
  unfold EStateM.bind
  rcases alike_cases (hx w w' hr) with ⟨a, b, v, v', h1, h2, hp, hv⟩ | ⟨e, v, v', h1, h2, hv⟩
  · rw [h1, h2]
    exact hf a b hp v v' hv
  · rw [h1, h2]
    exact .error e hv

/-- The same step of both, and what follows for each answer. -/
theorem matches_bind_eq {x y : Act W α} {f : α → Act W β} {g : α → Act W β'} (hx : Matches R Eq x y)
    (hf : ∀ a, Matches R Q (f a) (g a)) : Matches R Q (x >>= f) (y >>= g) := by
  refine matches_bind hx fun a b hab => ?_
  rw [← hab]
  exact hf a

theorem matches_modify {S : Type} {cell : Cell (Act W) S} (hget : Matches R Eq cell.get cell.get)
    (hset : ∀ s, Matches R Eq (cell.set s) (cell.set s)) (f : S → S) : Matches R Eq (cell.modify f) (cell.modify f) :=
  matches_bind_eq hget fun _ => hset _

end Act

/-- Worlds with the same others, whose parts are related. -/
structure Beside.Apart {S V : Type} (P : S → S → Prop) (w w' : Beside S V) : Prop where
  own : P w.own w'.own
  others : w'.others = w.others

namespace Beside

variable {S V α β : Type} {P : S → S → Prop} {Q : α → β → Prop}

theorem matches_aside (x : Act V α) : Act.Matches (Apart P) Eq (aside x : Act (Beside S V) α) (aside x) := by
  intro w w' h
  simp only [aside, look]
  rw [h.others]
  cases x w.others with
  | ok a v => exact .ok rfl ⟨h.own, rfl⟩
  | error e v => exact .error e ⟨h.own, rfl⟩

theorem matches_get_mapped {T : Type} (c : Cell (Act V) T) :
    Act.Matches (Apart P) Eq ((c.mapped aside : Cell (Act (Beside S V)) T).get) ((c.mapped aside).get) :=
  matches_aside c.get

theorem matches_set_mapped {T : Type} (c : Cell (Act V) T) (t : T) :
    Act.Matches (Apart P) Eq ((c.mapped aside : Cell (Act (Beside S V)) T).set t) ((c.mapped aside).set t) :=
  matches_aside (c.set t)

theorem matches_get : Act.Matches (Apart P) P ((slot (S := S) (V := V)).cell.get) (slot.cell.get) :=
  fun _ _ h => .ok h.own h

theorem matches_step {f : S → α × S} {g : S → β × S} (h : ∀ s s', P s s' → Q (f s).1 (g s').1 ∧ P (f s).2 (g s').2) :
    Act.Matches (Apart P) Q ((slot (S := S) (V := V)).cell.step f) (slot.cell.step g) := by
  intro w w' hw
  obtain ⟨hq, hp⟩ := h w.own w'.own hw.own
  exact .ok hq ⟨hp, hw.others⟩

end Beside

end ClockDiscipline
