/-
  ClockDiscipline.Proofs.Linked — states that follow one another along a list.

  One step for each item of the list leads from a first state to a last. The items are
  calls, with the part of the world that they find and leave, or whole turns.

  Proved: (1) where a list is cut, its steps are (`linked_append`, `linked_concat`), and what
  no item changes stays (`kept_of_linked`); (2) the calls of a turn link what a part of the world
  was before the turn with what it is after it, if each call answered does such a step
  and notes leave the part alone (`linked_callsMade`), and up to the call where a turn halts
  if it does (`linked_calls_of_halt`); (3) so do the turns of a row, if
  each turn does such a step (`linked_records`).
-/

import ClockDiscipline.Proofs.TurnRow

namespace ClockDiscipline

/-- From a first state to a last, one step for each item. -/
inductive Linked {S X : Type} (step : S → X → S → Prop) : S → List X → S → Prop where
  | nil (s : S) : Linked step s [] s
  | cons {s t u : S} {x : X} {xs : List X} (h : step s x t) (h' : Linked step t xs u) : Linked step s (x :: xs) u

/-! ## (1) Lists -/

section

variable {S X : Type} {step : S → X → S → Prop} {s u : S} {x : X} {xs ys : List X}

theorem linked_nil : Linked step s [] u ↔ u = s := by
  constructor
  · intro h
    cases h
    rfl
  · rintro rfl
    exact .nil _

theorem linked_cons : Linked step s (x :: xs) u ↔ ∃ t, step s x t ∧ Linked step t xs u := by
  constructor
  · intro h
    cases h with
    | cons h h' => exact ⟨_, h, h'⟩
  · rintro ⟨t, h, h'⟩
    exact .cons h h'

theorem linked_append : Linked step s (xs ++ ys) u ↔ ∃ t, Linked step s xs t ∧ Linked step t ys u := by
  induction xs generalizing s with
  | nil =>
    constructor
    · intro h
      exact ⟨s, .nil s, h⟩
    · rintro ⟨t, h, h'⟩
      rw [linked_nil] at h
      rwa [h] at h'
  | cons x xs ih =>
    simp only [List.cons_append, linked_cons, ih]
    constructor
    · rintro ⟨t, h, t', h1, h2⟩
      exact ⟨t', ⟨t, h, h1⟩, h2⟩
    · rintro ⟨t', ⟨t, h, h1⟩, h2⟩
      exact ⟨t, h, t', h1, h2⟩

/-- The last item of a list is the last step. -/
theorem linked_concat : Linked step s (xs ++ [x]) u ↔ ∃ t, Linked step s xs t ∧ step t x u := by
  rw [linked_append]
  refine exists_congr fun t => and_congr_right fun _ => ?_
  rw [linked_cons]
  constructor
  · rintro ⟨v, h, hv⟩
    rwa [linked_nil.mp hv]
  · intro h
    exact ⟨u, h, .nil u⟩

/-- What one item more gives. -/
theorem filterMap_concat {α : Type} (f : X → Option α) (xs : List X) (x : X) :
    (xs ++ [x]).filterMap f = xs.filterMap f ++ (f x).toList := by
  rw [List.filterMap_append]
  cases hx : f x <;> simp [hx]

/-- What no item changes. -/
theorem kept_of_linked {α : Type} (f : S → α) (h : Linked step s xs u)
    (hk : ∀ x ∈ xs, ∀ s t, step s x t → f t = f s) : f u = f s := by
  induction h with
  | nil s => rfl
  | @cons s t u x xs h _ ih =>
    have ht : f t = f s := hk x List.mem_cons_self s t h
    rw [← ht]
    exact ih fun y hy => hk y (List.mem_cons_of_mem x hy)

/-- Items that change nothing. -/
theorem eq_of_linked (h : Linked step s xs u) (hk : ∀ x ∈ xs, ∀ s t, step s x t → t = s) : u = s :=
  kept_of_linked id h hk

end

/-! ## (2) Calls -/

section

variable {W S α : Type} [Journal (Act W)] {rig : Rig (Act W)} {step : S → Call → S → Prop}
  (view : W → S) (hn : ∀ e w v, (Journal.note e : Act W Unit) w = .ok () v → view v = view w)
  (ha : ∀ (c : Ask) a w v, c.InTurn → rig.answer c w = .ok a v → step (view w) ⟨c, a⟩ (view v))

include hn ha

theorem linked_calls {t : Talk α} {w v : W} {r : α} (h : t.perform rig w = .ok r v)
    (hc : ∀ c ∈ t.calls rig w, c.ask.InTurn) : Linked step (view w) (t.calls rig w) (view v) := by
  induction t generalizing w with
  | done a =>
    cases h
    exact .nil _
  | note e t ih =>
    cases hx : (Journal.note e : Act W Unit) w with
    | ok u w1 =>
      rw [Talk.perform_note_ok rig hx] at h
      simp only [Talk.calls, hx] at hc ⊢
      rw [← hn e w w1 hx]
      exact ih h hc
    | error x w1 => rw [Talk.perform_note_error rig hx] at h; cases h
  | ask c next ih =>
    cases hx : rig.answer c w with
    | ok a w1 =>
      rw [Talk.perform_ask_ok rig hx] at h
      simp only [Talk.calls, hx] at hc ⊢
      have hs : step (view w) ⟨c, a⟩ (view w1) := ha c a w w1 (hc _ List.mem_cons_self) hx
      exact .cons hs (ih a h fun d hd => hc d (List.mem_cons_of_mem _ hd))
    | error x w1 => rw [Talk.perform_ask_error rig hx] at h; cases h

/-- Where telling does not halt, a performance that does halts at a call: the next on a path, in a world that the
    calls before it lead to. -/
theorem linked_calls_of_halt (hj : ∀ (e : Entry) (w : W), ∃ a v, (Journal.note e : Act W Unit) w = .ok a v)
    {t : Talk α} {w v : W} {x : Halt} (h : t.perform rig w = .error x v)
    (hc : ∀ c ∈ t.calls rig w, c.ask.InTurn) :
    ∃ c more r u, t.Path (t.calls rig w ++ ⟨c, default⟩ :: more) r ∧ Linked step (view w) (t.calls rig w) (view u) ∧
      rig.answer c u = .error x v := by
  induction t generalizing w with
  | done a => cases h
  | note e t ih =>
    obtain ⟨_, w1, hx⟩ := hj e w
    rw [Talk.perform_note_ok rig hx] at h
    simp only [Talk.calls, hx] at hc ⊢
    rw [← hn e w w1 hx]
    exact ih h hc
  | ask c next ih =>
    cases hx : rig.answer c w with
    | ok a w1 =>
      rw [Talk.perform_ask_ok rig hx] at h
      simp only [Talk.calls, hx] at hc ⊢
      have hs : step (view w) ⟨c, a⟩ (view w1) := ha c a w w1 (hc _ List.mem_cons_self) hx
      obtain ⟨d, more, r, u, hp, hl, hu⟩ := ih a h fun d hd => hc d (List.mem_cons_of_mem _ hd)
      exact ⟨d, more, r, u, ⟨a, _, rfl, hp⟩, .cons hs hl, hu⟩
    | error y w1 =>
      rw [Talk.perform_ask_error rig hx] at h
      cases h
      simp only [Talk.calls, hx]
      obtain ⟨more, r, hp⟩ := Talk.exists_path (next default)
      exact ⟨c, more, r, w, ⟨default, more, rfl, hp⟩, .nil _, hx⟩

theorem Turn.linked_callsMade {settings : Settings} {s : LoopState} {w v : W} {r : Except Error (Turn × LoopState)}
    (h : (Turn.take rig settings s).run w = .ok r v) :
    Linked step (view w) (Turn.callsMade rig settings s w) (view v) := by
  have ht : (Turn.take rig.script settings s).run.perform rig = (Turn.take rig settings s).run :=
    performs_take rig settings s
  rw [← ht] at h
  rw [Turn.callsMade_eq]
  have hp := Talk.path_of_ok rig h
  exact linked_calls view hn ha h fun c hc => Turn.inTurn_of_path rig hp hc

end

/-! ## (3) Turns -/

theorem Turn.linked_records {W S : Type} [Journal (Act W)] {rig : Rig (Act W)} {settings : Settings} (view : W → S)
    {step : S → Record → S → Prop}
    (ht : ∀ s w v r, (Turn.take rig settings s).run w = .ok r v →
      step (view w) ⟨callsMade rig settings s w, (settle s r).1⟩ (view v))
    (n : Nat) (s : LoopState) (w : W) : ∃ u, Linked step (view w) (records rig settings n s w) u := by
  induction n generalizing s w with
  | zero => exact ⟨view w, .nil _⟩
  | succ n ih =>
    unfold records
    cases hr : (Turn.take rig settings s).run w with
    | ok r v =>
      rw [step_of_ok hr]
      obtain ⟨u, hu⟩ := ih (settle s r).2 v
      exact ⟨u, .cons (ht s w v r hr) hu⟩
    | error e v =>
      rw [step_of_error hr]
      exact ⟨view w, .nil _⟩

end ClockDiscipline
