/-
  ClockDiscipline.Proofs.OptionRow — a row of questions that may have no answer.

  A row is answered if each of its members is, and then by the answers in their order. One
  member without an answer leaves the row without one.

  Proved: when a row is answered, and by what (`mapM_eq_some_iff`), and when it is not
  (`mapM_eq_none_iff`).
-/

import Mathlib.Data.List.Forall2

namespace ClockDiscipline

section

variable {α β : Type} {f : α → Option β} {l : List α}

theorem mapM_eq_some_iff {ys : List β} : l.mapM f = some ys ↔ List.Forall₂ (fun a y => f a = some y) l ys := by
  induction l generalizing ys with
  | nil => simp [eq_comm]
  | cons a l ih =>
    simp only [List.mapM_cons, Option.bind_eq_bind, Option.bind_eq_some_iff, List.forall₂_cons_left_iff, ih]
    constructor
    · intro h
      obtain ⟨y, hy, zs, hzs, h⟩ := h
      exact ⟨y, zs, hy, hzs, (Option.some.inj h).symm⟩
    · intro h
      obtain ⟨y, zs, hy, hzs, h⟩ := h
      exact ⟨y, hy, zs, hzs, congrArg some h.symm⟩

theorem mapM_eq_none_iff : l.mapM f = none ↔ ∃ a ∈ l, f a = none := by
  induction l with
  | nil => simp
  | cons a l ih =>
    rw [List.mapM_cons, List.exists_mem_cons_iff, ← ih]
    cases f a with
    | none => simp
    | some y => cases l.mapM f <;> simp

end

end ClockDiscipline
