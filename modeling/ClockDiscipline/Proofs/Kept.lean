/-
  ClockDiscipline.Proofs.Kept — what a computation keeps, however it ends.

  A property of the world is kept by a computation if it holds after it wherever it held
  before, whether the computation answered or halted. A sequence keeps what its parts
  keep, and a write what it keeps of the cell. In the same way every answer of a
  computation has a property if those of its last parts have it.
-/

import ClockDiscipline.Halt

namespace ClockDiscipline.Act

variable {W S α β : Type} {P : W → Prop}

/-- The world that a computation leaves, with an answer or halted. -/
def after (x : Act W α) (w : W) : W :=
  match x w with
  | .ok _ v | .error _ v => v

def Keeps (P : W → Prop) (x : Act W α) : Prop := ∀ w, P w → P (after x w)

theorem after_of_ok {x : Act W α} {w v : W} {a : α} (h : x w = .ok a v) : after x w = v := by
  simp only [after, h]

theorem after_of_error {x : Act W α} {w v : W} {e : Halt} (h : x w = .error e v) : after x w = v := by
  simp only [after, h]

theorem keeps_pure (a : α) : Keeps P (pure a : Act W α) := fun _ h => h

theorem keeps_throw (e : Halt) : Keeps P (throw e : Act W α) := fun _ h => h

theorem keeps_bind {x : Act W α} {f : α → Act W β} (hx : Keeps P x) (hf : ∀ a, Keeps P (f a)) : Keeps P (x >>= f) := by
  intro w hw
  have h1 := hx w hw
  cases hr : x w with
  | ok a v =>
    rw [after_of_ok hr] at h1
    have h2 : after (x >>= f) w = after (f a) v := by simp only [after, Bind.bind, EStateM.bind, hr]
    rw [h2]
    exact hf a v h1
  | error e v =>
    rw [after_of_error hr] at h1
    have h2 : (x >>= f) w = .error e v := by simp only [Bind.bind, EStateM.bind, hr]
    rwa [after_of_error h2]

/-- An answer of a sequence is an answer of its second part, after an answer of the first. -/
theorem bind_ok {x : Act W α} {f : α → Act W β} {w v : W} {b : β} (h : (x >>= f) w = .ok b v) :
    ∃ a u, x w = .ok a u ∧ f a u = .ok b v := by
  have h : EStateM.bind x f w = .ok b v := h
  unfold EStateM.bind at h
  cases hx : x w with
  | ok a u =>
    rw [hx] at h
    exact ⟨a, u, rfl, h⟩
  | error e u =>
    rw [hx] at h
    cases h

/-- After an answer of its first part a sequence is its second. -/
theorem bind_of_ok {x : Act W α} {w u : W} {a : α} (h : x w = .ok a u) (f : α → Act W β) : (x >>= f) w = f a u := by
  simp only [Bind.bind, EStateM.bind, h]

theorem bind_ok_iff {x : Act W α} {f : α → Act W β} {w v : W} {b : β} :
    (x >>= f) w = .ok b v ↔ ∃ a u, x w = .ok a u ∧ f a u = .ok b v := by
  constructor
  · exact bind_ok
  · rintro ⟨a, u, hx, h⟩
    rwa [bind_of_ok hx]

theorem bind_of_error {x : Act W α} {w u : W} {e : Halt} (h : x w = .error e u) (f : α → Act W β) :
    (x >>= f) w = .error e u := by
  simp only [Bind.bind, EStateM.bind, h]

/-- A halt of a sequence is one of its first part, or one of its second after an answer of the first. -/
theorem bind_error {x : Act W α} {f : α → Act W β} {w v : W} {e : Halt} (h : (x >>= f) w = .error e v) :
    x w = .error e v ∨ ∃ a u, x w = .ok a u ∧ f a u = .error e v := by
  have h : EStateM.bind x f w = .error e v := h
  unfold EStateM.bind at h
  cases hx : x w with
  | ok a u =>
    rw [hx] at h
    exact Or.inr ⟨a, u, rfl, h⟩
  | error y u =>
    rw [hx] at h
    cases h
    exact Or.inl rfl

/-- What every answer of a computation is. -/
def Yields (Q : α → Prop) (x : Act W α) : Prop := ∀ w a v, x w = .ok a v → Q a

theorem yields_pure {Q : α → Prop} {a : α} (h : Q a) : Yields Q (pure a : Act W α) := by
  intro w b v hb
  cases hb
  exact h

theorem yields_throw {Q : α → Prop} (e : Halt) : Yields Q (throw e : Act W α) := by
  intro w b v hb
  cases hb

theorem yields_bind {Q : α → Prop} {R : β → Prop} {x : Act W α} {f : α → Act W β} (hx : Yields Q x)
    (hf : ∀ a, Q a → Yields R (f a)) : Yields R (x >>= f) := by
  intro w b v hb
  obtain ⟨a, u, ha, hb⟩ := bind_ok hb
  exact hf a (hx w a u ha) u b v hb

/-- Whatever the first part answers. -/
theorem yields_of_next {R : β → Prop} {x : Act W α} {f : α → Act W β} (hf : ∀ a, Yields R (f a)) : Yields R (x >>= f) :=
  yields_bind (fun _ _ _ _ => trivial) fun a (_ : True) => hf a

theorem keeps_get (k : Slot W S) : Keeps P k.cell.get := fun _ h => h

theorem keeps_modify (k : Slot W S) {f : S → S} (h : ∀ w, P w → P (k.set (f (k.get w)) w)) :
    Keeps P (k.cell.modify f) :=
  fun w hw => h w hw

end ClockDiscipline.Act
