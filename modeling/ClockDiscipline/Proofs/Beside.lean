/-
  ClockDiscipline.Proofs.Beside — a part of the world that the others leave alone.

  A part keeps its state in a slot of its own, and whoever else works in the world works
  on the rest of it: the others may look at the part (`look`), or not even that
  (`aside`), and change it in neither case. Whole collaborators are put aside by putting
  their computations aside. An oscillator is lent a PPS source while it calibrates. It
  finds that source as it is without the part, so that it cannot tell it is put aside.

  Proved: what looks at a part, or is put aside, leaves it as it was (`keeps_look`,
  `own_of_look`).
-/

import ClockDiscipline.Journal
import ClockDiscipline.Proofs.Kept
import ClockDiscipline.Rig

namespace ClockDiscipline

/-- A part of the world, and the rest of it. -/
structure Beside (S V : Type) where
  own : S
  others : V

namespace Beside

variable {S V α : Type}

def slot : Slot (Beside S V) S where
  get w := w.own
  set s w := { w with own := s }

/-- What works on the rest of the world and sees the part as it is. -/
def look (x : ReaderT S (Act V) α) : Act (Beside S V) α := fun w =>
  match x w.own w.others with
  | .ok a v => .ok a ⟨w.own, v⟩
  | .error e v => .error e ⟨w.own, v⟩

/-- What works on the rest of the world alone. -/
def aside (x : Act V α) : Act (Beside S V) α := look fun _ => x

/-- What a computation does to the rest of the world, with the part as it is found. -/
def without (s : S) (x : Act (Beside S V) α) : Act V α := fun v =>
  match x ⟨s, v⟩ with
  | .ok a w => .ok a w.others
  | .error e w => .error e w.others

theorem without_aside (s : S) (x : Act V α) : without s (aside x) = x := by
  funext v
  simp only [without, aside, look]
  cases x v <;> rfl

instance [Journal (Act V)] : Journal (Act (Beside S V)) where
  note e := aside (Journal.note e)

theorem own_of_look {x : ReaderT S (Act V) α} {w v : Beside S V} {a : α} (h : look x w = .ok a v) : v.own = w.own := by
  unfold look at h
  cases hx : x w.own w.others with
  | ok b u =>
    rw [hx] at h
    cases h
    rfl
  | error e u =>
    rw [hx] at h
    cases h

theorem own_of_aside {x : Act V α} {w v : Beside S V} {a : α} (h : aside x w = .ok a v) : v.own = w.own :=
  own_of_look h

theorem aside_ok_iff {x : Act V α} {w v : Beside S V} {a : α} :
    aside x w = .ok a v ↔ x w.others = .ok a v.others ∧ v.own = w.own := by
  simp only [aside, look]
  cases x w.others with
  | ok b u =>
    constructor
    · intro h
      cases h
      exact ⟨rfl, rfl⟩
    · rintro ⟨h, hv⟩
      cases h
      rw [← hv]
  | error e u => simp

theorem own_of_note [Journal (Act V)] {e : Entry} {w v : Beside S V}
    (h : (Journal.note e : Act (Beside S V) Unit) w = .ok () v) : v.own = w.own :=
  own_of_aside h

/-- Whatever holds of the part holds of it still. -/
theorem keeps_look {P : S → Prop} (x : ReaderT S (Act V) α) : Act.Keeps (fun w => P w.own) (look x) := by
  intro w hw
  unfold Act.after look
  cases x w.own w.others with
  | ok a v => exact hw
  | error e v => exact hw

end Beside

/-! ## Collaborators -/

variable {m n : Type → Type}

/-- A state that is kept elsewhere. -/
def Cell.mapped {S : Type} (f : {α : Type} → m α → n α) (c : Cell m S) : Cell n S where
  get := f c.get
  set s := f (c.set s)

/-- A source whose every call is made elsewhere. -/
def EdgeSource.mapped (f : {α : Type} → m α → n α) (p : EdgeSource m) : EdgeSource n where
  name := p.name
  wait t := f (p.wait t)
  read := f p.read
  shift ns := f (p.shift ns)
  release := f p.release

def Receiver.mapped (f : {α : Type} → m α → n α) (r : Receiver m) : Receiver n where
  poll := f r.poll
  qerr := f r.qerr

def Engine.mapped (f : {α : Type} → m α → n α) (e : Engine m) : Engine n where
  dacMin := e.dacMin
  dacMax := e.dacMax
  process i := f (e.process i)
  plan := f e.plan
  submit p r := f (e.submit p r)
  release := f e.release

/-- An oscillator put aside. It calibrates on what the source is to the rest of the world. -/
def Oscillator.aside {S V : Type} (o : Oscillator (Act V)) : Oscillator (Act (Beside S V)) where
  model := o.model
  controls := Beside.aside o.controls
  temperature := Beside.aside o.temperature
  apply out := Beside.aside (o.apply out)
  calibrate plan pps polarity := fun w =>
    Beside.aside (o.calibrate plan (pps.mapped (Beside.without w.own)) polarity) w
  bound lo hi := Beside.aside (o.bound lo hi)
  release := Beside.aside o.release

/-- A source put aside is to the rest of the world what it was. -/
theorem EdgeSource.without_aside {S V : Type} (s : S) (p : EdgeSource (Act V)) :
    (p.mapped (Beside.aside (S := S))).mapped (Beside.without s) = p := by
  simp only [EdgeSource.mapped, Beside.without_aside]

end ClockDiscipline
