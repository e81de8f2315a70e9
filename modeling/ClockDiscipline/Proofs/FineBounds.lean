/-
  ClockDiscipline.Proofs.FineBounds — the fine control between the bounds of the engine.

  The oscillator is the one that keeps its values in memory. PPS source, receiver, engine
  and journal may be anything, and see its state at every call that reaches them: the
  waits and reads of a calibration included, as well as every read of the controls. The
  bounds may be the wrong way round, in which case the lower one counts.

  Invariant (`Held`): the range of the oscillator is that of the engine, and its fine
  control lies in it, now and at every moment it was seen. Only binding the oscillator
  makes it true, and whatever moves the fine control goes through the range.

  Proved: (1) each write of the oscillator keeps the invariant; (2) so does a calibration,
  wherever it fails (`keeps_calibrate`); (3) so does a row of turns, from the creation of
  the controller on (`fine_control_stays_between_the_bounds`).
-/

import ClockDiscipline.Loop.Run
import ClockDiscipline.Oscillator.Dummy
import ClockDiscipline.Proofs.CalibrationKept
import ClockDiscipline.Proofs.TurnRow

namespace ClockDiscipline

/-- A world with the oscillator in it. -/
structure Watched (V : Type) where
  others : V
  dummy : Dummy
  /-- The oscillator at each moment that somebody could look at it. -/
  seen : List Dummy

/-- A value put between two ends. There is none where they are the wrong way round. -/
def clamp? (lo hi v : UInt32) : Option UInt32 :=
  if lo ≤ hi then some (if v < lo then lo else if hi < v then hi else v) else none

theorem clamp?_eq (r : DacRange) (v : UInt32) : clamp? r.min r.max v = some (r.clamp v) := if_pos r.ordered

namespace Watched

variable {V α : Type}

def slot : Slot (Watched V) Dummy where
  get w := w.dummy
  set d w := { w with dummy := d }

/-- What another part does, which sees the oscillator as it is. -/
def look (x : ReaderT Dummy (Act V) α) : Act (Watched V) α := fun w =>
  match x w.dummy w.others with
  | .ok a v => .ok a ⟨v, w.dummy, w.seen ++ [w.dummy]⟩
  | .error e v => .error e ⟨v, w.dummy, w.seen ++ [w.dummy]⟩

instance [Journal (Act V)] : Journal (Act (Watched V)) where
  note e := look fun _ => Journal.note e

variable [Journal (Act V)]

/-- The oscillator, whose reads of the controls are seen as well. -/
def oscillator (patience : Nat) : Oscillator (Act (Watched V)) :=
  { Dummy.oscillator patience slot.cell with
    controls := do
      look fun _ => pure ()
      (Dummy.oscillator patience slot.cell).controls }

def source (pps : EdgeSource (ReaderT Dummy (Act V))) : EdgeSource (Act (Watched V)) where
  name := pps.name
  wait t := look (pps.wait t)
  read := look pps.read
  shift ns := look (pps.shift ns)
  release := look pps.release

def rig (patience : Nat) (pps : EdgeSource (ReaderT Dummy (Act V))) (receiver : Receiver (ReaderT Dummy (Act V)))
    (engine : Engine (ReaderT Dummy (Act V))) : Rig (Act (Watched V)) where
  pps := source pps
  oscillator := oscillator patience
  receiver := { poll := look receiver.poll, qerr := look receiver.qerr }
  engine := {
    dacMin := engine.dacMin
    dacMax := engine.dacMax
    process i := look (engine.process i)
    plan := look engine.plan
    submit p r := look (engine.submit p r)
    release := look engine.release }

end Watched

/-! ## (1) Writes -/

/-- The fine control lies between these bounds, and every write puts it there. -/
structure Dummy.Bounded (lo hi : UInt32) (d : Dummy) : Prop where
  min_eq : d.range.min = lo
  max_eq : d.range.max = max lo hi
  le_fine : lo ≤ d.fine
  fine_le : d.fine ≤ max lo hi
  /-- A write finds its two ends the right way round. -/
  clamp_eq : ∀ v, clamp? lo (max lo hi) v = some (d.setFine v).fine

theorem bounded_setFine {lo hi : UInt32} {d : Dummy} (h1 : d.range.min = lo) (h2 : d.range.max = max lo hi)
    (v : UInt32) : (d.setFine v).Bounded lo hi where
  min_eq := h1
  max_eq := h2
  le_fine := by rw [← h1]; exact d.range.min_le_clamp v
  fine_le := by rw [← h2]; exact d.range.clamp_le_max v
  clamp_eq x := by rw [← h2, ← h1]; exact clamp?_eq d.range x

theorem bounded_bound (d : Dummy) (lo hi : UInt32) : (d.bound lo hi).Bounded lo hi :=
  bounded_setFine (DacRange.min_between lo hi) (DacRange.max_between lo hi) d.fine

theorem bounded_apply {lo hi : UInt32} {d : Dummy} (h : d.Bounded lo hi) (o : ControlOutput) :
    (d.apply o).Bounded lo hi := by
  unfold Dummy.apply
  cases o.action with
  | adjustFine =>
    obtain ⟨h1, h2, h3, h4, h5⟩ := bounded_setFine h.min_eq h.max_eq o.setpoint
    exact ⟨h1, h2, h3, h4, h5⟩
  | adjustCoarse => exact ⟨h.min_eq, h.max_eq, h.le_fine, h.fine_le, h.clamp_eq⟩
  | _ => exact h

namespace Watched

/-- The oscillator is bounded now, and was whenever it was seen. -/
structure Held {V : Type} (lo hi : UInt32) (w : Watched V) : Prop where
  now : w.dummy.Bounded lo hi
  seen : ∀ d ∈ w.seen, d.Bounded lo hi

section

variable {V α : Type} {lo hi : UInt32}

theorem held_look {w : Watched V} (h : Held lo hi w) (v : V) : Held lo hi ⟨v, w.dummy, w.seen ++ [w.dummy]⟩ where
  now := h.now
  seen d hd := by
    rcases List.mem_append.mp hd with hd | hd
    · exact h.seen d hd
    · rw [List.mem_singleton.mp hd]
      exact h.now

theorem keeps_look (x : ReaderT Dummy (Act V) α) : Act.Keeps (Held lo hi) (look x) := by
  intro w hw
  unfold Act.after look
  cases x w.dummy w.others with
  | ok a v => exact held_look hw v
  | error e v => exact held_look hw v

theorem keeps_setFine (v : UInt32) : Act.Keeps (Held lo hi) ((slot (V := V)).cell.modify (·.setFine v)) :=
  Act.keeps_modify slot fun _ hw => ⟨bounded_setFine hw.now.min_eq hw.now.max_eq v, hw.seen⟩

/-! ## (2) Calibrations -/

variable (pps : EdgeSource (ReaderT Dummy (Act V))) [Journal (Act V)]

theorem keeps_note (e : Entry) : Act.Keeps (Held lo hi) (Journal.note e : Act (Watched V) Unit) := keeps_look _

theorem keeps_calibrate (patience : Nat) (plan : Calibration.Plan) (polarity : Polarity) :
    Act.Keeps (Held lo hi) (Dummy.calibrate slot.cell patience plan (source pps) polarity) :=
  Dummy.keeps_calibrate (keeps_look _) (keeps_look _) keeps_note keeps_setFine patience plan polarity

/-! ## (3) Turns -/

theorem keeps_answer (patience : Nat) (receiver : Receiver (ReaderT Dummy (Act V)))
    (engine : Engine (ReaderT Dummy (Act V))) (c : Ask) (hc : c.InTurn) :
    Act.Keeps (Held lo hi) ((rig patience pps receiver engine).answer c) := by
  cases c with
  | wait | read | shift | poll | qerr | process | plan | submit => exact keeps_look _
  | controls =>
    refine Act.keeps_bind (keeps_look _) fun _ => ?_
    exact Act.keeps_bind (Act.keeps_get slot) fun _ => Act.keeps_pure _
  | temperature => exact Act.keeps_pure _
  | apply o =>
    refine Act.keeps_bind (Act.keeps_modify slot ?_) fun _ => Act.keeps_pure _
    exact fun w hw => ⟨bounded_apply hw.now o, hw.seen⟩
  | calibrate plan polarity => exact keeps_calibrate pps patience plan polarity
  | bound | releasePps | releaseOscillator | releaseEngine => exact hc.elim

/-- From its creation on, through every row of turns and however they end: the fine control of the oscillator
    lies between the bounds of the engine whenever somebody could look at it. -/
theorem fine_control_stays_between_the_bounds (patience : Nat) (receiver : Receiver (ReaderT Dummy (Act V)))
    (engine : Engine (ReaderT Dummy (Act V))) (settings : Settings) (stop : Stop (Act (Watched V)))
    (rest : Nat → Act (Watched V) Unit) (n : Nat) (d : Dummy) (v : V) :
    Held engine.dacMin engine.dacMax <| Act.after (do
      let (c, s) ← Controller.create settings (rig patience pps receiver engine) stop rest
      Turn.series c.rig c.settings n s) ⟨v, d, []⟩ := by
  have hb : Held engine.dacMin engine.dacMax (⟨v, d.bound engine.dacMin engine.dacMax, []⟩ : Watched V) := by
    refine ⟨bounded_bound d _ _, fun d hd => ?_⟩
    cases hd
  exact Turn.keeps_series keeps_note (keeps_answer pps patience receiver engine) settings n _ _ hb

end

end Watched

end ClockDiscipline
