/-
  ClockDiscipline.Proofs.CalibrationKept — what a calibration leaves as it was.

  A calibration writes the fine control once for each control value of the plan and once at
  its end, with the value that it found at first. Every write goes through the range, the
  last one included, so that it restores a value of the range only. The oscillator never has
  another: it starts bound to no range, being bound moves the value into the range, and
  every later write does.

  PPS source, journal and the rest of the world may be anything, and the source may look at
  the oscillator whenever it is asked.

  Proved: (1) what the calls of a calibration keep, it keeps (`keeps_calibrate`); (2) a
  calibration that answers leaves the value it found, put into the range
  (`own_of_calibrate`); (3) which is the value itself after any orders to a new oscillator
  (`a_calibration_restores_what_it_found`).
-/

import ClockDiscipline.Oscillator.Dummy
import ClockDiscipline.Proofs.Beside
import ClockDiscipline.Rehearsal.Stage

namespace ClockDiscipline

/-! ## (1) Calls -/

namespace Dummy

variable {W : Type} {P : W → Prop} {pps : EdgeSource (Act W)}
  (hwait : Act.Keeps P (pps.wait edgeTimeout)) (hread : Act.Keeps P pps.read)

include hwait hread

theorem keeps_nextSample : Act.Keeps P (nextSample pps) := by
  refine Act.keeps_bind hwait fun event => ?_
  rcases event with e | (_ | _ | _)
  · exact Act.keeps_pure _
  · refine Act.keeps_bind hread fun sample => ?_
    cases sample with
    | ok n => exact Act.keeps_pure _
    | error e =>
      by_cases h : e.isTransient = true
      · simp only [h, if_true]
        exact Act.keeps_pure _
      · simp only [h]
        exact Act.keeps_pure _
  · exact Act.keeps_pure _
  · exact Act.keeps_pure _

theorem keeps_awaitSample (patience : Nat) : Act.Keeps P (awaitSample pps patience) := by
  induction patience with
  | zero => exact Act.keeps_throw _
  | succ patience ih =>
    refine Act.keeps_bind (keeps_nextSample hwait hread) fun sample => ?_
    rcases sample with e | (_ | n)
    · exact Act.keeps_pure _
    · exact ih
    · exact Act.keeps_pure _

theorem keeps_takeRow (polarity : Polarity) (patience wanted : Nat) (row : List Int64) :
    Act.Keeps P (takeRow pps polarity patience wanted row) := by
  induction wanted generalizing row with
  | zero => exact Act.keeps_pure _
  | succ wanted ih =>
    refine Act.keeps_bind (keeps_awaitSample hwait hread patience) fun sample => ?_
    cases sample with
    | error e => exact Act.keeps_pure _
    | ok n => exact ih _

variable [Journal (Act W)] {k : Slot W Dummy} (hnote : ∀ e, Act.Keeps P (Journal.note e : Act W Unit))
  (hset : ∀ f, Act.Keeps P (k.cell.modify (·.setFine f)))

include hnote hset

theorem keeps_takeRows (polarity : Polarity) (patience : Nat) (samples : UInt32) (points : List UInt32)
    (rows : List (List Int64)) : Act.Keeps P (takeRows k.cell pps polarity patience samples points rows) := by
  induction points generalizing rows with
  | nil => exact Act.keeps_pure _
  | cons point points ih =>
    refine Act.keeps_bind (hset point) fun _ => ?_
    refine Act.keeps_bind (hnote _) fun _ => ?_
    refine Act.keeps_bind (keeps_takeRow hwait hread polarity patience samples.toNat []) fun row => ?_
    cases row with
    | error e => exact Act.keeps_pure _
    | ok row => exact ih _

theorem keeps_calibrate (patience : Nat) (plan : Calibration.Plan) (polarity : Polarity) :
    Act.Keeps P (calibrate k.cell patience plan pps polarity) := by
  refine Act.keeps_bind (Act.keeps_get k) fun d => ?_
  refine Act.keeps_bind (hnote _) fun _ => ?_
  refine Act.keeps_bind (keeps_takeRows hwait hread hnote hset polarity patience plan.samples plan.points []) fun r => ?_
  refine Act.keeps_bind (hset d.fine) fun _ => ?_
  cases r with
  | ok results => exact Act.keeps_pure _
  | error e => exact Act.keeps_bind (hnote _) fun _ => Act.keeps_pure _

end Dummy

/-! ## (2) A calibration -/

section

variable {V : Type} [Journal (Act V)] {pps : EdgeSource (ReaderT Dummy (Act V))} {patience : Nat}
  {plan : Calibration.Plan} {polarity : Polarity} {w w' : Beside Dummy V}

/-- The oscillator with another value of the fine control, if any. -/
def Dummy.Moved (d d' : Dummy) : Prop := ∃ f, d' = { d with fine := f }

theorem moved_of_takeRows {points : List UInt32} {rows : List (List Int64)} {r : Except IoError Calibration.Results}
    (h : Dummy.takeRows Beside.slot.cell (pps.mapped Beside.look) polarity patience plan.samples points rows w =
      .ok r w') : w.own.Moved w'.own := by
  have hset (f : UInt32) : Act.Keeps (fun v : Beside Dummy V => w.own.Moved v.own)
      (Beside.slot.cell.modify (·.setFine f)) := by
    intro v hv
    obtain ⟨g, hg⟩ := hv
    refine ⟨v.own.range.clamp f, ?_⟩
    show { v.own with fine := v.own.range.clamp f } = _
    rw [hg]
  have hk : Act.Keeps (fun v : Beside Dummy V => w.own.Moved v.own)
      (Dummy.takeRows Beside.slot.cell (pps.mapped Beside.look) polarity patience plan.samples points rows) :=
    Dummy.keeps_takeRows (Beside.keeps_look _) (Beside.keeps_look _) (fun e => Beside.keeps_look fun _ => Journal.note e) hset
      polarity patience plan.samples points rows
  have hk := hk w ⟨w.own.fine, rfl⟩
  rwa [Act.after_of_ok h] at hk

theorem own_of_calibrate {a : Option Calibration.Results}
    (h : Dummy.calibrate Beside.slot.cell patience plan (pps.mapped Beside.look) polarity w = .ok a w') :
    w'.own = w.own.setFine w.own.fine := by
  obtain ⟨d, u, hd, h⟩ := Act.bind_ok h
  cases hd
  obtain ⟨_, u₁, h1, h⟩ := Act.bind_ok h
  obtain ⟨r, u₂, h2, h⟩ := Act.bind_ok h
  obtain ⟨_, u₃, h3, h⟩ := Act.bind_ok h
  have h1 : u₁.own = w.own := Beside.own_of_note h1
  obtain ⟨f, h2⟩ := moved_of_takeRows h2
  -- Telling about a failure comes after the last write, and does not touch the oscillator.
  have h4 : w'.own = u₃.own := by
    cases r with
    | ok r =>
      cases h
      rfl
    | error e =>
      obtain ⟨_, u₄, h4, h⟩ := Act.bind_ok h
      cases h
      exact Beside.own_of_note h4
  have h3 : u₃.own = u₂.own.setFine w.own.fine := by
    cases h3
    rfl
  rw [h4, h3, h2, h1]
  rfl

end

/-! ## (3) Orders -/

namespace Dummy

/-- The fine control is where the range would put it. -/
def Settled (d : Dummy) : Prop := d.range.clamp d.fine = d.fine

theorem setFine_of_settled {d : Dummy} (h : d.Settled) : d.setFine d.fine = d := by
  show { d with fine := d.range.clamp d.fine } = d
  rw [h]

theorem settled_setFine (d : Dummy) (f : UInt32) : (d.setFine f).Settled :=
  d.range.clamp_of_mem (d.range.min_le_clamp f) (d.range.clamp_le_max f)

/-- A new oscillator takes every value. -/
theorem settled_create (fine coarse : UInt32) : (create fine coarse).Settled := by
  have h := fine.toNat_lt
  refine DacRange.clamp_of_mem _ (UInt32.le_iff_toNat_le.mpr (Nat.zero_le _)) (UInt32.le_iff_toNat_le.mpr ?_)
  show fine.toNat ≤ 4294967295
  omega

theorem settled_bound (d : Dummy) (lo hi : UInt32) : (d.bound lo hi).Settled := settled_setFine _ _

theorem settled_apply {d : Dummy} (h : d.Settled) (o : ControlOutput) : (d.apply o).Settled := by
  unfold apply
  cases o.action with
  | adjustFine => exact settled_setFine d o.setpoint
  | adjustCoarse => exact h
  | _ => exact h

end Dummy

/-- What an oscillator can be ordered to do with its controls. -/
inductive Order (V : Type) where
  | bound (lo hi : UInt32)
  | apply (o : ControlOutput)
  | calibrate (plan : Calibration.Plan) (pps : EdgeSource (ReaderT Dummy (Act V))) (polarity : Polarity)

namespace Order

variable {V : Type} [Journal (Act V)]

def obey (patience : Nat) (order : Order V) : Act (Beside Dummy V) Unit :=
  let oscillator := Dummy.oscillator patience Beside.slot.cell
  match order with
  | .bound lo hi => oscillator.bound lo hi
  | .apply o => do let _ ← oscillator.apply o
  | .calibrate plan pps polarity => do let _ ← oscillator.calibrate plan (pps.mapped Beside.look) polarity

variable {patience : Nat} {w w' : Beside Dummy V}

theorem settled_of_obey {order : Order V} (h : order.obey patience w = .ok () w') (hw : w.own.Settled) :
    w'.own.Settled := by
  cases order with
  | bound lo hi =>
    cases h
    exact Dummy.settled_bound w.own lo hi
  | apply o =>
    cases h
    exact Dummy.settled_apply hw o
  | calibrate plan pps polarity =>
    obtain ⟨a, u, hc, h⟩ := Act.bind_ok h
    cases h
    rw [own_of_calibrate hc]
    exact Dummy.settled_setFine _ _

theorem settled_of_orders {orders : List (Order V)} (h : orders.forM (obey patience) w = .ok () w')
    (hw : w.own.Settled) : w'.own.Settled := by
  induction orders generalizing w with
  | nil =>
    cases h
    exact hw
  | cons order orders ih =>
    obtain ⟨_, u, h1, h2⟩ := Act.bind_ok h
    exact ih h2 (settled_of_obey h1 hw)

end Order

/-- Whatever a new oscillator was ordered before, a calibration that answers leaves it as it found it: fine control,
    coarse control, lock and range, with results and without. -/
theorem a_calibration_restores_what_it_found {V : Type} [Journal (Act V)] {patience : Nat} {fine coarse : UInt32}
    {orders : List (Order V)} {v : V} {w w' : Beside Dummy V} {plan : Calibration.Plan}
    {pps : EdgeSource (ReaderT Dummy (Act V))} {polarity : Polarity} {a : Option Calibration.Results}
    (h : orders.forM (Order.obey patience) ⟨.create fine coarse, v⟩ = .ok () w)
    (hc : (Dummy.oscillator patience Beside.slot.cell).calibrate plan (pps.mapped Beside.look) polarity w = .ok a w') :
    w'.own = w.own := by
  have hs : w.own.Settled := Order.settled_of_orders h (Dummy.settled_create fine coarse)
  rw [own_of_calibrate hc, Dummy.setFine_of_settled hs]

/-- Bounds, an adjustment beyond them, a calibration with results, and bounds that move the fine control. -/
def stagedOrders : List (Order Rehearsal.Stage) :=
  let pps := Rehearsal.Script.source "pps" Rehearsal.Stage.scriptSlot.cell fun _ => pure ()
  [.bound 100 1000, .apply ⟨.adjustFine, 5000, 0⟩, .calibrate ⟨[7, 200], 1⟩ (pps.mapped fun x _ => x) .normal, .bound 0 500]

/-- A calibration that runs out of edges at its second control value. -/
theorem a_cut_calibration_restores_the_controls :
    let pps := Rehearsal.Script.source "pps" Rehearsal.Stage.scriptSlot.cell fun _ => pure ()
    let stage : Rehearsal.Stage := { Rehearsal.Stage.empty with script := ⟨[.sample 1, .sample 2, .sample 3], none, []⟩ }
    ∃ w w', stagedOrders.forM (Order.obey 1) ⟨Dummy.create 7 3, stage⟩ = .ok () w ∧
      (Dummy.oscillator 1 Beside.slot.cell).calibrate ⟨[50, 900], 1⟩ ((pps.mapped fun x _ => x).mapped Beside.look) .normal w =
        .ok none w' ∧ w'.own = w.own ∧ w.own = ⟨500, 3, true, .between 0 500⟩ := by
  intro pps stage
  have hk : (match stagedOrders.forM (Order.obey 1) ⟨Dummy.create 7 3, stage⟩ with
      | .ok () w =>
        match (Dummy.oscillator 1 Beside.slot.cell).calibrate ⟨[50, 900], 1⟩ ((pps.mapped fun x _ => x).mapped Beside.look)
          .normal w with
        | .ok a _ => decide (a = none ∧ w.own = ⟨500, 3, true, .between 0 500⟩)
        | .error _ _ => false
      | .error _ _ => false) = true := by decide +kernel
  cases h : stagedOrders.forM (Order.obey 1) ⟨Dummy.create 7 3, stage⟩ with
  | error e w =>
    rw [h] at hk
    cases hk
  | ok u w =>
    rw [h] at hk
    cases hc : (Dummy.oscillator 1 Beside.slot.cell).calibrate ⟨[50, 900], 1⟩
      ((pps.mapped fun x _ => x).mapped Beside.look) .normal w with
    | error e w' =>
      simp only [hc] at hk
      cases hk
    | ok a w' =>
      simp only [hc] at hk
      obtain ⟨rfl, hw⟩ := of_decide_eq_true hk
      exact ⟨w, w', rfl, hc, a_calibration_restores_what_it_found h hc, hw⟩

end ClockDiscipline
