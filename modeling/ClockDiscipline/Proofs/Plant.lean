/-
  ClockDiscipline.Proofs.Plant — the control loop closed around the simulated device.

  The built-in engine works on the simulated device, at its pace and in exact arithmetic.
  Oscillator and receiver may be anything. The simulation follows the fine control next to
  it; whoever moves that, no one but the waits and shifts of the loop moves the simulation
  itself, and a calibration, which is lent the device and may do anything with it.

  Proved:
  (1) What an edge does to the simulation (`wait_of_in_time`). Each phase has a sample,
      which is its next integer where that is in range (`sampleOf_eq_some`).
  (2) What the device does to the simulation (`exists_wait`, `exists_shift`). The calls
      that the loop makes of the device and the engine are answered
      (`answer_wait`, `answer_read`, `answer_shift`, `answer_process`), and which calls leave
      the simulation alone (`does_of_answer`).
  (3) How a turn goes on after an edge: its sample is dropped or acted on
      (`skips_of_edge`, `acts_of_edge`).
-/

import ClockDiscipline.Bench
import ClockDiscipline.Proofs.BenchRows
import ClockDiscipline.Proofs.PidTurn

namespace ClockDiscipline

/-! ## (1) Edges -/

namespace Bench

/-- A phase and its next integer give the same sample. -/
theorem sampleOf_roundToInt (x : Rat) : sampleOf x = sampleOf (Exact.roundToInt x : Rat) := by
  unfold sampleOf
  rw [Exact.round_intCast]
  rfl

theorem sampleOf_of_readable {x : Rat} (h : Readable (Exact.roundToInt x)) :
    sampleOf x = some (Int32.ofInt (Exact.roundToInt x)) := by
  rw [sampleOf_roundToInt]
  exact sampleOf_intCast h

/-- The sample of a phase is its next integer, put into the range of a sample. -/
theorem sampleOf_eq_some (x : Rat) :
    sampleOf x = some (Int32.ofInt (max (-2147483648) (min (Exact.roundToInt x) 2147483647))) := by
  have hc := Exact.clamp?_eq_some (Int.cast_le.mpr (by decide : (-2147483648 : Int) ≤ 2147483647)) (Exact.roundToInt x)
  rw [← Int.cast_min, ← Int.cast_max] at hc
  rw [sampleOf_roundToInt, sampleOf, Exact.round_intCast]
  exact (congrArg (Option.map Scalar.toInt32) hc).trans (congrArg some (Exact.toInt32_intCast (by omega) (by omega)))

/-- Also a phase that is out of range has a sample. -/
theorem exists_sampleOf (x : Rat) : ∃ n, sampleOf x = some n := ⟨_, sampleOf_eq_some x⟩

/-- Drift in one second at a control value. -/
def Params.drift (p : Params Rat) (fine : UInt32) : Rat :=
  (((fine.toNat : Int) : Rat) - ((p.nominalFine.toNat : Int) : Rat)) * p.nsPerStep

/-- The phase at the next edge. The first shows no drift. -/
def Sim.atEdge (s : Sim Rat) (fine : UInt32) : Rat := if s.pending.isSome then s.drifted fine else s.phase

/-- The simulation after it. -/
def Sim.arrived (s : Sim Rat) (fine : UInt32) : Sim Rat :=
  { s with phase := s.atEdge fine, elapsed := s.elapsed + 1, pending := sampleOf (s.atEdge fine) }

/-- Edges come before a wait of this length ends. -/
def Sim.InTime (s : Sim Rat) (timeout : Span) : Prop := s.params.period.toNanos ≤ timeout.toNanos

section

variable {s : Sim Rat} {fine : UInt32} {timeout : Span}

theorem wait_of_in_time (h : s.InTime timeout) : s.wait fine timeout = some (.dataReady, s.arrived fine) := by
  obtain ⟨n, hn⟩ := exists_sampleOf (s.atEdge fine)
  have hd : s.arrived fine = { s with phase := s.atEdge fine, elapsed := s.elapsed + 1, pending := some n } := by
    rw [Sim.arrived, hn]
  unfold Sim.wait
  rw [if_neg (not_lt.mpr h), hd]
  show (sampleOf (s.atEdge fine)).bind _ = _
  rw [hn]
  rfl

theorem inTime_of_params {s' : Sim Rat} (hp : s'.params = s.params) (h : s.InTime timeout) : s'.InTime timeout := by
  unfold Sim.InTime
  rw [hp]
  exact h

theorem wait_of_late (h : ¬s.InTime timeout) : s.wait fine timeout = some (.timeout, s) := by
  unfold Sim.wait
  exact if_pos (not_le.mp h)

theorem pending_arrived (s : Sim Rat) (fine : UInt32) : (s.arrived fine).pending.isSome = true := by
  obtain ⟨n, hn⟩ := exists_sampleOf (s.atEdge fine)
  simp [Sim.arrived, hn]

/-- Once an edge came, the next one shows one drift more. -/
theorem atEdge_of_pending (h : s.pending.isSome = true) (fine : UInt32) :
    s.atEdge fine = s.phase + s.params.drift fine := by
  rw [Sim.atEdge, if_pos h]
  rfl

end

end Bench

/-! ## (2) Calls -/

/-- The simulation, with the fine control that it follows, and the rest of the world. -/
abbrev Plant (V : Type) := Beside (Bench.Sim Rat) (Beside Dummy V)

namespace Plant

variable {V : Type}

def dummySlot : Slot (Plant V) Dummy where
  get w := w.others.own
  set s w := { w with others := { w.others with own := s } }

/-- What closes the loop around a plant. -/
structure Loop (V : Type) where
  /-- Let time pass until the next edge. -/
  pass : Nat → Act V Unit
  name : String
  /-- Time between edges, as the waits keep it. -/
  period : Span
  range : DacRange
  oscillator : Oscillator (Act (Beside Dummy V))
  calibrate : Calibration.Plan → EdgeSource (Act (Plant V)) → Polarity → Act (Plant V) (Option Calibration.Results)
  receiver : Receiver (Act (Beside Dummy V))

/-- The built-in parts. -/
def builtIn : Loop Rehearsal.Stage where
  pass _ := pure ()
  name := "sim"
  period := .ofSecs 1
  range := .between 0 65535
  oscillator := Dummy.oscillator 1 Beside.slot.cell
  calibrate := Dummy.calibrate dummySlot.cell 1
  receiver := (Receiver.simulated Rehearsal.Stage.warmupSlot.cell).mapped Beside.aside

/-- Engine, simulation and fine control. -/
structure Scene where
  pid : Pid Rat
  sim : Bench.Sim Rat
  dummy : Dummy

def Scene.of (w : Beside (Pid Rat) (Plant V)) : Scene := ⟨w.own, w.others.own, w.others.others.own⟩

/-- The next edge comes. -/
def Scene.arrived (a : Scene) : Scene := { a with sim := a.sim.arrived a.dummy.fine }

/-- What a call does to engine and simulation. Waits and calibrations are not followed here. -/
def Scene.Does (a : Scene) (c : Call) (b : Scene) : Prop :=
  a.pid.Does c b.pid ∧
    match c with
    | ⟨.shift ns, r⟩ => r = .ok () ∧ b.sim = a.sim.shift ns
    | ⟨.wait _, _⟩ | ⟨.calibrate _ _, _⟩ => True
    | _ => b.sim = a.sim

namespace Loop

variable [Journal (Act V)]

def pps (l : Loop V) : EdgeSource (Act (Plant V)) :=
  Bench.paced (fun n => Beside.aside (Beside.aside (l.pass n))) l.period
    (Bench.source l.name Beside.slot.cell dummySlot.cell)

def rig (l : Loop V) : Rig (Act (Beside (Pid Rat) (Plant V))) :=
  Pid.rig l.range l.pps { l.oscillator.aside with calibrate := l.calibrate } (l.receiver.mapped Beside.aside)

/-- Telling and waiting for time to pass come to an end. -/
structure Responds (l : Loop V) : Prop where
  note : ∀ e, Act.Answers (Journal.note e : Act V Unit)
  pass : ∀ n, Act.Answers (l.pass n)

variable {l : Loop V}

/-- A wait of the device takes the simulation along, and no one else. -/
theorem exists_wait (hl : l.Responds) (w : Plant V) {t : Span} {event : EdgeEvent} {s : Bench.Sim Rat}
    (h : w.own.wait w.others.own.fine t = some (event, s)) :
    ∃ v, l.pps.wait t w = .ok (.ok event) v ∧ v.own = s ∧ v.others.own = w.others.own := by
  have hpass (n : Nat) : Act.Reaches (· = w) (Beside.aside (Beside.aside (l.pass n))) ()
      (fun v => v.own = w.own ∧ v.others.own = w.others.own) := by
    intro w' hw
    obtain ⟨_, u, hu⟩ := hl.pass n w.others.others
    refine ⟨⟨w.own, w.others.own, u⟩, ?_, rfl, rfl⟩
    rw [show w' = w from hw]
    exact Beside.aside_ok_iff.mpr ⟨Beside.aside_ok_iff.mpr ⟨hu, rfl⟩, rfl⟩
  refine Act.reaches_bind (hpass _) (fun u hu => ?_) w rfl
  rw [← hu.1, ← hu.2] at h
  refine Act.reaches_bind (Act.reaches_get dummySlot u) (Act.reaches_bind (Act.reaches_get Beside.slot u) ?_) u rfl
  refine Act.reaches_bind (Act.reaches_orPanic h) (Act.reaches_bind (Act.reaches_set Beside.slot s u) ?_)
  rintro _ rfl
  exact ⟨_, rfl, rfl, hu.2⟩

theorem exists_shift (hl : l.Responds) (w : Plant V) (ns : Int32) :
    ∃ v, l.pps.shift ns w = .ok (.ok ()) v ∧ v.own = w.own.shift ns ∧ v.others.own = w.others.own := by
  have hshift (e : Entry) : ∃ v, (Beside.slot.cell.set (w.own.shift ns) >>= fun _ =>
      Journal.note e >>= fun _ => pure (.ok ()) : Act (Plant V) (Except IoError Unit)) w = .ok (.ok ()) v ∧
        v.own = w.own.shift ns ∧ v.others.own = w.others.own := by
    obtain ⟨_, u, hu⟩ := hl.note e w.others.others
    have hnote : (Journal.note e : Act (Plant V) Unit) ⟨w.own.shift ns, w.others⟩ =
        .ok () ⟨w.own.shift ns, w.others.own, u⟩ :=
      Beside.aside_ok_iff.mpr ⟨Beside.aside_ok_iff.mpr ⟨hu, rfl⟩, rfl⟩
    exact ⟨_, Act.bind_of_ok hnote _, rfl, rfl⟩
  exact hshift _

theorem scene_of_note {e : Entry} {w v : Beside (Pid Rat) (Plant V)}
    (h : (Journal.note e : Act (Beside (Pid Rat) (Plant V)) Unit) w = .ok () v) : Scene.of v = Scene.of w := by
  obtain ⟨h, h1⟩ := Beside.aside_ok_iff.mp h
  obtain ⟨h, h2⟩ := Beside.aside_ok_iff.mp h
  have h3 : v.others.others.own = w.others.others.own := Beside.own_of_aside h
  unfold Scene.of
  rw [h1, h2, h3]

theorem does_of_answer {c : Ask} {a : c.Answer} {w v : Beside (Pid Rat) (Plant V)} (h : l.rig.answer c w = .ok a v) :
    (Scene.of w).Does ⟨c, a⟩ (Scene.of v) := by
  refine ⟨Pid.does_of_answer _ _ _ _ c a w v h, ?_⟩
  cases c with
  | shift ns =>
    obtain ⟨h, -⟩ := Beside.aside_ok_iff.mp h
    obtain ⟨s, u, hs, h⟩ := Act.bind_ok h
    cases hs
    obtain ⟨_, u, hs, h⟩ := Act.bind_ok h
    cases hs
    obtain ⟨_, u, hn, h⟩ := Act.bind_ok h
    cases h
    exact ⟨rfl, Beside.own_of_note hn⟩
  | wait t => trivial
  | calibrate plan polarity => trivial
  | read =>
    have h : Beside.aside l.pps.read w = .ok a v := h
    obtain ⟨h, -⟩ := Beside.aside_ok_iff.mp h
    obtain ⟨s, u, hs, h⟩ := Act.bind_ok h
    cases hs
    injection h with _ hv
    show v.others.own = w.others.own
    rw [← hv]
  | releasePps =>
    obtain ⟨h, -⟩ := Beside.aside_ok_iff.mp h
    obtain ⟨s, u, hs, h⟩ := Act.bind_ok h
    cases hs
    exact Beside.own_of_note h
  | process i =>
    obtain ⟨e, -, rfl⟩ := process_of_engine h
    rfl
  | plan =>
    cases h
    rfl
  | submit p r =>
    obtain ⟨adoption, e, -, x, hx⟩ := submit_of_engine h
    obtain ⟨h, -⟩ := Beside.aside_ok_iff.mp hx
    exact Beside.own_of_aside h
  | releaseEngine =>
    cases h
    rfl
  | controls | temperature | apply | bound | releaseOscillator | poll | qerr =>
    obtain ⟨h, -⟩ := Beside.aside_ok_iff.mp h
    exact Beside.own_of_aside h

section

variable (hl : l.Responds) (w : Beside (Pid Rat) (Plant V))

include hl

theorem answer_note (e : Entry) :
    ∃ v, (Journal.note e : Act (Beside (Pid Rat) (Plant V)) Unit) w = .ok () v ∧ Scene.of v = Scene.of w := by
  obtain ⟨_, u, hu⟩ := hl.note e w.others.others.others
  refine ⟨⟨w.own, w.others.own, w.others.others.own, u⟩, ?_, rfl⟩
  exact Beside.aside_ok_iff.mpr ⟨Beside.aside_ok_iff.mpr ⟨Beside.aside_ok_iff.mpr ⟨hu, rfl⟩, rfl⟩, rfl⟩

theorem answer_wait {t : Span} {event : EdgeEvent} {s : Bench.Sim Rat}
    (h : w.others.own.wait w.others.others.own.fine t = some (event, s)) :
    ∃ v, l.rig.answer (.wait t) w = .ok (.ok event) v ∧ Scene.of v = { Scene.of w with sim := s } := by
  obtain ⟨v, hv, h1, h2⟩ := exists_wait hl w.others h
  refine ⟨⟨w.own, v⟩, Beside.aside_ok_iff.mpr ⟨hv, rfl⟩, ?_⟩
  unfold Scene.of
  rw [h1, h2]

theorem answer_shift (ns : Int32) : ∃ v, l.rig.answer (.shift ns) w = .ok (.ok ()) v := by
  obtain ⟨v, hv, -⟩ := exists_shift hl w.others ns
  exact ⟨⟨w.own, v⟩, Beside.aside_ok_iff.mpr ⟨hv, rfl⟩⟩

end

theorem answer_read {w : Beside (Pid Rat) (Plant V)} {n : Int32} (h : w.others.own.pending = some n) :
    l.rig.answer .read w = .ok (.ok n) w := by
  show EStateM.Result.ok w.others.own.read w = _
  unfold Bench.Sim.read
  rw [h]

theorem answer_process {w : Beside (Pid Rat) (Plant V)} {i : ControlInput} {a : Except String ControlOutput} {e : Pid Rat}
    (h : w.own.process i = some (a, e)) : l.rig.answer (.process i) w = .ok a { w with own := e } := by
  show (orPanic (w.own.process i) >>= _ : Act (Beside (Pid Rat) (Plant V)) _) w = _
  rw [h]
  rfl

end Loop

end Plant

/-! ## (3) Turns -/

namespace Turn

section

variable {W : Type} [Journal (Act W)] (rig : Rig (Act W)) {settings : Settings} {s : LoopState} {w w₁ w₂ w₃ : W}
  {n : Int32} (hj : (Journal.debug .loop "Waiting for PPS event" : Act W Unit) w = .ok () w₁)

include hj

theorem calls_of_timeout (hw : rig.answer (.wait settings.ppsTimeout) w₁ = .ok (.ok .timeout) w₂) :
    callsMade rig settings s w = [⟨.wait settings.ppsTimeout, .ok .timeout⟩] := by
  rw [callsMade_eq]
  exact (Talk.calls_note_ok rig hj).trans (Talk.calls_ask_ok rig hw)

variable (hw : rig.answer (.wait settings.ppsTimeout) w₁ = .ok (.ok .dataReady) w₂)
  (hr : rig.answer .read w₂ = .ok (.ok n) w₃)

include hw hr

theorem acts_of_sample (hs : s.ignoreNext = false) :
    (Turn.take rig settings s).run w = (act rig settings s n).run w₃ ∧
      callsMade rig settings s w = ⟨.wait settings.ppsTimeout, .ok .dataReady⟩ :: ⟨.read, .ok n⟩ ::
        (act rig.script settings s n).run.calls rig w₃ := by
  have ht : (Turn.take rig.script settings s).run.perform rig = (Turn.take rig settings s).run :=
    performs_take rig settings s
  have ha : (act rig.script settings s n).run.perform rig = (act rig settings s n).run := performs_act rig settings s n
  obtain ⟨turns, ignore, released⟩ := s
  cases hs
  rw [callsMade_eq, ← ht, ← ha]
  constructor
  · exact (Talk.perform_note_ok rig hj).trans ((Talk.perform_ask_ok rig hw).trans (Talk.perform_ask_ok rig hr))
  · exact (Talk.calls_note_ok rig hj).trans
      ((Talk.calls_ask_ok rig hw).trans (congrArg _ (Talk.calls_ask_ok rig hr)))

theorem skips_of_sample (hs : s.ignoreNext = true) {v : W}
    (hi : (Journal.info .loop "Ignoring 1 input due to phase jump" : Act W Unit) w₃ = .ok () v) :
    (Turn.take rig settings s).run w = .ok (.ok (.skipped, { s with ignoreNext := false })) v ∧
      callsMade rig settings s w = [⟨.wait settings.ppsTimeout, .ok .dataReady⟩, ⟨.read, .ok n⟩] := by
  have ht : (Turn.take rig.script settings s).run.perform rig = (Turn.take rig settings s).run :=
    performs_take rig settings s
  obtain ⟨turns, ignore, released⟩ := s
  cases hs
  rw [callsMade_eq, ← ht]
  constructor
  · exact (Talk.perform_note_ok rig hj).trans ((Talk.perform_ask_ok rig hw).trans ((Talk.perform_ask_ok rig hr).trans
      (Talk.perform_note_ok rig hi)))
  · exact (Talk.calls_note_ok rig hj).trans ((Talk.calls_ask_ok rig hw).trans (congrArg _
      ((Talk.calls_ask_ok rig hr).trans (congrArg _ (Talk.calls_note_ok rig hi)))))

end

end Turn

namespace Plant.Loop

variable {V : Type} [Journal (Act V)] {l : Loop V} (hl : l.Responds) {settings : Settings} {s : LoopState}
  {w : Beside (Pid Rat) (Plant V)}

include hl

/-- Where edges come too late a turn ends at its wait. -/
theorem calls_of_late (h : ¬w.others.own.InTime settings.ppsTimeout) :
    Turn.callsMade l.rig settings s w = [⟨.wait settings.ppsTimeout, .ok .timeout⟩] := by
  obtain ⟨w₁, hj, h1⟩ := answer_note hl w ⟨.debug, .loop, "Waiting for PPS event"⟩
  have hs : w₁.others.own = w.others.own := congrArg Scene.sim h1
  rw [← hs] at h
  obtain ⟨w₂, hw, -⟩ := answer_wait hl w₁ (Bench.wait_of_late h)
  exact Turn.calls_of_timeout l.rig hj hw

variable (h : w.others.own.InTime settings.ppsTimeout)

include h

/-- The edge that a turn begins with. -/
theorem exists_edge : ∃ n w₁ w₂, Bench.sampleOf (w.others.own.atEdge w.others.others.own.fine) = some n ∧
    (Journal.debug .loop "Waiting for PPS event" : Act (Beside (Pid Rat) (Plant V)) Unit) w = .ok () w₁ ∧
    l.rig.answer (.wait settings.ppsTimeout) w₁ = .ok (.ok .dataReady) w₂ ∧ l.rig.answer .read w₂ = .ok (.ok n) w₂ ∧
    Scene.of w₂ = (Scene.of w).arrived := by
  obtain ⟨w₁, hj, h1⟩ := answer_note hl w ⟨.debug, .loop, "Waiting for PPS event"⟩
  have hs : w₁.others.own = w.others.own := congrArg Scene.sim h1
  have hd : w₁.others.others.own = w.others.others.own := congrArg Scene.dummy h1
  rw [← hs] at h
  obtain ⟨w₂, hw, h2⟩ := answer_wait hl w₁ (Bench.wait_of_in_time h)
  rw [h1, hs, hd] at h2
  obtain ⟨n, hn⟩ := Bench.exists_sampleOf (w.others.own.atEdge w.others.others.own.fine)
  have hp : w₂.others.own.pending = some n := (congrArg (·.sim.pending) h2).trans hn
  exact ⟨n, w₁, w₂, hn, hj, hw, answer_read hp, h2⟩

theorem acts_of_edge (hs : s.ignoreNext = false) : ∃ n v,
    Bench.sampleOf (w.others.own.atEdge w.others.others.own.fine) = some n ∧ Scene.of v = (Scene.of w).arrived ∧
      (Turn.take l.rig settings s).run w = (Turn.act l.rig settings s n).run v ∧
      Turn.callsMade l.rig settings s w = ⟨.wait settings.ppsTimeout, .ok .dataReady⟩ :: ⟨.read, .ok n⟩ ::
        (Turn.act l.rig.script settings s n).run.calls l.rig v := by
  obtain ⟨n, w₁, v, hn, hj, hw, hr, hv⟩ := exists_edge hl h
  exact ⟨n, v, hn, hv, Turn.acts_of_sample l.rig hj hw hr hs⟩

theorem skips_of_edge (hs : s.ignoreNext = true) : ∃ n v, Scene.of v = (Scene.of w).arrived ∧
    (Turn.take l.rig settings s).run w = .ok (.ok (.skipped, { s with ignoreNext := false })) v ∧
      Turn.callsMade l.rig settings s w = [⟨.wait settings.ppsTimeout, .ok .dataReady⟩, ⟨.read, .ok n⟩] := by
  obtain ⟨n, w₁, w₂, hn, hj, hw, hr, h2⟩ := exists_edge hl h
  obtain ⟨v, hi, hv⟩ := answer_note hl w₂ ⟨.info, .loop, "Ignoring 1 input due to phase jump"⟩
  exact ⟨n, v, hv.trans h2, Turn.skips_of_sample l.rig hj hw hr hs hi⟩

end Plant.Loop

end ClockDiscipline
