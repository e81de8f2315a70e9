/-
  ClockDiscipline.Proofs.PidAnswers — what the built-in engine answers and becomes.

  A sample is met in one of three ways. Without a valid fix the engine holds. With one it
  asks for a calibration while that is pending, and else jumps or adjusts, if it does not
  refuse the sample. Only submitted results take the pending calibration back. Each step is
  taken apart here once; whatever is said later about an answer or a next state goes by the
  cases that there are.

  Proved: (1) what deciding about a sample comes to (`process_of_untrusted`,
  `process_of_pending`, `process_of_total`), and all that it can do (`decided_of_process`),
  of which one is an adjustment (`steered_of_process`); (2) all that taking results can do
  to a state (`submitted_of_submit`), which settles what was pending (`pending_of_submit`);
  (3) that as a collaborator it keeps in its cell what it becomes (`process_of_engine`,
  `submit_of_engine`).
-/

import ClockDiscipline.Proofs.Drifts

namespace ClockDiscipline

/-! ## (1) Samples -/

section

variable {R : Type} [Scalar R] {e : Pid R} {i : ControlInput}

theorem process_of_untrusted (e : Pid R) (hv : i.valid = false) : e.process i = some (.ok (.hold i.fine), e) := by
  simp [Pid.process, hv]

theorem process_of_pending (hp : e.pending = true) (hv : i.valid = true) :
    e.process i = some (.ok ⟨.calibrate, i.fine, 0⟩, e) := by
  simp [Pid.process, hv, hp]

end

namespace Pid

section

variable {R : Type} [Scalar R] {e e' : Pid R} {i : ControlInput} {total : Int64}

/-- What error and integral together ask for, as a drift. -/
def demand (e : Pid R) : R := e.tuning.kp * Scalar.ofInt e.window.median + e.tuning.ki * e.integral

/-- The control value that brings the demand about, wherever it lies. -/
def target (e : Pid R) (center : UInt32) : R :=
  Scalar.round (Scalar.ofInt (center.toNat : Int) - e.demand / e.gain)

/-- An adjustment brings error and integral up to date and puts the target of these into the range. -/
structure Steered (e : Pid R) (phase : Int64) (fine : UInt32) (o : ControlOutput) (e' : Pid R) : Prop where
  integral : Scalar.clamp? (-e.tuning.maxIntegral) e.tuning.maxIntegral
    (e.integral + Scalar.ofInt (e.window.push phase.toInt).median) = some e'.integral
  state : e' = { e with
    center := some (e.center.getD fine), integral := e'.integral, window := e.window.push phase.toInt }
  output : ∃ setpoint, o = ⟨.adjustFine, Scalar.toUInt32 setpoint, 0⟩ ∧
    Scalar.clamp? (Scalar.ofInt (e.tuning.range.min.toNat : Int)) (Scalar.ofInt (e.tuning.range.max.toNat : Int))
      (e'.target (e.center.getD fine)) = some setpoint

theorem steered_of_steer {phase : Int64} {fine : UInt32} {o : ControlOutput}
    (h : e.steer phase fine = some (o, e')) : Steered e phase fine o e' := by
  simp only [steer, Option.bind_eq_bind, Option.bind_eq_some_iff] at h
  obtain ⟨integral, hi, setpoint, hs, h⟩ := h
  cases h
  exact ⟨hi, rfl, setpoint, rfl, hs⟩

theorem action_of_steered {phase : Int64} {fine : UInt32} {o : ControlOutput} (h : Steered e phase fine o e') :
    o.action = .adjustFine := by
  obtain ⟨setpoint, rfl, -⟩ := h.output
  rfl

/-- Too large an error to be steered away. -/
def Exceeds (e : Pid R) (total : Int64) : Prop := e.tuning.jumpThreshold.toInt < total.toInt.natAbs

instance : Decidable (e.Exceeds total) := inferInstanceAs (Decidable (_ < _))

/-- A trusted sample with no calibration due is jumped over or steered away. -/
theorem process_of_total (hv : i.valid = true) (hp : e.pending = false) (ht : i.phase.asNs? = some total)
    (hs : total.toInt.natAbs < 9223372036854775808) :
    e.process i =
      if e.Exceeds total then
        some (match int32? total.toInt with
          | none => (.error (outOfJumpRange total), e)
          | some shift => (.ok ⟨.phaseJump, i.fine, shift⟩, { e with window := .zero }))
      else (e.steer total i.fine).map fun q => (.ok q.1, q.2) := by
  have hsize : int64? total.toInt.natAbs = some (Int64.ofInt total.toInt.natAbs) := by
    rw [int64?, if_pos (by omega)]
  have hlt : e.tuning.jumpThreshold < Int64.ofInt total.toInt.natAbs ↔ e.Exceeds total := by
    rw [Int64.lt_iff_toInt_lt, toInt_of_int64? hsize]
    rfl
  unfold process
  rw [if_neg (by simp [hv]), if_neg (by simp [hp]), ht, Option.bind_eq_bind, Option.bind_some, hsize,
    Option.bind_eq_bind, Option.bind_some]
  by_cases h : e.Exceeds total
  · rw [if_pos (hlt.mpr h), if_pos h]
    cases int32? total.toInt <;> rfl
  · rw [if_neg (mt hlt.mp h), if_neg h]
    cases e.steer total i.fine <;> rfl

/-- What can become of an engine that decides about a sample. -/
inductive Decided (e : Pid R) (i : ControlInput) : Except String ControlOutput → Pid R → Prop where
  | held (hv : i.valid = false) : Decided e i (.ok (.hold i.fine)) e
  | asked (hv : i.valid = true) (hp : e.pending = true) : Decided e i (.ok ⟨.calibrate, i.fine, 0⟩) e
  /-- No jump is as large as this. -/
  | refused (hv : i.valid = true) (hp : e.pending = false) {total : Int64} (ht : i.phase.asNs? = some total)
      (hx : e.Exceeds total) (h : int32? total.toInt = none) : Decided e i (.error (outOfJumpRange total)) e
  | jumped (hv : i.valid = true) (hp : e.pending = false) {total : Int64} (ht : i.phase.asNs? = some total)
      (hx : e.Exceeds total) {shift : Int32} (h : int32? total.toInt = some shift) :
      Decided e i (.ok ⟨.phaseJump, i.fine, shift⟩) { e with window := .zero }
  | steered (hv : i.valid = true) (hp : e.pending = false) {total : Int64} (ht : i.phase.asNs? = some total)
      (hx : ¬e.Exceeds total) {o : ControlOutput} {e' : Pid R} (h : Steered e total i.fine o e') :
      Decided e i (.ok o) e'

theorem decided_of_process {a : Except String ControlOutput} (h : e.process i = some (a, e')) :
    Decided e i a e' := by
  cases hv : i.valid with
  | false =>
    rw [process_of_untrusted e hv] at h
    cases h
    exact .held hv
  | true =>
  cases hp : e.pending with
  | true =>
    rw [process_of_pending hp hv] at h
    cases h
    exact .asked hv hp
  | false =>
    obtain ⟨total, ht, hs⟩ : ∃ total, i.phase.asNs? = some total ∧ total.toInt.natAbs < 9223372036854775808 := by
      unfold process at h
      rw [if_neg (by simp [hv]), if_neg (by simp [hp])] at h
      simp only [Option.bind_eq_bind, Option.bind_eq_some_iff] at h
      obtain ⟨total, ht, size, hs, -⟩ := h
      have hn := mt int64?_eq_none_iff.mpr (by rw [hs]; exact nofun)
      exact ⟨total, ht, by omega⟩
    rw [process_of_total hv hp ht hs] at h
    split at h
    · rename_i hx
      cases hj : int32? total.toInt with
      | none =>
        simp only [hj] at h
        cases h
        exact .refused hv hp ht hx hj
      | some shift =>
        simp only [hj] at h
        cases h
        exact .jumped hv hp ht hx hj
    · rename_i hx
      obtain ⟨⟨o, e₁⟩, hq, h⟩ := Option.map_eq_some_iff.mp h
      cases h
      exact .steered hv hp ht hx (steered_of_steer hq)

/-- Nothing else is answered with an adjustment. -/
theorem steered_of_process {o : ControlOutput} (h : e.process i = some (.ok o, e')) (ho : o.action = .adjustFine) :
    ∃ total, i.phase.asNs? = some total ∧ ¬e.Exceeds total ∧ Steered e total i.fine o e' := by
  cases decided_of_process h with
  | held | asked | jumped => cases ho
  | steered hv hp ht hx hs => exact ⟨_, ht, hx, hs⟩

/-! ## (2) Results -/

/-- What can become of an engine that is handed results. -/
inductive Submitted (e : Pid R) : Adoption R → Pid R → Prop where
  | mismatched : Submitted e .mismatched { e with pending := false }
  | unusable : Submitted e .unusable { e with pending := false }
  | adopted {slope : R} (hs : Scalar.isNormal slope = true) (nominal : UInt32) :
      Submitted e (.adopted slope nominal)
        { e with pending := false, gain := slope, center := some nominal, integral := Scalar.ofInt 0 }

theorem submitted_of_submit {p : Calibration.Plan} {r : Calibration.Results} {a : Adoption R}
    (h : e.submit p r = some (a, e')) : Submitted e a e' := by
  cases settled_of_submit h with
  | mismatched => exact .mismatched
  | unusable => exact .unusable
  | adopted _ _ hs => exact .adopted hs _

end

end Pid

/-- Also where they are of no use. -/
theorem pending_of_submit {R : Type} [Scalar R] {e e' : Pid R} {p : Calibration.Plan} {r : Calibration.Results}
    {a : Pid.Adoption R} (h : e.submit p r = some (a, e')) : e'.pending = false := by
  cases Pid.settled_of_submit h <;> rfl

/-! ## (3) The collaborator -/

section

variable {W R : Type} [Journal (Act W)] [Numeral R] {range : DacRange} {k : Slot W (Pid R)} {w v : W}

theorem process_of_engine {i : ControlInput} {a : Except String ControlOutput}
    (h : (Pid.engine range k.cell : Engine (Act W)).process i w = .ok a v) :
    ∃ e, (k.get w).process i = some (a, e) ∧ v = k.set e w := by
  cases hp : (k.get w).process i with
  | none =>
    simp only [Pid.engine, Slot.cell, Bind.bind, EStateM.bind, hp] at h
    cases h
  | some p =>
    simp only [Pid.engine, Slot.cell, Bind.bind, EStateM.bind, hp] at h
    cases h
    exact ⟨p.2, rfl, rfl⟩

/-- What is told about the results is told after they were taken. -/
theorem submit_of_engine {p : Calibration.Plan} {r : Calibration.Results}
    (h : (Pid.engine range k.cell : Engine (Act W)).submit p r w = .ok () v) :
    ∃ a e, (k.get w).submit p r = some (a, e) ∧ ∃ x, (Journal.note x : Act W Unit) (k.set e w) = .ok () v := by
  cases hp : (k.get w).submit p r with
  | none =>
    simp only [Pid.engine, Slot.cell, Bind.bind, EStateM.bind, hp] at h
    cases h
  | some q =>
    obtain ⟨a, e⟩ := q
    simp only [Pid.engine, Slot.cell, Bind.bind, EStateM.bind, hp] at h
    refine ⟨a, e, rfl, ?_⟩
    cases a <;> exact ⟨_, h⟩

end

end ClockDiscipline
