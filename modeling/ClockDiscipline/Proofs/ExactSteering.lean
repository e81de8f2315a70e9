/-
  ClockDiscipline.Proofs.ExactSteering — adjustments where nothing is lost.

  Over the rationals a clamp is a least and a greatest value, and a setpoint is an integer
  put into the range of the control: the center less the correction, rounded. All of this
  keeps the order of numbers. An adjustment has an answer as soon as the largest integral
  is not negative.

  Proved: (1) an integer put into a range is the setpoint that it says (`exists_clamp?`);
  (2) the integral and the setpoint of an adjustment (`integral_of_adjusted`,
  `setpoint_of_adjusted`), and that a sample within the threshold gets one
  (`process_of_within`).
-/

import ClockDiscipline.Proofs.ErrorWindow
import ClockDiscipline.Proofs.ExactLine

namespace ClockDiscipline

/-! ## (1) Setpoints -/

/-- An integer put into a range of control values. -/
def DacRange.put (r : DacRange) (z : Int) : Int := Max.max (r.min.toNat : Int) (Min.min z r.max.toNat)

theorem DacRange.put_mono (r : DacRange) {y z : Int} (h : y ≤ z) : r.put y ≤ r.put z :=
  max_le_max le_rfl (min_le_min h le_rfl)

namespace Exact

/-- An integer put into a range is a word. -/
theorem exists_clamp? (r : DacRange) (z : Int) :
    ∃ setpoint, Scalar.clamp? ((r.min.toNat : Int) : Rat) ((r.max.toNat : Int) : Rat) (z : Rat) = some setpoint ∧
      ((Scalar.toUInt32 setpoint).toNat : Int) = r.put z := by
  have ho : (r.min.toNat : Int) ≤ r.max.toNat := by exact_mod_cast UInt32.le_iff_toNat_le.mp r.ordered
  have hm := r.max.toNat_lt
  have hc := clamp?_eq_some (Int.cast_le.mpr ho) z
  rw [← Int.cast_min, ← Int.cast_max] at hc
  refine ⟨_, hc, toNat_toUInt32 ?_ ?_⟩ <;> omega

end Exact

/-! ## (2) Adjustments -/

namespace Pid

/-- The integer that an adjustment to an error aims at. -/
def aim (e : Pid Rat) (error : Int) (integral : Rat) (fine : UInt32) : Int :=
  Exact.roundToInt (((e.center.getD fine).toNat : Int) - (e.tuning.kp * error + e.tuning.ki * integral) / e.gain)

section

variable {e e' : Pid Rat} {i : ControlInput} {o : ControlOutput} {fine : UInt32} {total : Int64} {error : Int}

theorem integral_of_adjusted (hM : 0 ≤ e.tuning.maxIntegral) (h : AdjustedTo e error fine o e') :
    e'.integral = max (-e.tuning.maxIntegral) (min (e.integral + error) e.tuning.maxIntegral) := by
  have hi := h.integral
  rw [Exact.clamp?_eq_some (neg_le_self hM)] at hi
  exact (Option.some.inj hi).symm

theorem setpoint_of_adjusted (h : AdjustedTo e error fine o e') :
    (o.setpoint.toNat : Int) = e.tuning.range.put (aim e error e'.integral fine) := by
  obtain ⟨setpoint, rfl, hs⟩ := h.output
  obtain ⟨y, hy, hz⟩ := Exact.exists_clamp? e.tuning.range (aim e error e'.integral fine)
  cases hs.symm.trans hy
  exact hz

theorem exists_steered (hM : 0 ≤ e.tuning.maxIntegral) (total : Int64) (fine : UInt32) :
    ∃ o e', e.steer total fine = some (o, e') := by
  have hi := Exact.clamp?_eq_some (neg_le_self hM) (e.integral + (e.window.push total.toInt).median)
  simp only [steer, Option.bind_eq_bind, Option.bind_eq_some_iff]
  obtain ⟨setpoint, hs, -⟩ := Exact.exists_clamp? e.tuning.range (aim e (e.window.push total.toInt).median _ fine)
  exact ⟨_, _, _, hi, setpoint, hs, rfl⟩

/-- A sample within the threshold is adjusted to. -/
theorem process_of_within (hM : 0 ≤ e.tuning.maxIntegral) (hv : i.valid = true) (hp : e.pending = false)
    (ht : i.phase.asNs? = some total) (hx : ¬e.Exceeds total) :
    ∃ o e', e.process i = some (.ok o, e') ∧ Steered e total i.fine o e' := by
  have hj := e.tuning.jumpThreshold.toInt_lt
  have hs : total.toInt.natAbs < 9223372036854775808 := by
    unfold Exceeds at hx
    omega
  obtain ⟨o, e', hq⟩ := exists_steered hM total i.fine
  refine ⟨o, e', ?_, steered_of_steer hq⟩
  rw [process_of_total hv hp ht hs, if_neg hx, hq]
  rfl

end

end Pid

end ClockDiscipline
