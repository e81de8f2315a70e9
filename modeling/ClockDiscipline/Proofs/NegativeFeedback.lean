/-
  ClockDiscipline.Proofs.NegativeFeedback — a larger error moves the control farther against it.

  One engine over the rationals, in one state, is given a smaller and a larger error. With
  gains that are not negative the larger one never makes for a smaller integral, and never
  for a setpoint farther along with the drift: the setpoint is no higher if a step up of the
  control drifts up, and no lower if it drifts down.

  Every stage keeps the order: the median of the window, the integral with its limit, the
  sum of the two parts, rounding and the range of the control. The division alone turns it
  around, by the sign of its divisor, and so does the subtraction from the center.

  Proved: (1) each stage (`demand_mono`, `aim_antitone`, `aim_mono`); (2) two adjustments
  from one state (`opposed_of_steered`), and that both errors get one
  (`a_larger_error_moves_the_control_against_it`).
-/

import ClockDiscipline.Proofs.ExactSteering
import Mathlib.Algebra.Order.Field.Basic

namespace ClockDiscipline

namespace Pid

/-! ## (1) Stages -/

section

variable {e : Pid Rat} {error₁ error₂ : Int} {integral₁ integral₂ : Rat}

theorem demand_mono (hkp : 0 ≤ e.tuning.kp) (hki : 0 ≤ e.tuning.ki) (he : error₁ ≤ error₂)
    (hi : integral₁ ≤ integral₂) :
    e.tuning.kp * error₁ + e.tuning.ki * integral₁ ≤ e.tuning.kp * error₂ + e.tuning.ki * integral₂ :=
  add_le_add (mul_le_mul_of_nonneg_left (Int.cast_le.mpr he) hkp) (mul_le_mul_of_nonneg_left hi hki)

theorem aim_antitone (hg : 0 < e.gain) (fine : UInt32)
    (h : e.tuning.kp * error₁ + e.tuning.ki * integral₁ ≤ e.tuning.kp * error₂ + e.tuning.ki * integral₂) :
    aim e error₂ integral₂ fine ≤ aim e error₁ integral₁ fine :=
  Exact.roundToInt_mono (sub_le_sub_left (div_le_div_of_nonneg_right h hg.le) _)

theorem aim_mono (hg : e.gain < 0) (fine : UInt32)
    (h : e.tuning.kp * error₁ + e.tuning.ki * integral₁ ≤ e.tuning.kp * error₂ + e.tuning.ki * integral₂) :
    aim e error₁ integral₁ fine ≤ aim e error₂ integral₂ fine :=
  Exact.roundToInt_mono (sub_le_sub_left (div_le_div_of_nonpos_of_le hg.le h) _)

theorem integral_mono {e₁ e₂ : Pid Rat} {o₁ o₂ : ControlOutput} {fine : UInt32} (hM : 0 ≤ e.tuning.maxIntegral)
    (h₁ : AdjustedTo e error₁ fine o₁ e₁) (h₂ : AdjustedTo e error₂ fine o₂ e₂) (he : error₁ ≤ error₂) :
    e₁.integral ≤ e₂.integral := by
  rw [integral_of_adjusted hM h₁, integral_of_adjusted hM h₂]
  have hs : e.integral + error₁ ≤ e.integral + error₂ := add_le_add_right (Int.cast_le.mpr he) _
  exact max_le_max le_rfl (min_le_min hs le_rfl)

end

/-! ## (2) Two adjustments -/

/-- Of two answers from one state, the second opposes an error at least as large. -/
structure Opposed (gain : Rat) (o₁ : ControlOutput) (e₁ : Pid Rat) (o₂ : ControlOutput) (e₂ : Pid Rat) : Prop where
  adjusts₁ : o₁.action = .adjustFine
  adjusts₂ : o₂.action = .adjustFine
  lower : 0 < gain → o₂.setpoint ≤ o₁.setpoint
  higher : gain < 0 → o₁.setpoint ≤ o₂.setpoint
  integral : e₁.integral ≤ e₂.integral

section

variable {e e₁ e₂ : Pid Rat} {o₁ o₂ : ControlOutput} {total₁ total₂ : Int64}

theorem opposed_of_steered {fine : UInt32} (hkp : 0 ≤ e.tuning.kp) (hki : 0 ≤ e.tuning.ki)
    (hM : 0 ≤ e.tuning.maxIntegral) (h : total₁ ≤ total₂) (h₁ : Steered e total₁ fine o₁ e₁)
    (h₂ : Steered e total₂ fine o₂ e₂) : Opposed e.gain o₁ e₁ o₂ e₂ := by
  have he : e₁.window.median ≤ e₂.window.median := by
    rw [h₁.state, h₂.state]
    exact e.window.median_push_mono (Int64.le_iff_toInt_le.mp h)
  have ha₁ := adjustedTo_of_steered h₁
  have ha₂ := adjustedTo_of_steered h₂
  have hi := integral_mono hM ha₁ ha₂ he
  have hd := demand_mono hkp hki he hi
  have hs₁ := setpoint_of_adjusted ha₁
  have hs₂ := setpoint_of_adjusted ha₂
  refine ⟨action_of_steered h₁, action_of_steered h₂, fun hg => ?_, fun hg => ?_, hi⟩
  · have hp := e.tuning.range.put_mono (aim_antitone hg fine hd)
    rw [← hs₁, ← hs₂] at hp
    exact UInt32.le_iff_toNat_le.mpr (Int.ofNat_le.mp hp)
  · have hp := e.tuning.range.put_mono (aim_mono hg fine hd)
    rw [← hs₁, ← hs₂] at hp
    exact UInt32.le_iff_toNat_le.mpr (Int.ofNat_le.mp hp)

/-- In any state that has no calibration due and gains that are not negative, two trusted samples that differ in an
    error within the threshold are adjusted to, the larger error farther against the drift. -/
theorem a_larger_error_moves_the_control_against_it {i : ControlInput} {p₁ p₂ : PhaseError}
    (hkp : 0 ≤ e.tuning.kp) (hki : 0 ≤ e.tuning.ki) (hM : 0 ≤ e.tuning.maxIntegral) (hp : e.pending = false)
    (hv : i.valid = true) (ht₁ : p₁.asNs? = some total₁) (ht₂ : p₂.asNs? = some total₂) (h : total₁ ≤ total₂)
    (hx₁ : ¬e.Exceeds total₁) (hx₂ : ¬e.Exceeds total₂) :
    ∃ o₁ e₁ o₂ e₂, e.process { i with phase := p₁ } = some (.ok o₁, e₁) ∧
      e.process { i with phase := p₂ } = some (.ok o₂, e₂) ∧ Opposed e.gain o₁ e₁ o₂ e₂ := by
  obtain ⟨o₁, e₁, hq₁, hs₁⟩ := process_of_within (i := { i with phase := p₁ }) hM hv hp ht₁ hx₁
  obtain ⟨o₂, e₂, hq₂, hs₂⟩ := process_of_within (i := { i with phase := p₂ }) hM hv hp ht₂ hx₂
  exact ⟨o₁, e₁, o₂, e₂, hq₁, hq₂, opposed_of_steered hkp hki hM h hs₁ hs₂⟩

end

/-- Errors of 100 and 200 ns lie behind. A step up of the control takes 2 ns/s off the drift. -/
def falling : Pid Rat :=
  ⟨⟨.between 0 65535, 1, 1 / 2, 1000, 500, [], 4⟩, -2, some 1000, 0, ⟨0, 100, 200⟩, false⟩

theorem a_falling_drift_is_opposed_upward :
    ∃ e₁ e₂, falling.process (trustedSample 120 1000) = some (.ok ⟨.adjustFine, 1090, 0⟩, e₁) ∧
      falling.process (trustedSample 180 1000) = some (.ok ⟨.adjustFine, 1135, 0⟩, e₂) ∧
      Opposed (-2) ⟨.adjustFine, 1090, 0⟩ e₁ ⟨.adjustFine, 1135, 0⟩ e₂ := by
  let next (integral : Rat) (latest : Int) : Pid Rat := { falling with integral, window := ⟨100, 200, latest⟩ }
  have h₁ : falling.process (trustedSample 120 1000) = some (.ok ⟨.adjustFine, 1090, 0⟩, next 120 120) := by
    decide +kernel
  have h₂ : falling.process (trustedSample 180 1000) = some (.ok ⟨.adjustFine, 1135, 0⟩, next 180 180) := by
    decide +kernel
  have ht₁ : (PhaseError.ofSample 120 .normal).asNs? = some 120 := by decide +kernel
  have ht₂ : (PhaseError.ofSample 180 .normal).asNs? = some 180 := by decide +kernel
  obtain ⟨o₁, e₁, o₂, e₂, hq₁, hq₂, h⟩ := a_larger_error_moves_the_control_against_it (e := falling)
    (i := trustedSample 120 1000) (by decide +kernel) (by decide +kernel) (by decide +kernel) rfl rfl ht₁ ht₂ (by decide)
    (by decide) (by decide)
  cases hq₁.symm.trans h₁
  cases hq₂.symm.trans h₂
  exact ⟨_, _, h₁, h₂, h⟩

end Pid

end ClockDiscipline
