/-
  ClockDiscipline.Proofs.ControlAuthority — how far an engine can go from its center.

  The engine runs over the rationals. Its center is settled by the latest calibration that
  it adopted, or by the first sample that it adjusted to if there was none. From there the
  error, which the threshold bounds, and the integral, which is cut off at its limit, move
  the control by what the gains and the drift of one step make of them. Half a step more
  is lost to rounding.

  Proved: (1) the center is the settled one in every history (`center_of_history`); (2) the
  integral stays within its limit (`abs_integral_of_history`) and the gain does not vanish
  (`gain_of_history`); (3) an adjustment aims no farther from the center than that
  (`abs_aim_sub_le`), over every configuration and history
  (`an_adjustment_stays_near_the_center`).
-/

import ClockDiscipline.Proofs.ExactSteering
import Mathlib.Algebra.Order.Field.Basic

namespace ClockDiscipline

namespace Pid

/-! ## (1) The center -/

namespace Event

variable {R : Type}

/-- The nominal control of a calibration that was adopted. -/
def nominal? : Event R → Option UInt32
  | .took _ _ (.adopted _ nominal) => some nominal
  | _ => none

/-- The fine control at a sample that was adjusted to. -/
def adjustedAt? : Event R → Option UInt32
  | .decided i (.ok o) => if o.action = .adjustFine then some i.fine else none
  | _ => none

end Event

/-- The nominal control of the latest calibration that was adopted or, if there is none, the fine control at the first
    sample that was adjusted to. -/
def settledCenter {R : Type} (hs : List (Event R)) : Option UInt32 :=
  (hs.filterMap Event.nominal?).getLast?.or (hs.filterMap Event.adjustedAt?).head?

theorem settledCenter_concat {R : Type} (hs : List (Event R)) (x : Event R) :
    settledCenter (hs ++ [x]) = x.nominal?.or ((settledCenter hs).or x.adjustedAt?) := by
  rw [settledCenter, settledCenter, filterMap_concat, filterMap_concat, List.getLast?_append, List.head?_append,
    Option.or_assoc, Option.or_assoc]
  -- The latest calibration comes from the end of the list, the first adjustment from its start.
  congr 1
  · cases x.nominal? <;> rfl
  · congr 2
    cases x.adjustedAt? <;> rfl

section

variable {R : Type} [Scalar R] {e₀ e e' : Pid R} {hs : List (Event R)}

theorem center_of_steered {i : ControlInput} {total : Int64} {o : ControlOutput} (h : Steered e total i.fine o e') :
    e'.center = e.center.or (Event.adjustedAt? (R := R) (.decided i (.ok o))) := by
  obtain ⟨setpoint, rfl, -⟩ := h.output
  rw [h.state]
  cases e.center <;> rfl

theorem center_of_history (h₀ : e₀.center = none) (h : Linked Meets e₀ hs e) : e.center = settledCenter hs := by
  refine history_induction (P := fun hs d => d.center = settledCenter hs) h₀ ?_ ?_ h
  · intro hs d i a d' hd h
    rw [settledCenter_concat, ← hd]
    cases h with
    | held | asked | refused | jumped => exact Option.or_none.symm
    | steered hv hp ht hx hs => exact center_of_steered hs
  · intro hs d p r a d' hd h
    rw [settledCenter_concat, ← hd]
    cases h with
    | mismatched | unusable => exact Option.or_none.symm
    | adopted => rfl

end

/-! ## (2) The integral and the gain -/

section

variable {e₀ e e' : Pid Rat} {hs : List (Event Rat)} {i : ControlInput} {o : ControlOutput} {fine : UInt32} {error : Int}

theorem abs_integral_of_adjusted (hM : 0 ≤ e.tuning.maxIntegral) (h : AdjustedTo e error fine o e') :
    |e'.integral| ≤ e.tuning.maxIntegral := by
  rw [integral_of_adjusted hM h, abs_le]
  exact ⟨le_max_left _ _, max_le (neg_le_self hM) (min_le_right _ _)⟩

theorem abs_integral_of_history (hM : 0 ≤ e₀.tuning.maxIntegral) (h₀ : e₀.integral = 0) (h : Linked Meets e₀ hs e) :
    |e.integral| ≤ e.tuning.maxIntegral := by
  refine history_induction (P := fun _ d => |d.integral| ≤ d.tuning.maxIntegral) ?_ ?_ ?_ h
  · rwa [h₀, abs_zero]
  · intro hs d i a d' hd h
    cases h with
    | held | asked | refused | jumped => exact hd
    | steered hv hp ht hx hs =>
      have ht : d'.tuning = d.tuning := by rw [hs.state]
      rw [ht]
      -- A limit that held before is not negative.
      exact abs_integral_of_adjusted ((abs_nonneg _).trans hd) (adjustedTo_of_steered hs)
  · intro hs d p r a d' hd h
    cases h with
    | mismatched | unusable => exact hd
    | adopted =>
      show |(0 : Rat)| ≤ d.tuning.maxIntegral
      rw [abs_zero]
      exact (abs_nonneg _).trans hd

theorem gain_of_history (h₀ : e₀.gain ≠ 0) (h : Linked Meets e₀ hs e) : e.gain ≠ 0 := by
  refine history_induction (P := fun _ d => d.gain ≠ 0) h₀ ?_ ?_ h
  · intro hs d i a d' hd h
    rw [(tuning_of_decided h).2.1]
    exact hd
  · intro hs d p r a d' hd h
    cases h with
    | mismatched | unusable => exact hd
    | adopted hs => exact bne_iff_ne.mp hs

/-! ## (3) Adjustments -/

/-- How far error and integral can move the control. -/
def reach (t : Tuning Rat) (gain : Rat) : Rat := (|t.kp| * t.jumpThreshold.toInt + |t.ki| * t.maxIntegral) / |gain|

theorem abs_demand_le {integral : Rat} (he : (error.natAbs : Int) ≤ e.tuning.jumpThreshold.toInt)
    (hi : |integral| ≤ e.tuning.maxIntegral) :
    |e.tuning.kp * error + e.tuning.ki * integral| ≤
      |e.tuning.kp| * e.tuning.jumpThreshold.toInt + |e.tuning.ki| * e.tuning.maxIntegral := by
  have he : |(error : Rat)| ≤ e.tuning.jumpThreshold.toInt := by
    rw [← Int.cast_abs, Int.abs_eq_natAbs]
    exact_mod_cast he
  calc |e.tuning.kp * error + e.tuning.ki * integral|
      ≤ |e.tuning.kp| * |(error : Rat)| + |e.tuning.ki| * |integral| := by
        rw [← abs_mul, ← abs_mul]
        exact abs_add_le _ _
    _ ≤ |e.tuning.kp| * e.tuning.jumpThreshold.toInt + |e.tuning.ki| * e.tuning.maxIntegral :=
        add_le_add (mul_le_mul_of_nonneg_left he (abs_nonneg _)) (mul_le_mul_of_nonneg_left hi (abs_nonneg _))

theorem abs_aim_sub_le {integral : Rat} (he : (error.natAbs : Int) ≤ e.tuning.jumpThreshold.toInt)
    (hi : |integral| ≤ e.tuning.maxIntegral) (fine : UInt32) :
    |(aim e error integral fine : Rat) - ((e.center.getD fine).toNat : Int)| ≤ reach e.tuning e.gain + 1 / 2 := by
  let center : Rat := ((e.center.getD fine).toNat : Int)
  let correction : Rat := (e.tuning.kp * error + e.tuning.ki * integral) / e.gain
  have hr : |(aim e error integral fine : Rat) - (center - correction)| ≤ 1 / 2 := by
    rw [abs_sub_comm]
    exact Exact.abs_sub_roundToInt_le _
  have hc : |correction| ≤ reach e.tuning e.gain := by
    rw [abs_div, reach]
    exact div_le_div_of_nonneg_right (abs_demand_le he hi) (abs_nonneg _)
  calc |(aim e error integral fine : Rat) - center|
      ≤ |(aim e error integral fine : Rat) - (center - correction)| + |center - correction - center| := abs_sub_le _ _ _
    _ = |(aim e error integral fine : Rat) - (center - correction)| + |correction| := by
        rw [sub_sub_cancel_left, abs_neg]
    _ ≤ 1 / 2 + reach e.tuning e.gain := add_le_add hr hc
    _ = reach e.tuning e.gain + 1 / 2 := add_comm _ _

end

/-- What bounds an engine with this history. -/
structure Bounded (e₀ : Pid Rat) (hs : List (Event Rat)) (e : Pid Rat) : Prop where
  integral : |e.integral| ≤ e₀.tuning.maxIntegral
  center : e.center = settledCenter hs
  gain : e.gain ≠ 0
  /-- The setpoint is an integer near the center that is settled with the sample, put into the range. -/
  adjusts : ∀ i o e', e.process i = some (.ok o, e') → o.action = .adjustFine →
    ∃ (center : UInt32) (z : Int), settledCenter (hs ++ [.decided i (.ok o)]) = some center ∧
      |(z : Rat) - (center.toNat : Int)| ≤ reach e₀.tuning e.gain + 1 / 2 ∧
      (o.setpoint.toNat : Int) = e₀.tuning.range.put z

section

variable {e₀ e e' : Pid Rat} {hs : List (Event Rat)} {i : ControlInput} {o : ControlOutput}

theorem setpoint_of_history (hM : 0 ≤ e₀.tuning.maxIntegral) (hc : e₀.center = none) (hw : e₀.window = .zero)
    (h : Linked Meets e₀ hs e) (hp : e.process i = some (.ok o, e')) (ho : o.action = .adjustFine) :
    ∃ (center : UInt32) (z : Int), settledCenter (hs ++ [.decided i (.ok o)]) = some center ∧
      |(z : Rat) - (center.toNat : Int)| ≤ reach e₀.tuning e.gain + 1 / 2 ∧
      (o.setpoint.toNat : Int) = e₀.tuning.range.put z := by
  obtain ⟨total, -, hx, hd⟩ := steered_of_process hp ho
  have ha := adjustedTo_of_steered hd
  have hnext : Linked Meets e₀ (hs ++ [.decided i (.ok o)]) e' := linked_concat.mpr ⟨e, h, hp⟩
  rw [← tuning_of_history h] at hM ⊢
  refine ⟨e.center.getD i.fine, aim e e'.window.median e'.integral i.fine, ?_,
    abs_aim_sub_le (natAbs_median_le (within_of_history hw h) hx hd) (abs_integral_of_adjusted hM ha) i.fine,
    setpoint_of_adjusted ha⟩
  rw [← center_of_history hc hnext, hd.state]

/-- Whatever the configuration and the requests before, an engine whose largest integral is not negative keeps its
    integral within that, and the control within reach of the settled center. -/
theorem an_adjustment_stays_near_the_center {c : Config} (h₀ : ofConfig Rat c = .ok e₀)
    (hM : 0 ≤ e₀.tuning.maxIntegral) (h : Linked Meets e₀ hs e) : Bounded e₀ hs e := by
  obtain ⟨hc, hi, hw⟩ := start_of_ofConfig h₀
  exact {
    integral := tuning_of_history h ▸ abs_integral_of_history hM hi h
    center := center_of_history hc h
    gain := gain_of_history (bne_iff_ne.mp (configured_of_ofConfig h₀).usable) h
    adjusts := fun i o e' hp ho => setpoint_of_history hM hc hw h hp ho }

end

/-- A short range, and a calibration at two points. -/
def shortConfig : Config :=
  Config.parse ("dac-max=200\nkp=1\nki=0.5\nmax-integral=100\nns-per-step=1\nphase-jump-threshold-ns=500\n" ++
    "calibration-points=40,60\ncalibration-samples=2")

def shortPid : Pid Rat := ⟨⟨.between 0 200, 1, 1 / 2, 100, 500, [40, 60], 2⟩, 1, none, 0, .zero, false⟩

/-- The control is at 150. The calibration finds no drift at 50, and -2 ns/s for each step from there. -/
def aroundACalibration : List (Event Rat) := [
  .decided (trustedSample 100 150) (.ok ⟨.adjustFine, 150, 0⟩),
  .took ⟨[40, 60], 2⟩ ⟨[[0, 20], [0, -20]]⟩ (.adopted (-2) 50)]

/-- 75 steps up from the center, of the 275 that are in reach. -/
theorem a_calibration_moves_the_center :
    let e : Pid Rat := { shortPid with gain := -2, center := some 50, window := ⟨0, 0, 100⟩ }
    let e' : Pid Rat := { e with integral := 100, window := ⟨0, 100, 100⟩ }
    ofConfig Rat shortConfig = .ok shortPid ∧ 0 ≤ shortPid.tuning.maxIntegral ∧
      Linked Meets shortPid aroundACalibration e ∧ Bounded shortPid aroundACalibration e ∧
      settledCenter aroundACalibration = some 50 ∧ reach shortPid.tuning e.gain = 275 ∧
      e.process (trustedSample 100 150) = some (.ok ⟨.adjustFine, 125, 0⟩, e') := by
  intro e e'
  have h₀ : ofConfig Rat shortConfig = .ok shortPid := by decide +kernel
  have hM : 0 ≤ shortPid.tuning.maxIntegral := by decide
  have h : Linked Meets shortPid aroundACalibration e := by
    refine .cons (t := { shortPid with center := some 150, window := ⟨0, 0, 100⟩ }) ?_ (.cons (t := e) ?_ (.nil e))
    · show shortPid.process _ = _
      decide +kernel
    · show Pid.submit _ _ _ = _
      decide +kernel
  have hr : reach shortPid.tuning e.gain = 275 := by decide +kernel
  exact ⟨h₀, hM, h, an_adjustment_stays_near_the_center h₀ hM h, rfl, hr, by decide +kernel⟩

end Pid

end ClockDiscipline
