/-
  ClockDiscipline.Proofs.SetpointRange — where an adjustment puts the fine control.

  The target of an adjustment is put into the range of the engine and then cut off to a
  word. The range is kept by both steps as long as the target is a number; what is none
  passes the clamp and is cut off to 0. The gain is fit to divide by and the center is a
  word, so that this is decided by the demand alone: the sum of the proportional and the
  integral part. A configuration can have it undefined with a proportional gain that is
  no number, and with gains so large that the two parts are infinite and opposite.

  Proved: (1) an adjustment stays in the range exactly if its demand is a number or the
  range begins with 0, and is 0 otherwise (`setpoint_of_steered`); (2) with gains that
  leave room for the error and the integral the demand is a number in every state
  (`isNaN_demand_of_moderate`); (3) both over all configurations and rows of steps
  (`an_adjustment_is_in_the_range_iff`).
-/

import ClockDiscipline.Proofs.CalibrateFirst
import ClockDiscipline.Proofs.DoubleSize
import ClockDiscipline.Proofs.PidSteps

namespace ClockDiscipline

open Binary64 (Below)

namespace Pid

/-! ## (1) The clamp -/

section

variable {e e' : Pid Float} {phase : Int64} {fine : UInt32} {o : ControlOutput}

theorem isNaN_target (hg : Scalar.isNormal e.gain = true) (center : UInt32) :
    (e.target center).isNaN = e.demand.isNaN := by
  have hc : (Binary64.parts (Float.ofNat center.toNat)).isFinite = true := by
    have := center.toNat_lt
    exact (Binary64.value_ofNat (by omega)).1
  change (Binary64.round (Float.ofNat center.toNat - e.demand / e.gain)).isNaN = _
  rw [Binary64.isNaN_round, Binary64.isNaN_sub hc, Binary64.isNaN_div e.demand hg]

theorem setpoint_of_steered (hg : Scalar.isNormal e.gain = true) (h : Steered e phase fine o e') :
    (e.tuning.range.min ≤ o.setpoint ∧ o.setpoint ≤ e.tuning.range.max ↔
        e.tuning.range.min = 0 ∨ e'.demand.isNaN = false) ∧
      (e'.demand.isNaN = true → o.setpoint = 0) := by
  obtain ⟨setpoint, rfl, hs⟩ := h.output
  have hg' : Scalar.isNormal e'.gain = true := by
    rw [h.state]
    exact hg
  obtain ⟨y, hy, hr, h0⟩ := Binary64.clamp?_words e.tuning.range.ordered (e'.target (e.center.getD fine))
  rw [hs] at hy
  cases hy
  rw [isNaN_target hg'] at hr h0
  exact ⟨hr, h0⟩

/-! ## (2) Gains that leave room -/

/-- The two parts of the demand cannot grow out of the doubles. -/
structure Tuning.Moderate (t : Tuning Float) : Prop where
  kp : Below 970 t.kp
  ki : Below 511 t.ki
  maxIntegral : Below 512 t.maxIntegral
  jumpThreshold : t.jumpThreshold.toInt < 2 ^ 53

/-- No error and no integral of a state is too large to compute with. -/
structure Sized (e : Pid Float) : Prop where
  integral : (Binary64.parts e.integral).isFinite = true
  oldest : e.window.oldest.natAbs < 2 ^ 53
  middle : e.window.middle.natAbs < 2 ^ 53
  latest : e.window.latest.natAbs < 2 ^ 53

theorem natAbs_zero_lt : (0 : Int).natAbs < 2 ^ 53 := by decide

theorem isFinite_zero : (Binary64.parts (Scalar.ofInt 0)).isFinite = true := (Binary64.below_ofInt natAbs_zero_lt).1

theorem Sized.error (h : Sized e) : Below 53 (Scalar.ofInt e.window.median) := by
  apply Binary64.below_ofInt
  rcases e.window.median_mem with hm | hm | hm <;> rw [hm]
  exacts [h.oldest, h.middle, h.latest]

/-- An error that is steered away is within the threshold. -/
theorem sized_push (h : Sized e) (ht : e.tuning.Moderate) (hx : ¬e.Exceeds phase) :
    Sized { e with window := e.window.push phase.toInt } := by
  have hj := ht.jumpThreshold
  unfold Exceeds at hx
  refine ⟨h.integral, h.middle, h.latest, ?_⟩
  change phase.toInt.natAbs < 2 ^ 53
  omega

theorem below_integral_of_steered (h : Sized e) (ht : e.tuning.Moderate) (hx : ¬e.Exceeds phase)
    (hs : Steered e phase fine o e') : Below 512 e'.integral :=
  Binary64.below_clamp? ht.maxIntegral (Binary64.isNaN_add h.integral (sized_push h ht hx).error.1) hs.integral

theorem sized_of_steered (h : Sized e) (ht : e.tuning.Moderate) (hx : ¬e.Exceeds phase)
    (hs : Steered e phase fine o e') : Sized e' := by
  have hi := (below_integral_of_steered h ht hx hs).1
  have hw := sized_push h ht hx
  rw [hs.state]
  exact ⟨hi, hw.oldest, hw.middle, hw.latest⟩

theorem isNaN_demand_of_moderate (h : Sized e) (ht : e.tuning.Moderate) (hx : ¬e.Exceeds phase)
    (hs : Steered e phase fine o e') : e'.demand.isNaN = false := by
  have ht' : e'.tuning = e.tuning := by rw [hs.state]
  have hp : (Binary64.parts (e'.tuning.kp * Scalar.ofInt e'.window.median)).isFinite = true := by
    rw [ht']
    exact Binary64.isFinite_mul ht.kp (sized_of_steered h ht hx hs).error (by decide)
  have hi : (Binary64.parts (e'.tuning.ki * e'.integral)).isFinite = true := by
    rw [ht']
    exact Binary64.isFinite_mul ht.ki (below_integral_of_steered h ht hx hs) (by decide)
  exact Binary64.isNaN_add hp hi

end

theorem sized_of_serve {e e' : Pid Float} {rs : List Request} (ht : e.tuning.Moderate) (he : Sized e)
    (h : (e.serve rs).2 = some e') : Sized e' := by
  have hk : e'.tuning = e.tuning ∧ Sized e' := by
    refine serve_kept (P := fun d => d.tuning = e.tuning ∧ Sized d) ?_ ?_ ⟨rfl, he⟩ h
    · rintro d i a d' ⟨hd, hz⟩ hs
      refine ⟨(tuning_of_decided hs).1.trans hd, ?_⟩
      cases hs with
      | steered _ _ _ hx hs => exact sized_of_steered hz (by rw [hd]; exact ht) hx hs
      | jumped => exact ⟨hz.integral, natAbs_zero_lt, natAbs_zero_lt, natAbs_zero_lt⟩
      | _ => exact hz
    · rintro d a d' ⟨hd, hz⟩ hs
      refine ⟨(tuning_of_submitted hs).trans hd, ?_⟩
      cases hs with
      | mismatched | unusable => exact ⟨hz.integral, hz.oldest, hz.middle, hz.latest⟩
      | adopted => exact ⟨isFinite_zero, hz.oldest, hz.middle, hz.latest⟩
  exact hk.2

/-! ## (3) Every state -/

/-- Whatever the configuration and the steps before, an adjustment is in the range exactly if its demand is a number or
    the range begins with 0, and 0 otherwise. With moderate gains it always is. -/
theorem an_adjustment_is_in_the_range_iff {c : Config} {e₀ e e' : Pid Float} {rs : List Request} {i : ControlInput}
    {o : ControlOutput} (h₀ : ofConfig Float c = .ok e₀) (hr : (e₀.serve rs).2 = some e)
    (h : e.process i = some (.ok o, e')) (ho : o.action = .adjustFine) :
    (e₀.tuning.range.min ≤ o.setpoint ∧ o.setpoint ≤ e₀.tuning.range.max ↔
        e₀.tuning.range.min = 0 ∨ e'.demand.isNaN = false) ∧
      (e'.demand.isNaN = true → o.setpoint = 0) ∧ (e₀.tuning.Moderate → e'.demand.isNaN = false) := by
  have hg := isNormal_gain_of_serve (configured_of_ofConfig h₀).usable hr
  have ht := tuning_of_serve hr
  obtain ⟨-, hi, hw⟩ := start_of_ofConfig h₀
  cases decided_of_process h with
  | held | asked | jumped => cases ho
  | steered hv hp htotal hx hs =>
    obtain ⟨h1, h2⟩ := setpoint_of_steered hg hs
    rw [ht] at h1
    refine ⟨h1, h2, fun hm => ?_⟩
    have hz : Sized e₀ := by
      refine ⟨by rw [hi]; exact isFinite_zero, ?_, ?_, ?_⟩ <;> rw [hw] <;> exact natAbs_zero_lt
    exact isNaN_demand_of_moderate (sized_of_serve hm hz hr) (by rw [ht]; exact hm) hx hs

/-- A range and a proportional gain, and what is built in for the rest. -/
def ranged (range : DacRange) (kp : Float) : Pid Float :=
  ⟨⟨range, kp, Scalar.ofInt 1 / Scalar.ofInt 100, Scalar.ofInt 1000000, 1000, quartiles range, 4⟩,
    Scalar.ofInt 1 / Scalar.ofInt 10, none, Scalar.ofInt 0, .zero, false⟩

/-- With the built-in gains two samples of 100 ns lower the control by 110 steps. -/
theorem two_samples_are_adjusted_to_in_the_range :
    let e₀ := ranged ⟨1000, 2000, by decide⟩ (Scalar.ofInt 1 / Scalar.ofInt 10)
    let o : ControlOutput := ⟨.adjustFine, 1390, 0⟩
    ofConfig Float (Config.parse "dac-min=1000\ndac-max=2000") = .ok e₀ ∧
      ∃ e e', (e₀.serve [.decide (trustedSample 100 1500)]).2 = some e ∧
        e.process (trustedSample 100 1500) = some (.ok o, e') ∧ e₀.tuning.range.min ≤ o.setpoint ∧
        o.setpoint ≤ e₀.tuning.range.max := by
  intro e₀ o
  have h₀ : ofConfig Float (Config.parse "dac-min=1000\ndac-max=2000") = .ok e₀ := by decide +kernel
  have hr : (e₀.serve [.decide (trustedSample 100 1500)]).2 =
      some { e₀ with center := some 1500, window := ⟨0, 0, 100⟩ } := by decide +kernel
  have h : ({ e₀ with center := some 1500, window := ⟨0, 0, 100⟩ } : Pid Float).process (trustedSample 100 1500) =
      some (.ok o, { e₀ with center := some 1500, integral := Scalar.ofInt 100, window := ⟨0, 100, 100⟩ }) := by
    decide +kernel
  obtain ⟨hin, -, -⟩ := an_adjustment_is_in_the_range_iff h₀ hr h rfl
  exact ⟨h₀, _, _, hr, h, hin.mpr (Or.inr (by decide +kernel))⟩

/-- A proportional gain that is no number makes the first sample an adjustment to 0, whatever the range. -/
theorem an_undefined_gain_leaves_the_range :
    ¬∀ (c : Config) (e₀ e e' : Pid Float) (rs : List Request) (i : ControlInput) (o : ControlOutput),
      ofConfig Float c = .ok e₀ → (e₀.serve rs).2 = some e → e.process i = some (.ok o, e') → o.action = .adjustFine →
        e₀.tuning.range.min ≤ o.setpoint ∧ o.setpoint ≤ e₀.tuning.range.max := by
  intro h
  let e := ranged ⟨5, 5, by decide⟩ (Float.ofBits 0x7ff8000000000000)
  have h := h (Config.parse "dac-min=5\ndac-max=5\nkp=nan") e e { e with center := some 5 } []
    (trustedSample 0 5) ⟨.adjustFine, 0, 0⟩ (by decide +kernel) rfl (by decide +kernel) rfl
  exact absurd h.1 (by decide)

end Pid

end ClockDiscipline
