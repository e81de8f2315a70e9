/-
  ClockDiscipline.Proofs.CalibrationPoints — which control values the rows of a calibration stand for.

  The engine plans its calibration points, and takes row `i` of the results as measured at
  point `i`. The oscillator puts each point into its range before it samples. The points of
  the settings are taken as they are, inside the range that they come with or not, so that
  a row may stand for a control value that was never applied; nobody notices, and the line
  through the rows gets a wrong slope.

  Proved:
  (1) What a calibration that was carried out did: the calls, the measurement and what the
      engine took (`steps_of_carryOut`).
  (2) A row was sampled at one control value, the point put into the range
      (`sampledAt_iff`), so that it stands for its point if that lies in the range and not
      otherwise (`a_row_is_sampled_at_its_point_iff`). Default points do.
  (3) A setting that is accepted and leads to a wrong gain
      (`a_point_beyond_the_range_is_not_applied`).
-/

import ClockDiscipline.Proofs.BenchCalibration
import ClockDiscipline.Proofs.CalibrationSamples
import ClockDiscipline.Proofs.PidSteps

namespace ClockDiscipline

open Arrival

/-! ## (1) Carrying out -/

section

variable {R S : Type} [Numeral R]

/-- The built-in engine and the built-in oscillator on a source of any kind. -/
def Pid.probingRig (range : DacRange) (p : EdgeSource (Act S)) (patience : Nat) (receiver : Receiver (Act (Probing S))) :
    Rig (Act (Beside (Pid R) (Probing S))) :=
  Pid.rig range (Probing.pps p) (Dummy.oscillator patience Probing.slot.cell) receiver

variable {range : DacRange} {p : EdgeSource (Act S)} {patience : Nat} {receiver : Receiver (Act (Probing S))}
  {polarity : Polarity} {o : ControlOutput} {w v : Beside (Pid R) (Probing S)} {b : Bool}

/-- The oscillator calibrates on the source itself. -/
theorem calibrate_of_answer {plan : Calibration.Plan} {a : Option Calibration.Results}
    (h : (Pid.probingRig range p patience receiver).answer (.calibrate plan polarity) w = .ok a v) :
    Dummy.calibrate Probing.slot.cell patience plan (Probing.pps p) polarity w.others = .ok a v.others ∧
      v.own = w.own := by
  have h : Beside.aside (Dummy.calibrate Probing.slot.cell patience plan
      (((Probing.pps p).mapped Beside.aside).mapped (Beside.without w.own)) polarity) w = .ok a v := h
  rw [EdgeSource.without_aside] at h
  exact Beside.aside_ok_iff.mp h

/-- The engine takes the results, and nothing else changes. -/
theorem submit_of_answer {plan : Calibration.Plan} {r : Calibration.Results}
    (h : (Pid.probingRig range p patience receiver).answer (.submit plan r) w = .ok () v) :
    ∃ adoption, w.own.submit plan r = some (adoption, v.own) ∧ v.others = w.others := by
  obtain ⟨adoption, e, hs, x, hx⟩ := submit_of_engine h
  cases hx
  exact ⟨adoption, hs, rfl⟩

theorem steps_of_carryOut (ho : o.action = .calibrate)
    (h : (Correction.carryOut (Pid.probingRig range p patience receiver) polarity o).run w = .ok (.ok b) v) :
    ∃ plan r adoption, w.own.plan = some plan ∧
      Dummy.calibrate Probing.slot.cell patience plan (Probing.pps p) polarity w.others = .ok (some r) v.others ∧
      w.own.submit plan r = some (adoption, v.own) ∧
      (Correction.carryOut (Pid.probingRig (R := R) range p patience receiver).logged polarity o).run ⟨w, []⟩ =
        .ok (.ok b) ⟨v, [⟨.plan, some plan⟩, ⟨.calibrate plan polarity, some r⟩, ⟨.submit plan r, ()⟩]⟩ := by
  let rig : Rig (Act (Beside (Pid R) (Probing S))) := Pid.probingRig range p patience receiver
  have ht : (Correction.carryOut rig.script polarity o).run.perform rig w = .ok (.ok b) v := by
    rw [performs_carryOut rig polarity o]
    exact h
  have hlog : (Correction.carryOut rig.logged polarity o).run ⟨w, []⟩ =
      .ok (.ok b) ⟨v, (Correction.carryOut rig.script polarity o).run.calls rig w⟩ := by
    have hp := perform_logged rig (Correction.carryOut rig.script polarity o).run w []
    rw [ht] at hp
    rw [← performs_carryOut rig.logged polarity o]
    exact hp
  have hc := correcting_of_path rig (Talk.path_of_ok rig ht)
  -- Telling changes nothing at all here, and each call leads from the world that it finds to the one that it leaves.
  have hl : Linked (fun w (c : Call) v => rig.answer c.ask w = .ok c.answer v) w
      ((Correction.carryOut rig.script polarity o).run.calls rig w) v :=
    linked_calls id (fun _ _ _ hn => by cases hn; rfl) (fun _ _ _ _ _ ha => ha) ht fun c hm => inTurn_of_correcting hc hm
  generalize (Correction.carryOut rig.script polarity o).run.calls rig w = calls at hc hl hlog
  cases hc with
  | calibrates _ plan r =>
    simp only [linked_cons, linked_nil] at hl
    obtain ⟨u₁, h1, u₂, h2, u₃, h3, rfl⟩ := hl
    have h1 : EStateM.Result.ok w.own.plan w = .ok (some plan) u₁ := h1
    injection h1 with hplan hu
    subst hu
    obtain ⟨h2, hown⟩ := calibrate_of_answer h2
    obtain ⟨adoption, h3, hothers⟩ := submit_of_answer h3
    rw [hown] at h3
    rw [hothers]
    exact ⟨plan, r, adoption, hplan, h2, h3, hlog⟩
  | jumps hj => rw [ho] at hj; cases hj
  | applies _ hc => exact absurd ho hc

end

/-- A plan is that of the settings, and wants two samples at each point at least. -/
theorem plan_of_tuning {R : Type} [Scalar R] {e : Pid R} {plan : Calibration.Plan} (h : e.plan = some plan) :
    plan = ⟨e.tuning.points, e.tuning.samples⟩ ∧ 2 ≤ e.tuning.samples.toNat := by
  unfold Pid.plan at h
  split at h
  · cases h
  · rename_i hn
    cases h
    have hn : ¬e.tuning.samples < 2 := fun hs => hn (by simp [hs])
    rw [UInt32.lt_iff_toNat_lt] at hn
    exact ⟨rfl, Nat.le_of_not_lt hn⟩

/-! ## (2) Rows and points -/

/-- Some wait is made for a row of `n` samples, and each wait that is made for it finds this control value. -/
structure SampledAt (n : Nat) (arrivals : List Arrival) (fines : List UInt32) (row : Nat) (f : UInt32) : Prop where
  waited : ∃ k < fines.length, rowAt n arrivals k = row
  fine : ∀ k g, fines[k]? = some g → rowAt n arrivals k = row → g = f

/-- Each sample comes with a wait of its own. -/
theorem exists_wait {arrivals : List Arrival} {m : Nat} (h : m < (samples arrivals).length) :
    ∃ k < arrivals.length, (samples (arrivals.take k)).length = m := by
  induction arrivals generalizing m with
  | nil => cases h
  | cons a as ih =>
    cases m with
    | zero => exact ⟨0, by simp, rfl⟩
    | succ m =>
      by_cases ha : a.sample? = none
      · have h : m + 1 < (samples as).length := by simpa only [samples, List.filterMap_cons, ha] using h
        obtain ⟨k, hk, hm⟩ := ih h
        refine ⟨k + 1, by simpa using hk, ?_⟩
        rw [List.take_succ_cons, ← hm]
        simp only [samples, List.filterMap_cons, ha]
      · obtain ⟨ns, ha⟩ := Option.ne_none_iff_exists'.mp ha
        have h : m < (samples as).length := by
          simpa only [samples, List.filterMap_cons, ha, List.length_cons, Nat.add_lt_add_iff_right] using h
        obtain ⟨k, hk, hm⟩ := ih h
        refine ⟨k + 1, by simpa using hk, ?_⟩
        rw [List.take_succ_cons, ← hm]
        simp only [samples, List.filterMap_cons, ha, List.length_cons]

theorem DacRange.clamp_eq_self_iff (r : DacRange) (x : UInt32) : r.clamp x = x ↔ r.min ≤ x ∧ x ≤ r.max := by
  constructor
  · intro h
    rw [← h]
    exact ⟨r.min_le_clamp x, r.clamp_le_max x⟩
  · intro h
    exact r.clamp_of_mem h.1 h.2

section

variable {plan : Calibration.Plan} {polarity : Polarity} {range : DacRange} {arrivals : List Arrival}
  {fines : List UInt32} {r : Calibration.Results} {row : Nat} {point f : UInt32}

theorem sampledAt_iff (h : Recorded plan polarity range arrivals fines r) (hn : 0 < plan.samples.toNat)
    (hp : plan.points[row]? = some point) :
    SampledAt plan.samples.toNat arrivals fines row f ↔ f = range.clamp point := by
  have hrow : row < plan.points.length := (List.getElem?_eq_some_iff.mp hp).1
  -- The first sample of the row.
  have hwait : ∃ k < fines.length, rowAt plan.samples.toNat arrivals k = row := by
    have hm : plan.samples.toNat * row < (samples arrivals).length := by
      rw [h.count]
      exact Nat.mul_lt_mul_of_pos_left hrow hn
    obtain ⟨k, hk, hs⟩ := exists_wait hm
    refine ⟨k, ?_, ?_⟩
    · rw [h.waits, ← length_eq_of_not_fatal h.not_fatal]
      exact hk
    · rw [rowAt, hs, Nat.mul_div_cancel_left row hn]
  have hfine : ∀ k g, fines[k]? = some g → rowAt plan.samples.toNat arrivals k = row → g = range.clamp point := by
    intro k g hg hk
    obtain ⟨point', hp', rfl⟩ := h.fine k g hg
    rw [hk, hp] at hp'
    cases hp'
    rfl
  constructor
  · intro hs
    obtain ⟨k, hk, hr⟩ := hwait
    have hg : fines[k]? = some fines[k] := List.getElem?_eq_getElem hk
    rw [← hs.fine k _ hg hr, hfine k _ hg hr]
  · rintro rfl
    exact ⟨hwait, hfine⟩

end

/-- Where a calibration is carried out with an engine of any accepted settings and an oscillator bound to its range,
    the rows that the engine takes were sampled at its points put into the range. A row was sampled at the point that
    the engine takes it for if that point lies in the range, and else it was not. Points that the settings do not name
    lie in the range. -/
theorem a_row_is_sampled_at_its_point_iff {R S : Type} [Numeral R] {c : Config} {e₀ : Pid R}
    (he : Pid.ofConfig R c = .ok e₀) {p : EdgeSource (Act S)} {patience : Nat} {receiver : Receiver (Act (Probing S))}
    {polarity : Polarity} {o : ControlOutput} {w v : Beside (Pid R) (Probing S)} {b : Bool}
    (ht : w.own.tuning = e₀.tuning) (hb : w.others.dummy.range = e₀.tuning.range) (ho : o.action = .calibrate)
    (h : (Correction.carryOut (Pid.probingRig e₀.tuning.range p patience receiver) polarity o).run w = .ok (.ok b) v) :
    let plan : Calibration.Plan := ⟨e₀.tuning.points, e₀.tuning.samples⟩
    let range := e₀.tuning.range
    ∃ r adoption arrivals fines,
      (Correction.carryOut (Pid.probingRig (R := R) range p patience receiver).logged polarity o).run ⟨w, []⟩ =
        .ok (.ok b) ⟨v, [⟨.plan, some plan⟩, ⟨.calibrate plan polarity, some r⟩, ⟨.submit plan r, ()⟩]⟩ ∧
      w.own.submit plan r = some (adoption, v.own) ∧
      Linked (Arrives p) w.others.source arrivals v.others.source ∧ v.others.waits = w.others.waits ++ fines ∧
      Recorded plan polarity range arrivals fines r ∧
      (∀ row point, plan.points[row]? = some point →
        SampledAt plan.samples.toNat arrivals fines row (range.clamp point) ∧
          (SampledAt plan.samples.toNat arrivals fines row point ↔ range.min ≤ point ∧ point ≤ range.max)) ∧
      (c.get? "calibration-points" = none → ∀ point ∈ plan.points, range.min ≤ point ∧ point ≤ range.max) := by
  intro plan range
  obtain ⟨plan', r, adoption, hplan, hcal, hsub, hlog⟩ := steps_of_carryOut ho h
  obtain ⟨hplan, hn⟩ := plan_of_tuning hplan
  rw [ht] at hplan hn
  subst hplan
  obtain ⟨arrivals, fines, hs, hw, hr⟩ := recorded_of_ends (ends_of_calibrate hcal)
  rw [hb] at hr
  refine ⟨r, adoption, arrivals, fines, hlog, hsub, hs, hw, hr, fun row point hp => ?_, fun hc point hp => ?_⟩
  · have hn : 0 < plan.samples.toNat := Nat.lt_of_lt_of_le Nat.zero_lt_two hn
    refine ⟨(sampledAt_iff hr hn hp).mpr rfl, ?_⟩
    rw [sampledAt_iff hr hn hp, eq_comm]
    exact range.clamp_eq_self_iff point
  · have hq : plan.points = Pid.quartiles range := Bench.points_of_ofConfig he hc
    rw [hq] at hp
    exact Bench.inside_of_mem_quartiles hp

/-- With the built-in points. -/
theorem built_in_points_are_applied :
    let cues : List Rehearsal.Cue := List.replicate 12 (.sample 5)
    let w : Beside (Pid Rat) (Probing Rehearsal.Script) :=
      ⟨Pid.firstPid, ⟨cues, none, []⟩, (Dummy.create 20 0).bound 0 65535, []⟩
    let rig := Pid.probingRig (R := Rat) Pid.firstPid.tuning.range scriptedPps 1 Receiver.missing
    ∃ v b r arrivals fines, (Correction.carryOut rig .normal ⟨.calibrate, 20, 0⟩).run w = .ok (.ok b) v ∧
      Recorded ⟨[16383, 32767, 49149], 4⟩ .normal Pid.firstPid.tuning.range arrivals fines r ∧
      ∀ row point, [16383, 32767, 49149][row]? = some point → SampledAt 4 arrivals fines row point := by
  intro cues w rig
  have hk : (match (Correction.carryOut rig .normal ⟨.calibrate, 20, 0⟩).run w with
      | .ok (.ok _) _ => true
      | .ok (.error _) _ => false
      | .error _ _ => false) = true := by decide +kernel
  split at hk
  · rename_i b v h
    obtain ⟨r, -, arrivals, fines, -, -, -, -, hr, hrow, hin⟩ :=
      a_row_is_sampled_at_its_point_iff Pid.ofConfig_first (w := w) rfl rfl rfl h
    refine ⟨v, b, r, arrivals, fines, h, hr, fun row point hp => ?_⟩
    exact (hrow row point hp).2.mpr (hin rfl point (List.mem_of_getElem? hp))
  · cases hk
  · cases hk

/-! ## (3) A wrong gain -/

/-- Two points, the second of them beyond the range. -/
def wideConfig : Config :=
  .parse "dac-max=1000\ncalibration-points=500,2000\ncalibration-samples=2\ncalibrate-first=true"

def widePid : Pid Rat :=
  ⟨⟨⟨0, 1000, by decide⟩, Scalar.ofInt 1 / Scalar.ofInt 10, Scalar.ofInt 1 / Scalar.ofInt 100, Scalar.ofInt 1000000, 1000,
    [500, 2000], 2⟩, Scalar.ofInt 1 / Scalar.ofInt 10, none, Scalar.ofInt 0, .zero, true⟩

theorem ofConfig_wide : Pid.ofConfig Rat wideConfig = .ok widePid := by
  decide +kernel

/-- What a device of 1 ns/s for one step shows that is on frequency at 500, at 500 twice and then at 1000 twice. -/
def steepScript : Rehearsal.Script := ⟨[.sample 0, .sample 0, .sample 500, .sample 1000], none, []⟩

/-- The settings are accepted and the calibration is carried out. Its second row was sampled at 1000 and is taken as
    measured at 2000, which makes the gain a third of what it is. -/
theorem a_point_beyond_the_range_is_not_applied :
    let w : Beside (Pid Rat) (Probing Rehearsal.Script) := ⟨widePid, steepScript, (Dummy.create 500 0).bound 0 1000, []⟩
    let rig := Pid.probingRig (R := Rat) widePid.tuning.range scriptedPps 1 Receiver.missing
    Pid.ofConfig Rat wideConfig = .ok widePid ∧ w.others.dummy.range = widePid.tuning.range ∧
      ∃ v r adoption arrivals fines, (Correction.carryOut rig .normal ⟨.calibrate, 500, 0⟩).run w = .ok (.ok false) v ∧
        w.own.submit ⟨[500, 2000], 2⟩ r = some (adoption, v.own) ∧
        Recorded ⟨[500, 2000], 2⟩ .normal widePid.tuning.range arrivals fines r ∧ v.others.waits = [500, 500, 1000, 1000] ∧
        v.own.gain = 1 / 3 ∧ SampledAt 2 arrivals fines 1 1000 ∧ ¬SampledAt 2 arrivals fines 1 2000 := by
  intro w rig
  have hk : (match (Correction.carryOut rig .normal ⟨.calibrate, 500, 0⟩).run w with
      | .ok (.ok b) v => decide (b = false ∧ v.others.waits = [500, 500, 1000, 1000] ∧ v.own.gain = 1 / 3)
      | .ok (.error _) _ => false
      | .error _ _ => false) = true := by decide +kernel
  refine ⟨ofConfig_wide, rfl, ?_⟩
  split at hk
  · rename_i b v h
    obtain ⟨rfl, hw, hg⟩ := of_decide_eq_true hk
    obtain ⟨plan, r, adoption, hplan, hcal, hsub, -⟩ := steps_of_carryOut rfl h
    cases hplan
    obtain ⟨arrivals, fines, -, -, hr⟩ := recorded_of_ends (ends_of_calibrate hcal)
    refine ⟨v, r, adoption, arrivals, fines, h, hsub, hr, hw, hg, ?_, fun hs => ?_⟩
    · exact (sampledAt_iff hr (by decide) rfl).mpr rfl
    · exact absurd ((sampledAt_iff hr (by decide) rfl).mp hs) (by decide)
  · cases hk
  · cases hk

end ClockDiscipline
