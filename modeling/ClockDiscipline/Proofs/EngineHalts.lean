/-
  ClockDiscipline.Proofs.EngineHalts — when the arithmetic of the engine ends it.

  A step has no answer where its arithmetic leaves its range. For what a turn hands to the
  engine most of that is out of reach: a sample is small enough to be split, put together
  and compared, any two numbers of measured results are close enough to be subtracted, and
  the range of the control is in order. What is left is the clamp of the integral, whose
  ends are in order exactly if the largest integral is not negative. The settings do not
  check that. An engine with a negative one, or one that is no number, ends at the first
  trusted sample within the threshold once no calibration is due.

  Proved: (1) which samples of a turn end an engine (`process_build_eq_none_iff`), and that
  measured results end none (`submit_ne_none`); (2) that over all rows of what turns hand
  to it an engine is safe exactly if its largest integral is not negative or it never comes
  to the clamp (`no_step_halts_iff`).
-/

import ClockDiscipline.Proofs.CalibrateFirst
import ClockDiscipline.Proofs.Measured
import ClockDiscipline.Proofs.PidSteps
import ClockDiscipline.Proofs.ResultRange

namespace ClockDiscipline

namespace Pid

/-! ## (1) One step -/

/-- The range is in order, so that only the clamp of the integral can be without an answer. -/
theorem steer_eq_none_iff {e : Pid Float} {phase : Int64} {fine : UInt32} :
    e.steer phase fine = none ↔ ¬0 ≤ e.tuning.maxIntegral := by
  rw [← Binary64.clamp?_neg_self (e.integral + Scalar.ofInt (e.window.push phase.toInt).median),
    Bool.not_eq_true, Option.isSome_eq_false_iff, Option.isNone_iff_eq_none]
  simp only [steer, Option.bind_eq_bind]
  cases hi : Scalar.clamp? (-e.tuning.maxIntegral) e.tuning.maxIntegral
      (e.integral + Scalar.ofInt (e.window.push phase.toInt).median) with
  | none => exact iff_of_true rfl rfl
  | some integral =>
    refine iff_of_false (fun h => ?_) (Option.some_ne_none integral)
    rw [Option.bind_some, Option.bind_eq_none_iff] at h
    exact (Binary64.clamp?_words e.tuning.range.ordered _).elim fun y hy => Option.some_ne_none _ (h y hy.1)

theorem asNs?_build (n : Int32) (p : Polarity) (q : Readout) :
    (ControlInput.build n p q).phase.asNs? = some (p.apply n) := asNs?_ofNs _

/-- Of the samples of a turn those end an engine that come to the clamp of the integral, if that has no answer. -/
theorem process_build_eq_none_iff {e : Pid Float} {n : Int32} {p : Polarity} {q : Readout} :
    e.process (.build n p q) = none ↔
      q.valid = true ∧ e.pending = false ∧ ¬e.Exceeds (p.apply n) ∧ ¬0 ≤ e.tuning.maxIntegral := by
  cases hv : q.valid with
  | false =>
    rw [process_of_untrusted e (i := .build n p q) hv]
    simp
  | true =>
  cases hp : e.pending with
  | true =>
    rw [process_of_pending (i := .build n p q) hp hv]
    simp
  | false =>
    have hs := natAbs_apply_le p n
    rw [process_of_total (i := .build n p q) hv hp (asNs?_build n p q) (by omega)]
    by_cases hx : e.Exceeds (p.apply n)
    · simp [hx]
    · simp [hx, steer_eq_none_iff]

/-- No two samples are too far apart. -/
theorem submit_ne_none (e : Pid Float) {p : Calibration.Plan} {r : Calibration.Results}
    (h : ∀ row ∈ r.rows, Dummy.Small row) : e.submit p r ≠ none := by
  intro hn
  obtain ⟨-, row, hrow, first, last, hf, hl, hd⟩ := (submit_eq_none_iff clamps_float).mp hn
  have h1 := h row hrow first (List.mem_of_head? hf)
  have h2 := h row hrow last (List.mem_of_getLast? hl)
  omega

/-! ## (2) Rows of steps -/

/-- A sample as a turn hands it to the engine, or results that were measured for what the engine asks. -/
def Proper (e : Pid Float) : Request → Prop
  | .decide i => ∃ n p q, i = .build n p q
  | .adopt p r => e.plan = some p ∧ Dummy.Measures p r

/-- The largest integral is in order, or no sample ever comes to its clamp: the threshold lets none pass, or a
    calibration is due for which there is nothing to measure. -/
def Safe (e : Pid Float) : Prop :=
  0 ≤ e.tuning.maxIntegral ∨ e.tuning.jumpThreshold < 0 ∨ (e.pending = true ∧ e.plan = none)

theorem exceeds_of_negative {e : Pid Float} (h : e.tuning.jumpThreshold < 0) (total : Int64) : e.Exceeds total := by
  rw [Int64.lt_iff_toInt_lt] at h
  have h : e.tuning.jumpThreshold.toInt < 0 := h
  unfold Exceeds
  omega

section

variable {e : Pid Float}

/-- A proper step of a safe engine is taken, and leaves it safe. -/
theorem safe_of_decide (h : Safe e) (n : Int32) (p : Polarity) (q : Readout) :
    ∃ a e', e.process (.build n p q) = some (a, e') ∧ e'.tuning = e.tuning ∧ Safe e' := by
  cases hq : e.process (.build n p q) with
  | none =>
    obtain ⟨-, hp, hx, hm⟩ := process_build_eq_none_iff.mp hq
    rcases h with h | h | h
    · exact absurd h hm
    · exact absurd (exceeds_of_negative h _) hx
    · rw [hp] at h
      cases h.1
  | some a =>
    obtain ⟨ht, -, hp⟩ := tuning_of_decided (decided_of_process hq)
    refine ⟨a.1, a.2, rfl, ht, ?_⟩
    unfold Safe plan at h ⊢
    rw [ht, hp]
    exact h

theorem safe_of_adopt (h : Safe e) {p : Calibration.Plan} {r : Calibration.Results} (hp : e.plan = some p)
    (hr : Dummy.Measures p r) : ∃ a e', e.submit p r = some (a, e') ∧ e'.tuning = e.tuning ∧ Safe e' := by
  cases hq : e.submit p r with
  | none => exact absurd hq (submit_ne_none e (Dummy.small_of_measures hr))
  | some a =>
    have ht := tuning_of_submitted (submitted_of_submit hq)
    refine ⟨a.1, a.2, rfl, ht, ?_⟩
    unfold Safe
    rw [ht]
    rcases h with h | h | h
    · exact Or.inl h
    · exact Or.inr (Or.inl h)
    · rw [hp] at h
      cases h.2

theorem serve_of_safe (h : Safe e) {rs : List Request} (hrs : ∀ r ∈ rs, e.Proper r) :
    (e.serve rs).2.isSome = true := by
  induction rs generalizing e with
  | nil => rfl
  | cons r rs ih =>
    have hr := hrs r List.mem_cons_self
    have hrs := fun r hr => hrs r (List.mem_cons_of_mem _ hr)
    -- What is proper is up to the settings, and these stay.
    have hnext {e' : Pid Float} (ht : e'.tuning = e.tuning) (h : Safe e') : (e'.serve rs).2.isSome = true := by
      refine ih h fun r hr => ?_
      have hr := hrs r hr
      unfold Proper plan at hr ⊢
      rw [ht]
      exact hr
    cases r with
    | decide i =>
      obtain ⟨n, p, q, rfl⟩ := hr
      obtain ⟨a, e', hq, ht, hs⟩ := safe_of_decide h n p q
      simp only [serve, hq]
      exact hnext ht hs
    | adopt p r =>
      obtain ⟨a, e', hq, ht, hs⟩ := safe_of_adopt h hr.1 hr.2
      simp only [serve, hq]
      exact hnext ht hs

/-- Without an error the sample comes to the clamp, once results settled what was due. -/
theorem exists_halting (h : ¬Safe e) : ∃ rs, (∀ r ∈ rs, e.Proper r) ∧ (e.serve rs).2 = none := by
  obtain ⟨hm, h⟩ := not_or.mp h
  obtain ⟨hj, h⟩ := not_or.mp h
  have hx : ¬0 < -e.tuning.jumpThreshold.toInt := by
    rw [Int64.lt_iff_toInt_lt] at hj
    have hj : ¬e.tuning.jumpThreshold.toInt < 0 := hj
    omega
  have hd {d : Pid Float} (ht : d.tuning = e.tuning) (hp : d.pending = false) :
      d.process (trustedSample 0 0) = none := by
    refine process_build_eq_none_iff.mpr ⟨rfl, hp, ?_, by rw [ht]; exact hm⟩
    unfold Exceeds
    rw [ht, show (Polarity.apply .normal 0).toInt = 0 from rfl]
    omega
  have hs : e.Proper (.decide (trustedSample 0 0)) := ⟨_, _, _, rfl⟩
  cases hp : e.pending with
  | false =>
    refine ⟨[.decide (trustedSample 0 0)], List.forall_mem_singleton.mpr hs, ?_⟩
    simp only [serve, hd rfl hp]
  | true =>
    cases hplan : e.plan with
    | none => exact absurd ⟨hp, hplan⟩ h
    | some p =>
      obtain ⟨r, hr⟩ := Dummy.exists_measures p
      obtain ⟨a, ha⟩ := Option.ne_none_iff_exists'.mp (submit_ne_none e (p := p) (Dummy.small_of_measures hr))
      refine ⟨[.adopt p r, .decide (trustedSample 0 0)], ?_, ?_⟩
      · exact List.forall_mem_cons.mpr ⟨⟨hplan, hr⟩, List.forall_mem_singleton.mpr hs⟩
      · have ht := tuning_of_submitted (submitted_of_submit ha)
        simp only [serve, ha, hd ht (pending_of_submit ha)]

theorem safe_of_standard {c : Config} (h : ofConfig Float c = .ok e) (hc : c.get? "max-integral" = none) :
    Safe e := by
  have hm := (configured_of_ofConfig h).maxIntegral
  simp only [Config.valueD, hc] at hm
  refine Or.inl ?_
  rw [← Except.ok.inj hm]
  decide +kernel

end

/-- An engine as it is configured comes to no end, in any row of what turns hand to it, exactly if its largest integral
    is not negative or nothing comes to the clamp of the integral. The built-in largest integral is not negative. -/
theorem no_step_halts_iff {c : Config} {e : Pid Float} (h : ofConfig Float c = .ok e) :
    ((∀ rs, (∀ r ∈ rs, e.Proper r) → (e.serve rs).2.isSome = true) ↔ Safe e) ∧
      (c.get? "max-integral" = none → Safe e) := by
  refine ⟨⟨fun h => ?_, fun hs rs hrs => serve_of_safe hs hrs⟩, safe_of_standard h⟩
  by_contra hs
  obtain ⟨rs, hrs, hn⟩ := exists_halting hs
  have h := h rs hrs
  rw [hn] at h
  cases h

/-- The built-in settings, with a largest integral. -/
def limited (maxIntegral : Float) : Pid Float :=
  ⟨⟨.between 0 65535, Scalar.ofInt 1 / Scalar.ofInt 10, Scalar.ofInt 1 / Scalar.ofInt 100, maxIntegral, 1000,
    [16383, 32767, 49149], 4⟩, Scalar.ofInt 1 / Scalar.ofInt 10, none, Scalar.ofInt 0, .zero, false⟩

theorem built_in_settings_are_safe :
    ofConfig Float (Config.parse "") = .ok (limited (Scalar.ofInt 1000000)) ∧
      ∀ rs, (∀ r ∈ rs, (limited (Scalar.ofInt 1000000)).Proper r) →
        ((limited (Scalar.ofInt 1000000)).serve rs).2.isSome = true := by
  have h : ofConfig Float (Config.parse "") = .ok (limited (Scalar.ofInt 1000000)) := by decide +kernel
  obtain ⟨hiff, hsafe⟩ := no_step_halts_iff h
  exact ⟨h, hiff.mpr (hsafe rfl)⟩

/-- With a largest integral of -1, which the configuration accepts, the first trusted sample ends the engine. -/
theorem a_negative_limit_halts_at_the_first_sample :
    ¬∀ (c : Config) (e : Pid Float) (rs : List Request), ofConfig Float c = .ok e → (∀ r ∈ rs, e.Proper r) →
      (e.serve rs).2.isSome = true := by
  intro h
  have h := h (Config.parse "max-integral=-1") (limited (-Scalar.ofInt 1)) [.decide (trustedSample 0 1000)]
    (by decide +kernel) (List.forall_mem_singleton.mpr ⟨_, _, _, rfl⟩)
  exact absurd h (by decide +kernel)

end Pid

end ClockDiscipline
