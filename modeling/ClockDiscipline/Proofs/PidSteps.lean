/-
  ClockDiscipline.Proofs.PidSteps — rows of steps of the built-in engine.

  An engine takes two kinds of steps: it decides about a sample, and it takes results of a
  calibration. What is said later about its states follows from what these steps do to one
  state. A step that leaves its range is the end of the engine.

  Proved: what the steps keep, a row of them keeps (`serve_kept`), so that the settings stay
  those of the start (`tuning_of_serve`) and the gain stays fit to divide by
  (`isNormal_gain_of_serve`).
-/

import ClockDiscipline.Proofs.UntrustedPhase

namespace ClockDiscipline

deriving instance DecidableEq for Pid.Tuning, Pid, Pid.Adoption

namespace Pid

/-- A sample with a fix behind it. -/
def trustedSample (sample : Int32) (fine : UInt32) : ControlInput :=
  .build sample .normal ⟨⟨fine, 0, false⟩, 0, true, 0⟩

section

variable {R : Type} [Scalar R] {e e' : Pid R} {rs : List Request}

/-- What deciding and taking results keep, a row of requests keeps. -/
theorem serve_kept {P : Pid R → Prop} (hd : ∀ e i a e', P e → Decided e i a e' → P e')
    (hs : ∀ e a e', P e → Submitted e a e' → P e') (he : P e) (h : (e.serve rs).2 = some e') : P e' := by
  induction rs generalizing e with
  | nil =>
    cases h
    exact he
  | cons r rs ih =>
    cases r with
    | decide i =>
      cases hq : e.process i with
      | none =>
        simp only [serve, hq] at h
        cases h
      | some q =>
        simp only [serve, hq] at h
        exact ih (hd _ _ _ _ he (decided_of_process hq)) h
    | adopt p r =>
      cases hq : e.submit p r with
      | none =>
        simp only [serve, hq] at h
        cases h
      | some q =>
        simp only [serve, hq] at h
        exact ih (hs _ _ _ he (submitted_of_submit hq)) h

theorem tuning_of_decided {i : ControlInput} {a : Except String ControlOutput} (h : Decided e i a e') :
    e'.tuning = e.tuning ∧ e'.gain = e.gain ∧ e'.pending = e.pending := by
  cases h with
  | steered _ _ _ _ h =>
    rw [h.state]
    exact ⟨rfl, rfl, rfl⟩
  | _ => exact ⟨rfl, rfl, rfl⟩

theorem tuning_of_submitted {a : Adoption R} (h : Submitted e a e') : e'.tuning = e.tuning := by
  cases h <;> rfl

theorem tuning_of_serve (h : (e.serve rs).2 = some e') : e'.tuning = e.tuning :=
  serve_kept (P := fun d => d.tuning = e.tuning) (fun _ _ _ _ hd h => (tuning_of_decided h).1.trans hd)
    (fun _ _ _ hd h => (tuning_of_submitted h).trans hd) rfl h

/-- A gain is checked wherever it comes from. -/
theorem isNormal_gain_of_serve (he : Scalar.isNormal e.gain = true) (h : (e.serve rs).2 = some e') :
    Scalar.isNormal e'.gain = true := by
  refine serve_kept (P := fun d => Scalar.isNormal d.gain = true) (fun e i a e' hd h => ?_) (fun e a e' hd h => ?_) he h
  · rw [(tuning_of_decided h).2.1]
    exact hd
  · cases h with
    | mismatched | unusable => exact hd
    | adopted hs => exact hs

end

end Pid

end ClockDiscipline
