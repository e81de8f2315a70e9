/-
  ClockDiscipline.Proofs.ResultRange — which results of a calibration end the engine.

  An engine checks that there is one row for each point, each with as many samples as were
  asked for. It does not look at the samples. The rate of a row is the difference of its
  last and its first sample, two numbers of 64 bits each, and where that does not fit 64
  bits either the step has no answer. Nothing after it can be without one: a row with a
  sample has a length to take one from, the line is computed by operations that always
  answer, and a clamp between two control values has its ends in order.

  Proved: an engine has no answer to results exactly if they have the shape of the plan and
  one of their rows is too wide, in any arithmetic that can put numbers between control
  values (`submit_eq_none_iff`), which doubles can (`results_end_an_engine_iff`).
-/

import ClockDiscipline.Proofs.DoubleOrder
import ClockDiscipline.Proofs.Drifts

namespace ClockDiscipline

namespace Pid

section

variable {R : Type} [Scalar R]

/-- Any number can be put between two control values. -/
def Clamps (R : Type) [Scalar R] : Prop :=
  ∀ (range : DacRange) (x : R),
    ∃ y, Scalar.clamp? (Scalar.ofInt (range.min.toNat : Int)) (Scalar.ofInt (range.max.toNat : Int)) x = some y

theorem clamps_float : Clamps Float := by
  intro range x
  obtain ⟨y, hy, -⟩ := Binary64.clamp?_words range.ordered x
  exact ⟨y, hy⟩

theorem submit_eq_none_iff (hc : Clamps R) {e : Pid R} {p : Calibration.Plan} {r : Calibration.Results} :
    e.submit p r = none ↔ r.matches p = true ∧ ∃ row ∈ r.rows, Wide row := by
  unfold submit
  cases hm : r.matches p with
  | false => simp
  | true =>
    have hl := (Calibration.Results.matches_iff.mp hm).1
    rw [← drifts?_eq_none_iff (R := R) hl]
    cases drifts? (R := R) p.points r.rows with
    | none => simp
    | some points =>
      -- With the points at hand the line decides, and each of its cases has an answer.
      refine iff_of_false ?_ (by simp)
      simp only [Bool.not_true, Bool.false_eq_true, if_false, Option.bind_eq_bind, Option.bind_some]
      split
      · exact nofun
      · split
        · rename_i slope intercept _ _
          obtain ⟨y, hy⟩ := hc e.tuning.range (Scalar.round (-intercept / slope))
          rw [hy]
          exact nofun
        · exact nofun

end

/-- An engine comes to its end by submitted results exactly if they have the shape of the plan and the ends of some row
    are further apart than 64 bits. -/
theorem results_end_an_engine_iff (e : Pid Float) (p : Calibration.Plan) (r : Calibration.Results) :
    e.submit p r = none ↔ r.matches p = true ∧ ∃ row ∈ r.rows, Wide row :=
  submit_eq_none_iff clamps_float

/-- The least and the greatest sample in one row are too far apart. -/
theorem the_widest_row_ends_an_engine :
    ¬∀ (e : Pid Float) (p : Calibration.Plan) (r : Calibration.Results), e.submit p r ≠ none := by
  intro h
  exact h default ⟨[100], 2⟩ ⟨[[Int64.minValue, Int64.maxValue]]⟩ (by decide +kernel)

end Pid

end ClockDiscipline
