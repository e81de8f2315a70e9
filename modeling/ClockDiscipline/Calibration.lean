/-
  ClockDiscipline.Calibration — what a calibration is asked to measure, and what it measured.

  The engine plans which control values to probe and how many samples to take at each;
  the oscillator runs the procedure and reports one row of phase errors for each value.
  Neither side reads the other's numbers.
-/

namespace ClockDiscipline.Calibration

/-- What an engine wants measured. -/
structure Plan where
  /-- Fine control values to apply, in order. -/
  points : List UInt32
  /-- Samples to record at each of them. -/
  samples : UInt32
  deriving DecidableEq, Repr, Inhabited

/-- Phase errors in nanoseconds, polarity applied: one row for each control value. -/
structure Results where
  rows : List (List Int64)
  deriving DecidableEq, Repr, Inhabited

/-- Whether the results have the shape that the plan asks for. -/
def Results.matches (r : Results) (p : Plan) : Bool :=
  r.rows.length == p.points.length && r.rows.all fun row => row.length == p.samples.toNat

theorem Results.matches_iff {r : Results} {p : Plan} :
    r.matches p = true ↔ r.rows.length = p.points.length ∧ ∀ row ∈ r.rows, row.length = p.samples.toNat := by
  simp [Results.matches]

end ClockDiscipline.Calibration
