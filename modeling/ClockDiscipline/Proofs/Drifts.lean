/-
  ClockDiscipline.Proofs.Drifts — what the built-in engine makes of measured rows.

  Each row of results belongs to a control value. Its drift is how far its last sample is
  from its first, by the seconds between the two, and the line is laid through control
  values and drifts. The step that takes results fails in one place of its own, where the
  two samples are further apart than 64 bits can say. Whatever else is proved about this
  step follows from the cases that it has.

  Proved: (1) when a row has no rate (`rate?_eq_none_iff`) and else which one
  (`rate?_eq_some`), and with it the points of the line (`drifts?_eq_none_iff`,
  `drifts?_eq_some`), which are at the control values of the plan if every row has samples
  (`map_fst_driftPoints`); (2) all that becomes of an engine that takes results
  (`settled_of_submit`).
-/

import ClockDiscipline.Engine.Pid
import ClockDiscipline.Proofs.OptionRow

namespace ClockDiscipline

namespace Pid

/-! ## (1) Rows -/

/-- First and last sample are further apart than 64 bits can say. -/
def Wide (row : List Int64) : Prop :=
  ∃ first last, row.head? = some first ∧ row.getLast? = some last ∧
    (last.toInt - first.toInt < -9223372036854775808 ∨ 9223372036854775808 ≤ last.toInt - first.toInt)

section

variable {R : Type} [Scalar R]

/-- The drift of a row, from its first to its last sample with a second between each two. -/
def drift (row : List Int64) : R :=
  Scalar.ofInt ((row.getLast?.getD 0).toInt - (row.head?.getD 0).toInt) / Scalar.ofInt ((row.length : Int) - 1)

/-- Control values against the drifts of their rows; a row without samples has none. -/
def driftPoints (points : List UInt32) (rows : List (List Int64)) : List (R × R) :=
  (points.zip rows).filterMap fun q =>
    if q.2.isEmpty then none else some (Scalar.ofInt (q.1.toNat : Int), drift q.2)

theorem rate?_eq_none_iff {row : List Int64} : (rate? row : Option (Option R)) = none ↔ Wide row := by
  unfold rate? Wide
  cases row.head? with
  | none => simp
  | some first =>
    cases row.getLast? with
    | none => simp
    | some last =>
      simp only [← int64?_eq_none_iff]
      cases hd : int64? (last.toInt - first.toInt) <;> simp [hd]

theorem rate?_eq_some {row : List Int64} {rate : Option R} (h : rate? row = some rate) :
    rate = if row.isEmpty then none else some (drift row) := by
  cases row with
  | nil => exact (Option.some.inj h).symm
  | cons first row =>
    obtain ⟨last, hlast⟩ : ∃ last, (first :: row).getLast? = some last :=
      ⟨_, List.getLast?_eq_some_getLast (List.cons_ne_nil first row)⟩
    simp only [rate?, List.head?_cons, hlast, Option.bind_eq_bind, Option.bind_eq_some_iff] at h
    obtain ⟨x, hx, h⟩ := h
    rw [toInt_of_int64? hx] at h
    simp only [drift, hlast, List.head?_cons, Option.getD_some]
    exact (Option.some.inj h).symm

/-- Each row belongs to a point. -/
theorem drifts?_eq_none_iff {points : List UInt32} {rows : List (List Int64)} (h : rows.length = points.length) :
    (drifts? points rows : Option (List (R × R))) = none ↔ ∃ row ∈ rows, Wide row := by
  have hrows : (points.zip rows).map Prod.snd = rows := List.map_snd_zip (Nat.le_of_eq h)
  unfold drifts?
  rw [Option.map_eq_none_iff, mapM_eq_none_iff]
  simp only [Option.map_eq_none_iff, rate?_eq_none_iff]
  conv_rhs => rw [← hrows]
  simp only [List.mem_map, exists_exists_and_eq_and]

/-- Where the rates have an answer, the line is laid through control values and drifts. -/
theorem drifts?_eq_some {points : List UInt32} {rows : List (List Int64)} {line : List (R × R)}
    (h : drifts? points rows = some line) : line = driftPoints points rows := by
  obtain ⟨ys, hys, rfl⟩ := Option.map_eq_some_iff.mp h
  rw [mapM_eq_some_iff] at hys
  clear h
  unfold driftPoints
  generalize points.zip rows = l at hys
  induction hys with
  | nil => rfl
  | @cons q y l ys hq _ ih =>
    obtain ⟨rate, hrate, rfl⟩ := Option.map_eq_some_iff.mp hq
    rw [rate?_eq_some hrate, List.filterMap_cons, List.filterMap_cons, ih]
    cases q.2.isEmpty <;> rfl

theorem map_fst_driftPoints {points : List UInt32} {rows : List (List Int64)} (hl : rows.length = points.length)
    (h : ∀ row ∈ rows, row ≠ []) :
    (driftPoints points rows : List (R × R)).map Prod.fst = points.map fun x => Scalar.ofInt (x.toNat : Int) := by
  induction points generalizing rows with
  | nil => rfl
  | cons x points ih =>
    cases rows with
    | nil => cases hl
    | cons row rows =>
      obtain ⟨hrow, hrows⟩ := List.forall_mem_cons.mp h
      have hrow : row.isEmpty = false := by simpa using hrow
      have ih := ih (Nat.succ.inj hl) hrows
      unfold driftPoints at ih ⊢
      simp only [List.zip_cons_cons, List.filterMap_cons, hrow, Bool.false_eq_true, if_false, List.map_cons, ih]

/-! ## (2) Results -/

/-- The line through what was measured. -/
def line? (p : Calibration.Plan) (r : Calibration.Results) : Option (R × R) :=
  LineFit.fit? (driftPoints p.points r.rows)

/-- What becomes of an engine that takes results: only the last case touches gain, center and integral. -/
inductive Settled (e : Pid R) (p : Calibration.Plan) (r : Calibration.Results) : Adoption R → Pid R → Prop where
  | mismatched (hm : r.matches p = false) : Settled e p r .mismatched { e with pending := false }
  | unusable (hm : r.matches p = true)
      (h : ∀ slope intercept : R, line? p r = some (slope, intercept) → Scalar.isNormal slope = false) :
      Settled e p r .unusable { e with pending := false }
  /-- The center is where the line is zero, put into the range of the control. -/
  | adopted (hm : r.matches p = true) {slope intercept : R} (h : line? p r = some (slope, intercept))
      (hs : Scalar.isNormal slope = true) {y : R}
      (hy : Scalar.clamp? (Scalar.ofInt (e.tuning.range.min.toNat : Int)) (Scalar.ofInt (e.tuning.range.max.toNat : Int))
        (Scalar.round (-intercept / slope)) = some y) :
      Settled e p r (.adopted slope (Scalar.toUInt32 y))
        { e with
          pending := false
          gain := slope
          center := some (Scalar.toUInt32 y)
          integral := Scalar.ofInt 0 }

theorem settled_of_submit {e e' : Pid R} {p : Calibration.Plan} {r : Calibration.Results} {a : Adoption R}
    (h : e.submit p r = some (a, e')) : Settled e p r a e' := by
  unfold submit at h
  cases hm : r.matches p with
  | false =>
    simp only [hm, Bool.not_false, if_true] at h
    cases h
    exact .mismatched hm
  | true =>
    simp only [hm, Bool.not_true, Bool.false_eq_true, if_false, Option.bind_eq_bind, Option.bind_eq_some_iff] at h
    obtain ⟨points, hpoints, h⟩ := h
    obtain rfl := drifts?_eq_some hpoints
    split at h
    · rename_i hfit
      cases h
      exact .unusable hm fun slope intercept hline => absurd (hfit.symm.trans hline) nofun
    rename_i slope intercept hfit
    split at h
    · rename_i hs
      obtain ⟨y, hy, h⟩ := Option.bind_eq_some_iff.mp h
      cases h
      exact .adopted hm hfit hs hy
    · rename_i hs
      cases h
      refine .unusable hm fun slope' intercept' hline => ?_
      cases hfit.symm.trans hline
      exact Bool.eq_false_iff.mpr hs

end

end Pid

end ClockDiscipline
