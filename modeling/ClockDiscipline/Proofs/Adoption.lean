/-
  ClockDiscipline.Proofs.Adoption — results of a calibration are taken over as a whole or not at all.

  Whatever results an engine takes, no calibration is due afterwards, and settings and
  window stay as they are. Results that do not have the shape of the plan change nothing
  else, and neither do results through which no line with a usable slope lies. From all
  others the engine takes the slope as its gain, a control value of its range as its
  center, and begins with an integral of zero: never one of these without the others.

  Proved: (1) the zero of a usable line can be put into any range, for doubles and for
  exact numbers (`hasNominal_float`, `hasNominal_rat`); (2) where nothing is lost, of which
  results nothing becomes (`unusable_iff`), and both together with the cases of the step
  (`results_are_taken_as_a_whole`).
-/

import ClockDiscipline.Proofs.DoubleFit
import ClockDiscipline.Proofs.ExactSteering
import ClockDiscipline.Proofs.PidSteps

namespace ClockDiscipline

namespace Pid

/-! ## (1) The center -/

section

variable {R : Type} [Scalar R]

/-- The zero of a usable line is a control value, once it is put into the range. -/
def HasNominal (R : Type) [Scalar R] : Prop :=
  ∀ (range : DacRange) (points : List (R × R)) (slope intercept : R),
    LineFit.fit? points = some (slope, intercept) → Scalar.isNormal slope = true →
      ∃ y, Scalar.clamp? (Scalar.ofInt (range.min.toNat : Int)) (Scalar.ofInt (range.max.toNat : Int))
          (Scalar.round (-intercept / slope)) = some y ∧
        range.min ≤ Scalar.toUInt32 y ∧ Scalar.toUInt32 y ≤ range.max

theorem hasNominal_float : HasNominal Float := by
  intro range points slope intercept h hs
  obtain ⟨y, hy, hr, -⟩ := Binary64.clamp?_words range.ordered (Scalar.round (-intercept / slope))
  exact ⟨y, hy, hr.mpr (Or.inr (Binary64.isNaN_zero_of_fit? h hs))⟩

theorem hasNominal_rat : HasNominal Rat := by
  intro range points slope intercept _ _
  obtain ⟨y, hy, hput⟩ := Exact.exists_clamp? range (Exact.roundToInt (-intercept / slope))
  have ho := UInt32.le_iff_toNat_le.mp range.ordered
  unfold DacRange.put at hput
  refine ⟨y, hy, ?_, ?_⟩ <;> rw [UInt32.le_iff_toNat_le] <;> omega

theorem nominal_in_range (hn : HasNominal R) {e e' : Pid R} {p : Calibration.Plan} {r : Calibration.Results}
    {gain : R} {nominal : UInt32} (h : Settled e p r (.adopted gain nominal) e') :
    e.tuning.range.min ≤ nominal ∧ nominal ≤ e.tuning.range.max := by
  cases h with
  | adopted hm h hs hy =>
    obtain ⟨y, hy', hrange⟩ := hn e.tuning.range _ _ _ h hs
    cases hy.symm.trans hy'
    exact hrange

end

/-! ## (2) Results -/

section

variable {e e' : Pid Rat} {p : Calibration.Plan} {r : Calibration.Results} {a : Adoption Rat}

/-- With two samples in every row the points of the line are at the control values of the plan. -/
theorem line?_eq_none_iff (hm : r.matches p = true) (hp : 2 ≤ p.samples) :
    (line? p r : Option (Rat × Rat)) = none ↔ ∀ x ∈ p.points, ∀ y ∈ p.points, x = y := by
  obtain ⟨hl, hrows⟩ := Calibration.Results.matches_iff.mp hm
  have hp : 2 ≤ p.samples.toNat := UInt32.le_iff_toNat_le.mp hp
  have hne : ∀ row ∈ r.rows, row ≠ [] := by
    intro row hrow hnil
    have hrow := hrows row hrow
    rw [hnil, List.length_nil] at hrow
    omega
  have hfst := map_fst_driftPoints (R := Rat) hl hne
  have hall : (∀ u ∈ (driftPoints p.points r.rows : List (Rat × Rat)).map Prod.fst,
      ∀ v ∈ (driftPoints p.points r.rows : List (Rat × Rat)).map Prod.fst, u = v) ↔
      ∀ x ∈ p.points, ∀ y ∈ p.points, x = y := by
    rw [hfst]
    simp only [List.forall_mem_map, Exact.ofInt_toNat_inj]
  rw [line?, LineFit.fit?_eq_none_iff, ← hall]
  simp only [List.forall_mem_map]

/-- Where nothing is lost, results of the right shape come to nothing exactly if their points are not at two different
    control values or their line is level. -/
theorem unusable_iff (hm : r.matches p = true) (hp : 2 ≤ p.samples) (h : Settled e p r a e') :
    a = .unusable ↔
      (∀ x ∈ p.points, ∀ y ∈ p.points, x = y) ∨ ∃ intercept : Rat, line? p r = some (0, intercept) := by
  rw [← line?_eq_none_iff hm hp]
  cases h with
  | mismatched hm' =>
    rw [hm] at hm'
    cases hm'
  | unusable _ h =>
    refine iff_of_true rfl ?_
    cases hline : (line? p r : Option (Rat × Rat)) with
    | none => exact Or.inl rfl
    | some line =>
      obtain ⟨slope, intercept⟩ := line
      have hs : slope = 0 := by simpa [Scalar.isNormal] using h slope intercept hline
      exact Or.inr ⟨intercept, by rw [hs]⟩
  | adopted _ hline hs =>
    refine iff_of_false nofun ?_
    rw [hline]
    intro h
    rcases h with h | ⟨intercept, h⟩
    · cases h
    · cases h
      cases hs

end

/-- Results leave an engine as it was but for the calibration that was due, or it takes gain, center and integral from
    them together, the gain fit to divide by and the center in its range. Of results that have the shape of the plan, and
    two samples or more in each row, an exact engine takes nothing exactly if there are not two different control values
    or the line is level. -/
theorem results_are_taken_as_a_whole :
    (∀ (e e' : Pid Float) (p : Calibration.Plan) (r : Calibration.Results) (a : Adoption Float),
      e.submit p r = some (a, e') → Settled e p r a e' ∧
        ∀ gain nominal, a = .adopted gain nominal → e.tuning.range.min ≤ nominal ∧ nominal ≤ e.tuning.range.max) ∧
    (∀ (e e' : Pid Rat) (p : Calibration.Plan) (r : Calibration.Results) (a : Adoption Rat),
      e.submit p r = some (a, e') → Settled e p r a e' ∧
        (∀ gain nominal, a = .adopted gain nominal → e.tuning.range.min ≤ nominal ∧ nominal ≤ e.tuning.range.max) ∧
        (r.matches p = true → 2 ≤ p.samples →
          (a = .unusable ↔
            (∀ x ∈ p.points, ∀ y ∈ p.points, x = y) ∨ ∃ intercept : Rat, line? p r = some (0, intercept)))) := by
  constructor
  · intro e e' p r a h
    have hs := settled_of_submit h
    refine ⟨hs, fun gain nominal ha => ?_⟩
    subst ha
    exact nominal_in_range hasNominal_float hs
  · intro e e' p r a h
    have hs := settled_of_submit h
    refine ⟨hs, fun gain nominal ha => ?_, fun hm hp => unusable_iff hm hp hs⟩
    subst ha
    exact nominal_in_range hasNominal_rat hs

/-- Drifts of 1 ns/s at 100 and of 5 ns/s at 300 vanish at 50. Two rows at one control value are worth nothing. -/
theorem two_rows_are_taken_or_left :
    (let e : Pid Float := { (default : Pid Float) with pending := true }
      let e' : Pid Float := { (default : Pid Float) with gain := Scalar.ofInt 1 / Scalar.ofInt 50, center := some 50 }
      let p : Calibration.Plan := ⟨[100, 300], 3⟩
      let r : Calibration.Results := ⟨[[0, 1, 2], [10, 15, 20]]⟩
      e.submit p r = some (.adopted e'.gain 50, e') ∧ Settled e p r (.adopted e'.gain 50) e' ∧
        e.tuning.range.min ≤ 50 ∧ 50 ≤ e.tuning.range.max) ∧
    (let e : Pid Rat := { (default : Pid Rat) with pending := true }
      let p : Calibration.Plan := ⟨[200, 200], 2⟩
      let r : Calibration.Results := ⟨[[0, 1], [10, 15]]⟩
      r.matches p = true ∧ 2 ≤ p.samples ∧ e.submit p r = some (.unusable, default) ∧ Settled e p r .unusable default ∧
        ((∀ x ∈ p.points, ∀ y ∈ p.points, x = y) ∨ ∃ intercept : Rat, line? p r = some (0, intercept))) := by
  refine ⟨?_, ?_⟩
  · intro e e' p r
    have h : e.submit p r = some (.adopted e'.gain 50, e') := by decide +kernel
    obtain ⟨hs, hrange⟩ := results_are_taken_as_a_whole.1 e e' p r _ h
    exact ⟨h, hs, hrange _ _ rfl⟩
  · intro e p r
    have h : e.submit p r = some (.unusable, default) := by decide +kernel
    obtain ⟨hs, -, hiff⟩ := results_are_taken_as_a_whole.2 e default p r _ h
    exact ⟨by decide, by decide, h, hs, (hiff (by decide) (by decide)).mp rfl⟩

end Pid

end ClockDiscipline
