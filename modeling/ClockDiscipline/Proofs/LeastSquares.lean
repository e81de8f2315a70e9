/-
  ClockDiscipline.Proofs.LeastSquares — the fitted line is the one of least squares.

  The distance of points from a line is the sum of the squares of their distances from it,
  taken upright. Seen from the mean of the points it is a square in the slope, and one in
  the height at the mean, above what the points leave to any line; so the line that makes
  both zero is nearer than every other. Which line that is depends on the points alone, not
  on their order.

  Proved: (1) how much farther a line is than the fitted one (`distance_eq`); (2) the fitted
  line is the one that is nearer than every other, and there is none exactly where fewer
  than two points are given or all are above each other
  (`the_fitted_line_has_least_squares`).
-/

import ClockDiscipline.Proofs.ExactLine

namespace ClockDiscipline.LineFit

variable {points others : List (Rat × Rat)} {line : Rat × Rat}

/-- How far a line, by its slope and intercept, is from points: the sum of the squares of the upright distances. -/
def distance (points : List (Rat × Rat)) (line : Rat × Rat) : Rat :=
  (points.map fun p => (p.2 - line.1 * p.1 - line.2) ^ 2).sum

/-- Every other line is farther. -/
def Nearest (points : List (Rat × Rat)) (line : Rat × Rat) : Prop :=
  ∀ other, other ≠ line → distance points line < distance points other

/-! ## (1) Squares -/

/-- The distances from the mean cancel. -/
theorem sum_sub_mean (xs : List Rat) : (xs.map fun x => x - mean xs).sum = 0 := by
  rcases eq_or_ne xs [] with rfl | hn
  · rfl
  have hl : (xs.length : Rat) ≠ 0 := Nat.cast_ne_zero.mpr (mt List.length_eq_zero_iff.mp hn)
  simp only [sub_eq_add_neg, List.sum_map_add, List.map_id', List.map_const', List.sum_replicate, nsmul_eq_mul]
  rw [mean_eq, mul_neg, mul_div_cancel₀ _ hl, add_neg_cancel]

/-- The distance of a line, by the sums that the fitted line is made from. -/
theorem distance_of_sums {mx my sxx sxy : Rat} (hmx : mean (points.map (·.1)) = mx)
    (hmy : mean (points.map (·.2)) = my) (hxx : (points.map fun p => (p.1 - mx) * (p.1 - mx)).sum = sxx)
    (hxy : (points.map fun p => (p.1 - mx) * (p.2 - my)).sum = sxy) (line : Rat × Rat) :
    distance points line = (points.map fun p => (p.2 - my) * (p.2 - my)).sum - 2 * line.1 * sxy + line.1 ^ 2 * sxx +
      points.length * (my - line.1 * mx - line.2) ^ 2 := by
  have hx : (points.map fun p => p.1 - mx).sum = 0 := by
    have h := sum_sub_mean (points.map (·.1))
    rwa [hmx, List.map_map] at h
  have hy : (points.map fun p => p.2 - my).sum = 0 := by
    have h := sum_sub_mean (points.map (·.2))
    rwa [hmy, List.map_map] at h
  generalize hc : my - line.1 * mx - line.2 = c
  have hp : ∀ p ∈ points, (p.2 - line.1 * p.1 - line.2) ^ 2 = (p.2 - my) * (p.2 - my) +
      -2 * line.1 * ((p.1 - mx) * (p.2 - my)) + line.1 ^ 2 * ((p.1 - mx) * (p.1 - mx)) + 2 * c * (p.2 - my) +
      -2 * line.1 * c * (p.1 - mx) + c ^ 2 := by
    intro p _
    rw [← hc]
    ring
  rw [distance, List.map_congr_left hp]
  simp only [List.sum_map_add, List.sum_map_mul_left, hxx, hxy, hx, hy, List.map_const', List.sum_replicate, nsmul_eq_mul]
  ring

/-- What a line is farther than the fitted one: a square for its slope, and one for its height at the mean. -/
theorem distance_eq {mx my sxx sxy : Rat} (hmx : mean (points.map (·.1)) = mx) (hmy : mean (points.map (·.2)) = my)
    (hxx : (points.map fun p => (p.1 - mx) * (p.1 - mx)).sum = sxx)
    (hxy : (points.map fun p => (p.1 - mx) * (p.2 - my)).sum = sxy) (h0 : sxx ≠ 0) (line : Rat × Rat) :
    distance points line = distance points (sxy / sxx, my - sxy / sxx * mx) + sxx * (line.1 - sxy / sxx) ^ 2 +
      points.length * (my - line.1 * mx - line.2) ^ 2 := by
  rw [distance_of_sums hmx hmy hxx hxy line, distance_of_sums hmx hmy hxx hxy (sxy / sxx, my - sxy / sxx * mx)]
  field_simp
  ring

/-! ## (2) The fitted line -/

/-- Points of which two are not above each other have a fitted line, and it is the nearest. -/
theorem exists_nearest {p q : Rat × Rat} (hp : p ∈ points) (hq : q ∈ points) (hpq : p.1 ≠ q.1) :
    ∃ line, fit? points = some line ∧ Nearest points line := by
  generalize hmx : mean (points.map (·.1)) = mx
  generalize hmy : mean (points.map (·.2)) = my
  have h0 := spread_ne_zero hp hq hpq mx
  have hpos : 0 ≤ (points.map fun p => (p.1 - mx) * (p.1 - mx)).sum :=
    List.sum_nonneg (List.forall_mem_map.mpr fun p _ => mul_self_nonneg _)
  generalize hxx : (points.map fun p => (p.1 - mx) * (p.1 - mx)).sum = sxx at h0 hpos
  generalize hxy : (points.map fun p => (p.1 - mx) * (p.2 - my)).sum = sxy
  refine ⟨_, fit?_of_sums (two_le_length hp hq hpq) hmx hmy hxx hxy h0, fun other hne => ?_⟩
  have hsxx : 0 < sxx := hpos.lt_of_ne' h0
  have hlen : (0 : Rat) < points.length := Nat.cast_pos.mpr (List.length_pos_of_mem hp)
  rw [distance_eq hmx hmy hxx hxy h0 other]
  by_cases hs : other.1 = sxy / sxx
  · -- The slope is the same, so the height at the mean is another.
    have hb : my - other.1 * mx - other.2 ≠ 0 := by
      intro hb
      refine hne (Prod.ext hs ?_)
      rw [← hs]
      exact (sub_eq_zero.mp hb).symm
    have h1 : 0 ≤ sxx * (other.1 - sxy / sxx) ^ 2 := mul_nonneg hpos (sq_nonneg _)
    have h2 : 0 < points.length * (my - other.1 * mx - other.2) ^ 2 := mul_pos hlen (sq_pos_of_ne_zero hb)
    linarith
  · have h1 : 0 < sxx * (other.1 - sxy / sxx) ^ 2 := mul_pos hsxx (sq_pos_of_ne_zero (sub_ne_zero.mpr hs))
    have h2 : 0 ≤ points.length * (my - other.1 * mx - other.2) ^ 2 := mul_nonneg hlen.le (sq_nonneg _)
    linarith

/-- Of points that are all above each other no line is the nearest: turned about them it stays as far. -/
theorem not_nearest {m : Rat} (h : ∀ p ∈ points, p.1 = m) (line : Rat × Rat) : ¬Nearest points line := by
  intro hn
  have hd : distance points (line.1 + 1, line.2 - m) = distance points line := by
    refine congrArg List.sum (List.map_congr_left fun p hp => ?_)
    rw [h p hp]
    ring
  have hne : (line.1 + 1, line.2 - m) ≠ line := fun he => by
    have := congrArg Prod.fst he
    simp at this
  exact lt_irrefl _ (hd ▸ hn _ hne)

theorem fit?_eq_some_iff : fit? points = some line ↔ Nearest points line := by
  by_cases hx : ∀ p ∈ points, ∀ q ∈ points, p.1 = q.1
  · rw [fit?_eq_none_iff.mpr hx]
    obtain ⟨m, hm⟩ : ∃ m, ∀ p ∈ points, p.1 = m := by
      rcases points with _ | ⟨q, points⟩
      · exact ⟨0, fun p hp => nomatch hp⟩
      · exact ⟨q.1, fun p hp => hx p hp q List.mem_cons_self⟩
    exact iff_of_false nofun (not_nearest hm line)
  · push Not at hx
    obtain ⟨p, hp, q, hq, hpq⟩ := hx
    obtain ⟨l, hl, hnear⟩ := exists_nearest hp hq hpq
    rw [hl, Option.some.injEq]
    constructor
    · rintro rfl
      exact hnear
    · intro hline
      by_contra hne
      exact lt_asymm (hnear line (Ne.symm hne)) (hline l hne)

theorem distance_perm (h : others.Perm points) (line : Rat × Rat) : distance others line = distance points line :=
  (h.map _).sum_eq

theorem the_fitted_line_has_least_squares (points : List (Rat × Rat)) :
    (fit? points = none ↔ points.length < 2 ∨ ∀ p ∈ points, ∀ q ∈ points, p.1 = q.1) ∧
    (∀ line, fit? points = some line ↔ Nearest points line) ∧
    (∀ others, others.Perm points → fit? others = fit? points) ∧
    (∀ a b, (∀ p ∈ points, p.2 = a * p.1 + b) → fit? points ≠ none → fit? points = some (a, b)) := by
  refine ⟨?_, fun line => fit?_eq_some_iff, fun others h => ?_, fun a b h hn => ?_⟩
  · rw [fit?_eq_none_iff, iff_or_self]
    -- One point is above itself, and no point is above all others.
    intro hlt p hp q hq
    by_contra hpq
    exact two_le_length hp hq hpq hlt
  · refine Option.ext fun line => ?_
    rw [fit?_eq_some_iff, fit?_eq_some_iff]
    simp only [Nearest, distance_perm h]
  · rw [Ne, fit?_eq_none_iff] at hn
    push Not at hn
    obtain ⟨p, hp, q, hq, hpq⟩ := hn
    exact fit?_of_line h hp hq hpq

/-- Of three points the last two count against the first, in whichever order they come; two points are on a line. -/
theorem three_points_have_a_nearest_line :
    fit? [(0, 0), (1, 2), (2, 1)] = some ((1 / 2, 1 / 2) : Rat × Rat) ∧
      Nearest [(0, 0), (1, 2), (2, 1)] (1 / 2, 1 / 2) ∧
      fit? [(2, 1), (0, 0), (1, 2)] = some ((1 / 2, 1 / 2) : Rat × Rat) ∧
      fit? [(0, 1), (1, 3)] = some ((2, 1) : Rat × Rat) := by
  obtain ⟨-, hnear, horder, -⟩ := the_fitted_line_has_least_squares [(0, 0), (1, 2), (2, 1)]
  obtain ⟨-, -, -, honline⟩ := the_fitted_line_has_least_squares [(0, 1), (1, 3)]
  have hfit : fit? [(0, 0), (1, 2), (2, 1)] = some ((1 / 2, 1 / 2) : Rat × Rat) := by decide +kernel
  refine ⟨hfit, (hnear _).mp hfit, ?_, honline 2 1 (by decide +kernel) (by decide +kernel)⟩
  rw [horder _ (by decide +kernel), hfit]

end ClockDiscipline.LineFit
