/-
  ClockDiscipline.Proofs.ExactLine — exact arithmetic on integers, and the line through points on a line.

  Over the rationals nothing is lost but by rounding, which gives the nearest integer and
  keeps the order. An integer is its own nearest integer and its own whole part, and a clamp
  is a least and a greatest value. The least-squares line through points that lie on one
  line is that line, as soon as two of them are not above each other.

  Proved: (1) rounding (`nearest_roundToInt`, `roundToInt_mono`) and clamping
  (`clamp?_eq_some`), and both with conversion on integers (`round_intCast`,
  `clamp?_intCast`, `clamp?_toNat`, `toInt32_intCast`, `ofInt_toNat_inj`,
  `toUInt32_toNat`, `toNat_toUInt32`); (2) the line through points on a line
  (`fit?_of_line`), and that points which are all above each other have none
  (`fit?_eq_none_iff`).
-/

import ClockDiscipline.Control
import ClockDiscipline.Engine.LineFit
import ClockDiscipline.Number.Exact
import Mathlib.Algebra.BigOperators.Ring.List
import Mathlib.Algebra.Order.BigOperators.Group.List
import Mathlib.Algebra.Order.Field.Rat
import Mathlib.Tactic.FieldSimp
import Mathlib.Tactic.Linarith
import Mathlib.Tactic.NormNum
import Mathlib.Tactic.Ring

namespace ClockDiscipline

/-! ## (1) Numbers -/

namespace Exact

theorem floor_add_half (n : Int) : ((n : Rat) + 1 / 2).floor = n := by
  have h1 := Rat.floor_le ((n : Rat) + 1 / 2)
  have h2 := Rat.lt_floor_add_one ((n : Rat) + 1 / 2)
  have h3 : ((n : Rat) + 1 / 2).floor < n + 1 := by
    have : (((n : Rat) + 1 / 2).floor : Rat) < ((n + 1 : Int) : Rat) := by push_cast; linarith
    exact_mod_cast this
  have h4 : n < ((n : Rat) + 1 / 2).floor + 1 := by
    have : (n : Rat) < ((((n : Rat) + 1 / 2).floor + 1 : Int) : Rat) := by linarith
    exact_mod_cast this
  omega

/-- Rounding moves a number by a half at most. -/
theorem abs_sub_roundToInt_le (x : Rat) : |x - roundToInt x| ≤ 1 / 2 := by
  unfold roundToInt
  rw [abs_le]
  split
  · have h1 := Rat.floor_le (x + 1 / 2)
    have h2 := Rat.lt_floor_add_one (x + 1 / 2)
    push_cast at h2
    constructor <;> linarith
  · have h1 := Rat.floor_le (-x + 1 / 2)
    have h2 := Rat.lt_floor_add_one (-x + 1 / 2)
    push_cast at h2 ⊢
    constructor <;> linarith

theorem roundToInt_nonneg {x : Rat} (h : 0 ≤ x) : 0 ≤ roundToInt x := by
  rw [roundToInt, if_pos h, Rat.le_floor_iff]
  push_cast
  linarith

theorem roundToInt_nonpos {x : Rat} (h : x < 0) : roundToInt x ≤ 0 := by
  rw [roundToInt, if_neg (not_le.mpr h), neg_nonpos, Rat.le_floor_iff]
  push_cast
  linarith

/-- Rounding keeps the order. -/
theorem roundToInt_mono {x y : Rat} (h : x ≤ y) : roundToInt x ≤ roundToInt y := by
  rcases lt_or_ge x 0 with hx | hx
  · rcases lt_or_ge y 0 with hy | hy
    · rw [roundToInt, roundToInt, if_neg (not_le.mpr hx), if_neg (not_le.mpr hy), neg_le_neg_iff]
      exact Rat.floor_monotone (by linarith)
    · exact (roundToInt_nonpos hx).trans (roundToInt_nonneg hy)
  · rw [roundToInt, roundToInt, if_pos hx, if_pos (hx.trans h)]
    exact Rat.floor_monotone (by linarith)

/-- The integer next to a number, and of two that are as close the one farther from zero. -/
structure Nearest (x : Rat) (n : Int) : Prop where
  close : |x - n| ≤ 1 / 2
  away : |x - n| = 1 / 2 → |x| < |(n : Rat)|

theorem nearest_roundToInt (x : Rat) : Nearest x (roundToInt x) where
  close := abs_sub_roundToInt_le x
  away h := by
    -- The floor that rounding takes leaves less than a half on the side of zero.
    rcases lt_or_ge x 0 with hx | hx
    · have hn : (roundToInt x : Rat) ≤ 0 := by exact_mod_cast roundToInt_nonpos hx
      rw [abs_of_neg hx, abs_of_nonpos hn]
      have hl := Rat.lt_floor_add_one (-x + 1 / 2)
      have hr : (roundToInt x : Rat) = -((-x + 1 / 2).floor : Rat) := by
        rw [roundToInt, if_neg (not_le.mpr hx), Int.cast_neg]
      push_cast at hl
      rcases abs_eq (by norm_num) |>.mp h with h | h <;> linarith
    · have hn : (0 : Rat) ≤ roundToInt x := by exact_mod_cast roundToInt_nonneg hx
      rw [abs_of_nonneg hx, abs_of_nonneg hn]
      have hl := Rat.lt_floor_add_one (x + 1 / 2)
      have hr : (roundToInt x : Rat) = ((x + 1 / 2).floor : Rat) := by rw [roundToInt, if_pos hx]
      push_cast at hl
      rcases abs_eq (by norm_num) |>.mp h with h | h <;> linarith

theorem clamp?_eq_some {lo hi : Rat} (h : lo ≤ hi) (x : Rat) : Scalar.clamp? lo hi x = some (max lo (min x hi)) := by
  change Exact.clamp? lo hi x = _
  rw [clamp?, if_pos h]
  congr 1
  split_ifs with h1 h2
  · rw [min_eq_left (h1.le.trans h), max_eq_left h1.le]
  · rw [min_eq_right h2.le, max_eq_right h]
  · rw [min_eq_left (not_lt.mp h2), max_eq_right (not_lt.mp h1)]

theorem roundToInt_intCast (n : Int) : roundToInt (n : Rat) = n := by
  unfold roundToInt
  split
  · exact floor_add_half n
  · rw [← Int.cast_neg, floor_add_half, neg_neg]

theorem truncate_intCast (n : Int) : truncate (n : Rat) = n := by
  unfold truncate
  split
  · exact Rat.floor_intCast n
  · rw [← Int.cast_neg, Rat.floor_intCast, neg_neg]

theorem round_intCast (n : Int) : Scalar.round (n : Rat) = (n : Rat) :=
  congrArg Int.cast (roundToInt_intCast n)

theorem clamp?_intCast {lo hi : Int} (h : lo ≤ hi) (n : Int) :
    Scalar.clamp? (lo : Rat) (hi : Rat) (n : Rat) = some ((if n < lo then lo else if hi < n then hi else n : Int) : Rat) := by
  change Exact.clamp? (lo : Rat) hi n = _
  have hr : (lo : Rat) ≤ hi := by exact_mod_cast h
  simp only [clamp?, if_pos hr, Int.cast_lt, apply_ite (Int.cast : Int → Rat)]

theorem toInt32_intCast {n : Int} (h1 : -2147483648 ≤ n) (h2 : n ≤ 2147483647) :
    Scalar.toInt32 (n : Rat) = Int32.ofInt n := by
  change Int32.ofInt (max (-2147483648) (min (truncate n) 2147483647)) = _
  rw [truncate_intCast, min_eq_left h2, max_eq_right h1]

theorem ofInt_toNat_inj {x y : UInt32} :
    (Scalar.ofInt (x.toNat : Int) : Rat) = Scalar.ofInt (y.toNat : Int) ↔ x = y := by
  change ((x.toNat : Int) : Rat) = ((y.toNat : Int) : Rat) ↔ x = y
  rw [Int.cast_inj, Int.natCast_inj, UInt32.toNat_inj]

theorem toUInt32_toNat (v : UInt32) : Scalar.toUInt32 (((v.toNat : Int)) : Rat) = v := by
  change UInt32.ofNat (max 0 (min (truncate ((v.toNat : Int) : Rat)) 4294967295)).toNat = v
  have hv := v.toNat_lt
  rw [truncate_intCast, min_eq_left (by omega), max_eq_right (by omega), Int.toNat_natCast, UInt32.ofNat_toNat]

theorem toNat_toUInt32 {n : Int} (h0 : 0 ≤ n) (h1 : n < 4294967296) : ((Scalar.toUInt32 (n : Rat)).toNat : Int) = n := by
  change ((UInt32.ofNat (max 0 (min (truncate n) 4294967295)).toNat).toNat : Int) = n
  rw [truncate_intCast, min_eq_left (by omega), max_eq_right h0, UInt32.toNat_ofNat_of_lt' (by simp [UInt32.size]; omega),
    Int.toNat_of_nonneg h0]

/-- A control value put into a range as a number is the value put into it as a word. -/
theorem clamp?_toNat (r : DacRange) (v : UInt32) :
    Scalar.clamp? ((r.min.toNat : Int) : Rat) ((r.max.toNat : Int) : Rat) ((v.toNat : Int) : Rat) =
      some (((r.clamp v).toNat : Int) : Rat) := by
  have ho : (r.min.toNat : Int) ≤ r.max.toNat := by exact_mod_cast UInt32.le_iff_toNat_le.mp r.ordered
  rw [clamp?_intCast ho, DacRange.clamp]
  simp only [UInt32.lt_iff_toNat_lt, Nat.cast_lt]
  split
  · rfl
  · split <;> rfl

end Exact

/-! ## (2) Lines -/

namespace LineFit

theorem sum_eq (xs : List Rat) : sum xs = xs.sum := List.sum_eq_foldl.symm

theorem mean_eq (xs : List Rat) : mean xs = xs.sum / xs.length := by
  change sum xs / ((xs.length : Int) : Rat) = _
  rw [sum_eq, Int.cast_natCast]

variable {points : List (Rat × Rat)} {a b : Rat}

/-- The mean of points on a line lies on the line. -/
theorem mean_of_line (h : ∀ p ∈ points, p.2 = a * p.1 + b) (hn : points ≠ []) :
    mean (points.map (·.2)) = a * mean (points.map (·.1)) + b := by
  have hs : points.map (·.2) = points.map fun p => a * p.1 + b := List.map_congr_left h
  have hl : (points.length : Rat) ≠ 0 := by
    rw [Nat.cast_ne_zero]
    exact mt List.length_eq_zero_iff.mp hn
  rw [mean_eq, mean_eq, hs, List.sum_map_add, List.sum_map_mul_left, List.map_const', List.sum_replicate, List.length_map,
    List.length_map, nsmul_eq_mul]
  field_simp

/-- Points that are not all above each other are spread out. -/
theorem spread_ne_zero {p q : Rat × Rat} (hp : p ∈ points) (hq : q ∈ points) (hpq : p.1 ≠ q.1) (m : Rat) :
    (points.map fun p => (p.1 - m) * (p.1 - m)).sum ≠ 0 := by
  intro h0
  have hz : ∀ r ∈ points, r.1 = m := by
    intro r hr
    have hnn : ∀ x ∈ points.map (fun p => (p.1 - m) * (p.1 - m)), 0 ≤ x := by
      intro x hx
      obtain ⟨s, -, rfl⟩ := List.mem_map.mp hx
      exact mul_self_nonneg _
    have := List.all_zero_of_le_zero_le_of_sum_eq_zero hnn h0 (List.mem_map_of_mem hr)
    exact sub_eq_zero.mp (mul_self_eq_zero.mp this)
  exact hpq ((hz p hp).trans (hz q hq).symm)

/-- The line through at least two points, by the two sums that it is made from. -/
theorem fit?_of_sums {mx my sxx sxy : Rat} (hlen : ¬points.length < 2) (hmx : mean (points.map (·.1)) = mx)
    (hmy : mean (points.map (·.2)) = my) (hxx : (points.map fun p => (p.1 - mx) * (p.1 - mx)).sum = sxx)
    (hxy : (points.map fun p => (p.1 - mx) * (p.2 - my)).sum = sxy) (h0 : sxx ≠ 0) :
    fit? points = some (sxy / sxx, my - sxy / sxx * mx) := by
  subst hmx hmy hxx hxy
  rw [← sum_eq] at h0
  rw [← sum_eq, ← sum_eq]
  exact (if_neg hlen).trans (if_neg (mt eq_of_beq h0))

theorem two_le_length {p q : Rat × Rat} (hp : p ∈ points) (hq : q ∈ points) (hpq : p.1 ≠ q.1) :
    ¬points.length < 2 := by
  intro hlt
  obtain ⟨r, rfl⟩ : ∃ r, points = [r] :=
    List.length_eq_one_iff.mp (by have := List.length_pos_of_mem hp; omega)
  rw [List.mem_singleton.mp hp, List.mem_singleton.mp hq] at hpq
  exact hpq rfl

theorem fit?_of_line (h : ∀ p ∈ points, p.2 = a * p.1 + b) {p q : Rat × Rat} (hp : p ∈ points) (hq : q ∈ points)
    (hpq : p.1 ≠ q.1) : fit? points = some (a, b) := by
  have hlen := two_le_length hp hq hpq
  generalize hmx : mean (points.map (·.1)) = mx
  have hmy : mean (points.map (·.2)) = a * mx + b := hmx ▸ mean_of_line h (List.ne_nil_of_mem hp)
  have h0 := spread_ne_zero hp hq hpq mx
  generalize hxx : (points.map fun p => (p.1 - mx) * (p.1 - mx)).sum = sxx at h0
  -- A point of the line is as far above the mean as the slope takes it.
  have hxy : (points.map fun p => (p.1 - mx) * (p.2 - (a * mx + b))).sum = a * sxx := by
    rw [← hxx, ← List.sum_map_mul_left]
    refine congrArg List.sum (List.map_congr_left fun r hr => ?_)
    rw [h r hr]
    ring
  rw [fit?_of_sums hlen hmx hmy hxx hxy h0, mul_div_cancel_right₀ a h0, add_sub_cancel_left]

/-- Points that are all above each other have their mean above them too. -/
theorem spread_eq_zero {m : Rat} (h : ∀ p ∈ points, p.1 = m) (hn : points ≠ []) :
    mean (points.map (·.1)) = m ∧ (points.map fun p => (p.1 - m) * (p.1 - m)).sum = 0 := by
  have hl : (points.length : Rat) ≠ 0 := by
    rw [Nat.cast_ne_zero]
    exact mt List.length_eq_zero_iff.mp hn
  have hx : points.map (·.1) = points.map fun _ => m := List.map_congr_left h
  have hs : (points.map fun p => (p.1 - m) * (p.1 - m)) = points.map fun _ => (0 : Rat) := by
    refine List.map_congr_left fun p hp => ?_
    rw [h p hp, sub_self, mul_zero]
  constructor
  · rw [mean_eq, hx, List.map_const', List.sum_replicate, List.length_replicate, nsmul_eq_mul, mul_div_cancel_left₀ m hl]
  · rw [hs, List.map_const', List.sum_replicate, nsmul_zero]

/-- There is no line exactly through points that are all above each other. -/
theorem fit?_eq_none_iff : fit? points = none ↔ ∀ p ∈ points, ∀ q ∈ points, p.1 = q.1 := by
  constructor
  · intro h p hp q hq
    by_contra hpq
    have h0 := spread_ne_zero hp hq hpq (mean (points.map (·.1)))
    rw [fit?_of_sums (two_le_length hp hq hpq) rfl rfl rfl rfl h0] at h
    cases h
  · intro h
    unfold fit?
    split
    · rfl
    rename_i hlen
    obtain ⟨p, hp⟩ := List.exists_mem_of_length_pos (l := points) (by omega)
    obtain ⟨hm, hs⟩ := spread_eq_zero (fun q hq => h q hq p hp) (List.ne_nil_of_mem hp)
    simp only [hm, sum_eq, hs]
    rfl

end LineFit

end ClockDiscipline
