/-
  ClockDiscipline.Proofs.DoubleOrder — doubles as numbers.

  A finite double is a rational number, and doubles are compared as these: by exponent
  first and by mantissa between equal exponents, which is the order of the numbers because
  each has one form only. A number that is put between two words and has its fraction cut
  off is a word between them. What is not a number passes a clamp as it is and is cut off
  to 0.

  Proved: (1) comparing is comparing the numbers (`compare_parts`); (2) a whole number is
  the number it says (`value_ofNat`), and cutting off is rounding down (`toNat_toUInt32`);
  (3) a clamp between words always answers, and what its answer is cut off to lies between
  them exactly if it is a number or the lower one is 0 (`clamp?_words`); (4) a clamp between
  a number and its negation answers exactly if the number is not negative
  (`clamp?_neg_self`).
-/

import ClockDiscipline.Proofs.DoubleParts
import Mathlib.Algebra.Order.Field.Power
import Mathlib.Algebra.Order.Floor.Semifield
import Mathlib.Data.Rat.Floor
import Mathlib.Tactic.Linarith

open Float.Model (Format UnpackedFloat)
open Float.Model.UnpackedFloat (ExtendedMantissa Sign)

namespace ClockDiscipline.Binary64

/-! ## (1) Order -/

/-- The number that a double is; 0 stands for those that are none. -/
def value : UnpackedFloat → Rat
  | .finite s m e _ => (s.apply m : Int) * (2 : Rat) ^ e
  | _ => 0

theorem lt_iff_compare (x y : Float) : x < y ↔ (parts x).compare (parts y) = some .lt := by
  change decide ((parts x).compare (parts y) == some .lt) = true ↔ _
  simp

theorem le_iff_compare (x y : Float) : x ≤ y ↔ ((parts x).compare (parts y)).any Ordering.isLE = true := by
  change decide (((parts x).compare (parts y)).any Ordering.isLE = true) = true ↔ _
  simp

section

variable {m n : Nat} {d e : Int} (h : Canonical m e) (h' : Canonical n d)

include h h'

/-- With more digits before the point a number is larger. -/
theorem size_lt_of_lt (he : e < d) : (m : Rat) * 2 ^ e < n * 2 ^ d := by
  have hn : 2 ^ 52 ≤ n := h'.full.resolve_right (by have := h.least; omega)
  have hm : (m : Rat) < 2 ^ 53 := by exact_mod_cast h.digits
  have hn : (2 : Rat) ^ 52 ≤ n := by exact_mod_cast hn
  calc (m : Rat) * 2 ^ e < 2 ^ 53 * 2 ^ e := mul_lt_mul_of_pos_right hm (by positivity)
    _ = 2 ^ 52 * 2 ^ (e + 1) := by
      rw [zpow_add_one₀ (by norm_num)]
      ring
    _ ≤ 2 ^ 52 * 2 ^ d := mul_le_mul_of_nonneg_left (zpow_le_zpow_right₀ (by norm_num) (by omega)) (by positivity)
    _ ≤ n * 2 ^ d := mul_le_mul_of_nonneg_right hn (by positivity)

theorem compare_size : (compare e d).then (compare m n) = compare ((m : Rat) * 2 ^ e) (n * 2 ^ d) := by
  rcases lt_trichotomy e d with he | he | he
  · rw [compare_lt_iff_lt.mpr he, compare_lt_iff_lt.mpr (size_lt_of_lt h h' he)]
    rfl
  · subst he
    have hp : (0 : Rat) < 2 ^ e := by positivity
    rw [compare_eq_iff_eq.mpr rfl]
    rcases lt_trichotomy m n with hm | hm | hm
    · rw [compare_lt_iff_lt.mpr hm, compare_lt_iff_lt.mpr (mul_lt_mul_of_pos_right (Nat.cast_lt.mpr hm) hp)]
      rfl
    · subst hm
      rw [compare_eq_iff_eq.mpr rfl, compare_eq_iff_eq.mpr rfl]
      rfl
    · rw [compare_gt_iff_gt.mpr hm, compare_gt_iff_gt.mpr (mul_lt_mul_of_pos_right (Nat.cast_lt.mpr hm) hp)]
      rfl
  · rw [compare_gt_iff_gt.mpr he, compare_gt_iff_gt.mpr (size_lt_of_lt h' h he)]
    rfl

end

theorem compare_neg_neg (a b : Rat) : compare (-a) (-b) = (compare a b).swap := by
  rcases lt_trichotomy a b with h | h | h
  · rw [compare_lt_iff_lt.mpr h, compare_gt_iff_gt.mpr (neg_lt_neg h)]
    rfl
  · rw [compare_eq_iff_eq.mpr h, compare_eq_iff_eq.mpr (congrArg Neg.neg h)]
    rfl
  · rw [compare_gt_iff_gt.mpr h, compare_lt_iff_lt.mpr (neg_lt_neg h)]
    rfl

theorem value_pos {m : Nat} {e : Int} (hm : 0 < m) : 0 < value (.finite .positive m e hm) := by
  have hm : (0 : Rat) < m := Nat.cast_pos.mpr hm
  change 0 < ((m : Int) : Rat) * 2 ^ e
  rw [Int.cast_natCast]
  positivity

theorem value_neg {m : Nat} {e : Int} (hm : 0 < m) :
    value (.finite .negative m e hm) = -value (.finite .positive m e hm) := by
  change ((-(m : Int) : Int) : Rat) * 2 ^ e = -(((m : Int) : Rat) * 2 ^ e)
  rw [Int.cast_neg, neg_mul]

/-- Finite doubles are compared as numbers. -/
theorem compare_parts {u v : UnpackedFloat} (hu : Fits u) (hv : Fits v) (fu : u.isFinite = true)
    (fv : v.isFinite = true) : u.compare v = some (compare (value u) (value v)) := by
  cases u with
  | notANumber | infinity s => cases fu
  | zero s =>
    cases v with
    | notANumber | infinity t => cases fv
    | zero t => exact congrArg some (compare_eq_iff_eq.mpr rfl).symm
    | finite t n d hn =>
      cases t with
      | positive => exact congrArg some (compare_lt_iff_lt.mpr (value_pos hn)).symm
      | negative =>
        refine congrArg some (compare_gt_iff_gt.mpr ?_).symm
        rw [value_neg]
        exact neg_lt_zero.mpr (value_pos hn)
  | finite s m e hm =>
    cases v with
    | notANumber | infinity t => cases fv
    | zero t =>
      cases s with
      | positive => exact congrArg some (compare_gt_iff_gt.mpr (value_pos hm)).symm
      | negative =>
        refine congrArg some (compare_lt_iff_lt.mpr ?_).symm
        rw [value_neg]
        exact neg_lt_zero.mpr (value_pos hm)
    | finite t n d hn =>
      have hp := value_pos (e := e) hm
      have hq := value_pos (e := d) hn
      have hc : (compare e d).then (compare m n) =
          compare (value (.finite .positive m e hm)) (value (.finite .positive n d hn)) := compare_size hu hv
      cases s with
      | positive =>
        cases t with
        | positive => exact congrArg some hc
        | negative =>
          refine congrArg some (compare_gt_iff_gt.mpr ?_).symm
          rw [value_neg]
          exact (neg_lt_zero.mpr hq).trans hp
      | negative =>
        cases t with
        | positive =>
          refine congrArg some (compare_lt_iff_lt.mpr ?_).symm
          rw [value_neg]
          exact (neg_lt_zero.mpr hp).trans hq
        | negative =>
          rw [value_neg, value_neg, compare_neg_neg, ← hc]
          rfl

section

variable {x y : Float} (hx : (parts x).isFinite = true) (hy : (parts y).isFinite = true)

include hx hy

theorem lt_iff_value : x < y ↔ value (parts x) < value (parts y) := by
  rw [lt_iff_compare, compare_parts (fits_parts x) (fits_parts y) hx hy, Option.some_inj, compare_lt_iff_lt]

theorem le_iff_value : x ≤ y ↔ value (parts x) ≤ value (parts y) := by
  rw [le_iff_compare, compare_parts (fits_parts x) (fits_parts y) hx hy, Option.any_some, Ordering.isLE_iff_ne_gt,
    compare_gt_iff_gt.not, not_lt]

end

/-! ## (2) Whole numbers -/

theorem value_ofNat {n : Nat} (h : n < 2 ^ 53) :
    (parts (Float.ofNat n)).isFinite = true ∧ value (parts (Float.ofNat n)) = n := by
  by_cases h0 : n = 0
  · subst h0
    exact ⟨rfl, rfl⟩
  · obtain ⟨hm, hp⟩ := parts_ofNat (by omega) h
    have hl : n.log2 < 53 := (Nat.log2_lt h0).mpr h
    rw [hp]
    refine ⟨rfl, ?_⟩
    change (((n * 2 ^ (52 - n.log2) : Nat) : Int) : Rat) * 2 ^ ((n.log2 : Int) - 52) = n
    rw [show (n.log2 : Int) - 52 = -((52 - n.log2 : Nat) : Int) by omega, zpow_neg, zpow_natCast]
    push_cast
    rw [mul_assoc, mul_inv_cancel₀ (by positivity), mul_one]

theorem mantissa_shiftRight (k : Nat) (m : ExtendedMantissa) : (m >>> k).mantissa = m.mantissa / 2 ^ k := by
  induction k with
  | zero =>
    rw [Nat.pow_zero, Nat.div_one]
    rfl
  | succ k ih =>
    change (m >>> k).mantissa / 2 = _
    rw [ih, Nat.div_div_eq_div_mul, ← Nat.pow_succ]

theorem roundToInt_eq (s : Sign) (m : Nat) (e : Int) :
    UnpackedFloat.roundToInt s m e = s.apply ((m * 2 ^ e.toNat / 2 ^ (-e).toNat : Nat) : Int) := by
  unfold UnpackedFloat.roundToInt UnpackedFloat.decreaseExponent UnpackedFloat.shiftToExponent
  have h1 : (e - 0).toNat = e.toNat := by omega
  have h2 : (0 - (e - (e.toNat : Int))).toNat = (-e).toNat := by omega
  simp only [h1, h2, mantissa_shiftRight, Nat.shiftLeft_eq]
  rfl

theorem floor_size (m : Nat) (e : Int) : ⌊(m : Rat) * 2 ^ e⌋₊ = m * 2 ^ e.toNat / 2 ^ (-e).toNat := by
  by_cases he : 0 ≤ e
  · obtain ⟨k, rfl⟩ := Int.eq_ofNat_of_zero_le he
    rw [zpow_natCast, Int.toNat_natCast, show (-(k : Int)).toNat = 0 by omega, Nat.pow_zero, Nat.div_one]
    rw [show (m : Rat) * 2 ^ k = ((m * 2 ^ k : Nat) : Rat) by push_cast; rfl, Nat.floor_natCast]
  · obtain ⟨k, hk⟩ := Int.eq_ofNat_of_zero_le (show 0 ≤ -e by omega)
    obtain rfl : e = -(k : Int) := by omega
    rw [zpow_neg, zpow_natCast, ← div_eq_mul_inv, show (-(k : Int)).toNat = 0 by omega, neg_neg, Int.toNat_natCast,
      Nat.pow_zero, Nat.mul_one]
    rw [show (m : Rat) / 2 ^ k = (m : Rat) / ((2 ^ k : Nat) : Rat) by push_cast; rfl, Nat.floor_div_eq_div]

theorem toNat_ofNatClamp (n : Nat) : (UInt32.ofNatClamp n).toNat = min n 4294967295 := by
  unfold UInt32.ofNatClamp
  split
  · rename_i h
    change n < 4294967296 at h
    rw [UInt32.toNat_ofNatLT]
    omega
  · rename_i h
    change ¬n < 4294967296 at h
    change 4294967295 = _
    omega

/-- What is not negative is cut off to the next whole number below. -/
theorem toNat_toUInt32 {x : Float} (hf : (parts x).isFinite = true) (h0 : 0 ≤ value (parts x)) :
    x.toUInt32.toNat = min ⌊value (parts x)⌋₊ 4294967295 := by
  change (UInt32.ofNatClamp ((parts x).toInt 0 (4294967296 - 1)).toNat).toNat = _
  rw [toNat_ofNatClamp]
  congr 1
  cases hu : parts x with
  | notANumber | infinity s =>
    rw [hu] at hf
    cases hf
  | zero s => exact (Nat.floor_zero (R := Rat)).symm
  | finite s m e hm =>
    rw [hu] at h0
    cases s with
    | negative =>
      rw [value_neg] at h0
      exact absurd (value_pos hm) (by linarith)
    | positive =>
      change (UnpackedFloat.roundToInt .positive m e).toNat = ⌊((m : Int) : Rat) * 2 ^ e⌋₊
      rw [roundToInt_eq, Int.cast_natCast, floor_size]
      rfl

theorem toUInt32_of_isNaN {x : Float} (h : x.isNaN = true) : x.toUInt32 = 0 := by
  change UInt32.ofNatClamp ((parts x).toInt 0 (4294967296 - 1)).toNat = 0
  change (parts x).isNaN = true at h
  cases hu : parts x with
  | notANumber => rfl
  | _ =>
    rw [hu] at h
    cases h

/-! ## (3) Clamps between words -/

theorem toUInt32_ofNat (w : UInt32) : (Float.ofNat w.toNat).toUInt32 = w := by
  have hw := w.toNat_lt
  obtain ⟨hf, hv⟩ := value_ofNat (n := w.toNat) (by omega)
  apply UInt32.toNat_inj.mp
  rw [toNat_toUInt32 hf (by rw [hv]; exact Nat.cast_nonneg _), hv, Nat.floor_natCast]
  omega

/-- Every number lies between the two infinite doubles. -/
theorem compare_infinity {u : UnpackedFloat} (hu : u.isFinite = true) :
    u.compare (.infinity .positive) = some .lt ∧ (UnpackedFloat.infinity .negative).compare u = some .lt := by
  cases u with
  | notANumber | infinity s => cases hu
  | zero s => cases s <;> exact ⟨rfl, rfl⟩
  | finite s m e hm => cases s <;> exact ⟨rfl, rfl⟩

/-- What is neither below one number nor above another is a number between them. -/
theorem value_between {a b x : Float} (ha : (parts a).isFinite = true) (hb : (parts b).isFinite = true)
    (hn : x.isNaN = false) (h1 : ¬x < a) (h2 : ¬b < x) :
    (parts x).isFinite = true ∧ value (parts a) ≤ value (parts x) ∧ value (parts x) ≤ value (parts b) := by
  have hx : (parts x).isFinite = true := by
    rw [lt_iff_compare] at h1 h2
    rw [isNaN_eq] at hn
    cases hu : parts x with
    | notANumber =>
      rw [hu] at hn
      cases hn
    | infinity s =>
      rw [hu] at h1 h2
      cases s with
      | positive => exact absurd (compare_infinity hb).1 h2
      | negative => exact absurd (compare_infinity ha).2 h1
    | _ => rfl
  rw [lt_iff_value hx ha, not_lt] at h1
  rw [lt_iff_value hb hx, not_lt] at h2
  exact ⟨hx, h1, h2⟩

theorem not_lt_of_isNaN {x : Float} (hn : x.isNaN = true) (y : Float) : ¬x < y ∧ ¬y < x := by
  rw [lt_iff_compare, lt_iff_compare]
  rw [isNaN_eq] at hn
  cases hu : parts x with
  | notANumber => cases parts y <;> exact ⟨nofun, nofun⟩
  | _ =>
    rw [hu] at hn
    cases hn

/-- A number between two words is cut off to a word between them. -/
theorem toUInt32_between {lo hi : UInt32} {x : Float} (hn : x.isNaN = false) (h1 : ¬x < Float.ofNat lo.toNat)
    (h2 : ¬Float.ofNat hi.toNat < x) : lo ≤ x.toUInt32 ∧ x.toUInt32 ≤ hi := by
  have hl := lo.toNat_lt
  have hh := hi.toNat_lt
  obtain ⟨fl, vl⟩ := value_ofNat (n := lo.toNat) (by omega)
  obtain ⟨fh, vh⟩ := value_ofNat (n := hi.toNat) (by omega)
  obtain ⟨fx, h1, h2⟩ := value_between fl fh hn h1 h2
  rw [vl] at h1
  rw [vh] at h2
  have h0 : 0 ≤ value (parts x) := le_trans (Nat.cast_nonneg _) h1
  have h1 := Nat.le_floor h1
  have h2 := Nat.floor_le_of_le h2
  rw [UInt32.le_iff_toNat_le, UInt32.le_iff_toNat_le, toNat_toUInt32 fx h0]
  omega

/-- A clamp between words has an answer. Cut off, it lies between them unless it is no number, which becomes 0. -/
theorem clamp?_words {lo hi : UInt32} (h : lo ≤ hi) (x : Float) :
    ∃ y, Scalar.clamp? (Scalar.ofInt (lo.toNat : Int)) (Scalar.ofInt (hi.toNat : Int)) x = some y ∧
      (lo ≤ Scalar.toUInt32 y ∧ Scalar.toUInt32 y ≤ hi ↔ lo = 0 ∨ x.isNaN = false) ∧
      (x.isNaN = true → Scalar.toUInt32 y = 0) := by
  have hl := lo.toNat_lt
  have hh := hi.toNat_lt
  obtain ⟨fl, vl⟩ := value_ofNat (n := lo.toNat) (by omega)
  obtain ⟨fh, vh⟩ := value_ofNat (n := hi.toNat) (by omega)
  have hle : Float.ofNat lo.toNat ≤ Float.ofNat hi.toNat := by
    rw [le_iff_value fl fh, vl, vh]
    exact Nat.cast_le.mpr h
  suffices hs : ∃ y, (if x < Float.ofNat lo.toNat then Float.ofNat lo.toNat
      else if Float.ofNat hi.toNat < x then Float.ofNat hi.toNat else x) = y ∧
      (lo ≤ y.toUInt32 ∧ y.toUInt32 ≤ hi ↔ lo = 0 ∨ x.isNaN = false) ∧ (x.isNaN = true → y.toUInt32 = 0) by
    obtain ⟨y, rfl, hy⟩ := hs
    exact ⟨_, if_pos hle, hy⟩
  cases hn : x.isNaN with
  | true =>
    rw [if_neg (not_lt_of_isNaN hn _).1, if_neg (not_lt_of_isNaN hn _).2]
    refine ⟨x, rfl, ?_⟩
    rw [toUInt32_of_isNaN hn]
    simp
  | false =>
    refine ⟨_, rfl, iff_of_true ?_ (Or.inr rfl), nofun⟩
    split
    · rw [toUInt32_ofNat]
      exact ⟨UInt32.le_refl lo, h⟩
    rename_i h1
    split
    · rw [toUInt32_ofNat]
      exact ⟨h, UInt32.le_refl hi⟩
    rename_i h2
    exact toUInt32_between hn h1 h2

/-! ## (4) Clamps around zero -/

theorem parts_neg (x : Float) : parts (-x) = (parts x).neg := by
  have hf := fits_parts x
  change (Float.Model.pack (parts x).neg).unpack = _
  refine unpack_pack ?_
  cases hu : parts x with
  | finite s m e hm =>
    rw [hu] at hf
    exact hf
  | _ => trivial

theorem neg_le_self_iff {x : Float} : -x ≤ x ↔ 0 ≤ x := by
  rw [le_iff_compare, le_iff_compare, parts_neg]
  change _ ↔ ((UnpackedFloat.zero .positive).compare (parts x)).any Ordering.isLE = true
  cases parts x with
  | notANumber => exact Iff.rfl
  | infinity s | zero s | finite s => cases s <;> exact Iff.rfl

/-- A clamp between a number and its negation has an answer where the number is not negative. -/
theorem clamp?_neg_self {m : Float} (x : Float) : (Scalar.clamp? (-m) m x).isSome = true ↔ 0 ≤ m := by
  rw [← neg_le_self_iff]
  change (Binary64.clamp? (-m) m x).isSome = true ↔ _
  unfold Binary64.clamp?
  split <;> simpa

end ClockDiscipline.Binary64
