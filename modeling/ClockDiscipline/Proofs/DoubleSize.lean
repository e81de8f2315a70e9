/-
  ClockDiscipline.Proofs.DoubleSize — how large doubles can become.

  Rounding a result adds at most one to its exponent, and only an exponent that cannot be
  written makes a result infinite. So a product of two numbers whose sizes leave room for
  each other is a number, and a sum of two numbers is one or infinite.

  Proved: (1) rounding adds at most one to an exponent (`exponent_roundWithAccuracy`), and
  with an exponent that can be written the result is finite (`isFinite_pack`); (2) a
  product is finite if the sizes allow it (`isFinite_mul`), neither a sum nor a product of
  numbers is ever undefined (`isNaN_add`, `isNaN_mul`), and neither whole numbers
  (`below_ofInt`) nor what was put between a number and its negation (`below_clamp?`) are
  larger than they say.
-/

import ClockDiscipline.Proofs.DoubleOrder

open Float.Model (Format UnpackedFloat)
open Float.Model.UnpackedFloat (ExtendedMantissa Sign packComponents)

namespace ClockDiscipline.Binary64

/-! ## (1) Exponents -/

theorem isFinite_pack (s : Sign) {m : Nat} {e : Int} (hm : 0 < m) (he : e ≤ 971) :
    (Float.Model.pack (.finite s m e hm)).unpack.isFinite = true := by
  have hb : ¬2 ^ 11 ≤ (e + (1023 : Nat) + (52 : Nat)).toNat + 1 := by omega
  change (UnpackedFloat.unpack Format.binary64 (UnpackedFloat.pack Format.binary64 (.finite s m e hm))).isFinite = true
  have hf (b : BitVec 11) (f : BitVec 52) (hb : b.toNat < 2047) :
      (UnpackedFloat.unpack Format.binary64 (packComponents Format.binary64 s b f)).isFinite = true := by
    have hb : b ≠ -1#11 := by
      rintro rfl
      exact absurd hb (by decide)
    rw [unpack_packComponents]
    rcases ofFields_cases s b f with ⟨h, -⟩ | ⟨h, -⟩ | ⟨-, -, h⟩ | ⟨-, -, hm, h⟩ | ⟨-, -, hm, h⟩
    · exact absurd h hb
    · exact absurd h hb
    · rw [h]
      rfl
    · rw [h]
      rfl
    · rw [h]
      rfl
  unfold UnpackedFloat.pack
  simp only
  split
  · rename_i h
    exact absurd h hb
  · split
    · refine hf _ _ ?_
      rw [BitVec.toNat_ofNat]
      omega
    · exact hf _ _ (by decide)

/-- Shifting leaves 53 digits at most, and moves the exponent no further than that takes. -/
theorem shiftToTargetExponent_spec (m : Nat) (e : Int) (a : UnpackedFloat.Accuracy) :
    (UnpackedFloat.shiftToTargetExponent Format.binary64 m e a).1.mantissa < 2 ^ 53 ∧
      (UnpackedFloat.shiftToTargetExponent Format.binary64 m e a).2 =
        max e (max ((m.log2 : Int) + e - 52) (-1074)) := by
  have ht : Format.binary64.targetExponent (Float.Model.totalExponent m e) =
      max ((m.log2 : Int) + e - 52) (-1074) := by
    unfold Float.Model.totalExponent
    change max ((m.log2 : Int) + 1 + e - (53 : Nat)) (-1074) = _
    omega
  have ha : (ExtendedMantissa.ofMantissaAndAccuracy m a).mantissa = m := by
    rcases a with _ | (_ | _ | _) <;> rfl
  unfold UnpackedFloat.shiftToTargetExponent UnpackedFloat.shiftToExponent
  simp only [ht, mantissa_shiftRight, ha]
  constructor
  · rw [Nat.div_lt_iff_lt_mul (Nat.two_pow_pos _), ← Nat.pow_add]
    refine Nat.lt_of_lt_of_le Nat.lt_log2_self (Nat.pow_le_pow_right (by omega) ?_)
    omega
  · omega

theorem roundedMantissa_le (m : ExtendedMantissa) : m.roundedMantissa ≤ m.mantissa + 1 := by
  unfold ExtendedMantissa.roundedMantissa UnpackedFloat.Accuracy.roundToNearestEven
  split <;> omega

/-- Rounding up adds one to the exponent at most. -/
theorem exponent_roundWithAccuracy (s : Sign) (m : Nat) (e : Int) (a : UnpackedFloat.Accuracy) :
    UnpackedFloat.roundWithAccuracy Format.binary64 s m e a = .zero s ∨
      ∃ n d hn, UnpackedFloat.roundWithAccuracy Format.binary64 s m e a = .finite s n d hn ∧
        d ≤ max e (max ((m.log2 : Int) + e - 52) (-1074)) + 1 := by
  obtain ⟨h1, h2⟩ := shiftToTargetExponent_spec m e a
  generalize hq : UnpackedFloat.shiftToTargetExponent Format.binary64 m e a = q at h1 h2
  have hr := roundedMantissa_le q.1
  have hl : q.1.roundedMantissa.log2 < 54 := by
    by_cases h0 : q.1.roundedMantissa = 0
    · rw [h0]
      decide
    · exact (Nat.log2_lt h0).mpr (by omega)
  -- One more shift follows where rounding up made a digit too many.
  obtain ⟨-, h3⟩ := shiftToTargetExponent_spec q.1.roundedMantissa q.2 .exact
  generalize hr : UnpackedFloat.shiftToTargetExponent Format.binary64 q.1.roundedMantissa q.2 .exact = r at h3
  by_cases h0 : r.1.mantissa = 0
  · exact Or.inl (roundWithAccuracy_of_zero s hq hr h0)
  · refine Or.inr ⟨_, _, _, roundWithAccuracy_of_ne_zero s hq hr h0, ?_⟩
    rw [h3, h2]
    omega

theorem isFinite_roundWithAccuracy (s : Sign) {m : Nat} {e : Int} (a : UnpackedFloat.Accuracy) (he : e ≤ 970)
    (hm : (m.log2 : Int) + e ≤ 1022) :
    (Float.Model.pack (UnpackedFloat.roundWithAccuracy Format.binary64 s m e a)).unpack.isFinite = true := by
  rcases exponent_roundWithAccuracy s m e a with h | ⟨n, d, hn, h, hd⟩
  · rw [h]
    cases s <;> rfl
  · rw [h]
    exact isFinite_pack s hn (by omega)

/-! ## (2) Sizes -/

/-- A number of less than `k` binary digits before the point. -/
def Below (k : Nat) (x : Float) : Prop := (parts x).isFinite = true ∧ |value (parts x)| < 2 ^ k

theorem abs_value (s : Sign) {m : Nat} {e : Int} (hm : 0 < m) : |value (.finite s m e hm)| = (m : Rat) * 2 ^ e := by
  have hp := value_pos (e := e) hm
  cases s with
  | positive => exact abs_of_pos hp
  | negative =>
    rw [value_neg, abs_neg]
    exact abs_of_pos hp

/-- The exponent of a number says how large it is at least. -/
theorem exponent_of_below {k : Nat} {x : Float} (h : Below k x) {s : Sign} {m : Nat} {e : Int} {hm : 0 < m}
    (hx : parts x = .finite s m e hm) : m < 2 ^ 53 ∧ e + 53 ≤ k := by
  have hc := fits_parts x
  rw [hx] at hc
  refine ⟨hc.digits, ?_⟩
  rcases hc.full with hf | hf
  · have hv := h.2
    rw [hx, abs_value] at hv
    have hf : (2 : Rat) ^ 52 ≤ m := by exact_mod_cast hf
    have hlt : (2 : Rat) ^ (52 + e) < 2 ^ (k : Int) := by
      calc (2 : Rat) ^ (52 + e) = 2 ^ 52 * 2 ^ e := by rw [zpow_add₀ (by norm_num)]; rfl
        _ ≤ m * 2 ^ e := mul_le_mul_of_nonneg_right hf (by positivity)
        _ < 2 ^ (k : Int) := hv
    have := (zpow_lt_zpow_iff_right₀ (by norm_num)).mp hlt
    omega
  · omega

theorem isFinite_cases {u : UnpackedFloat} (h : u.isFinite = true) :
    (∃ s, u = .zero s) ∨ ∃ s m e hm, u = .finite s m e hm := by
  cases u with
  | notANumber | infinity s => cases h
  | zero s => exact Or.inl ⟨s, rfl⟩
  | finite s m e hm => exact Or.inr ⟨s, m, e, hm, rfl⟩

theorem isFinite_mul {j k : Nat} {a b : Float} (ha : Below j a) (hb : Below k b) (h : j + k ≤ 1023) :
    (parts (a * b)).isFinite = true := by
  change (Float.Model.pack (UnpackedFloat.mul Format.binary64 (parts a) (parts b))).unpack.isFinite = true
  have hz (s : Sign) : (Float.Model.pack (.zero s)).unpack.isFinite = true := by cases s <;> rfl
  rcases isFinite_cases ha.1 with ⟨s, hu⟩ | ⟨s, m, e, hm, hu⟩ <;>
    rcases isFinite_cases hb.1 with ⟨t, hv⟩ | ⟨t, n, d, hn, hv⟩ <;> rw [hu, hv]
  · exact hz _
  · exact hz _
  · exact hz _
  · obtain ⟨h1, h2⟩ := exponent_of_below ha hu
    obtain ⟨h3, h4⟩ := exponent_of_below hb hv
    have hl : (m * n).log2 < 106 := by
      refine (Nat.log2_lt (Nat.mul_pos hm hn).ne').mpr ?_
      calc m * n < 2 ^ 53 * 2 ^ 53 := Nat.mul_lt_mul'' h1 h3
        _ = 2 ^ 106 := rfl
    exact isFinite_roundWithAccuracy _ _ (by omega) (by omega)

/-- A sum of numbers can be too large to be written, but it is never undefined. -/
theorem isNaN_add {a b : Float} (ha : (parts a).isFinite = true) (hb : (parts b).isFinite = true) :
    (a + b).isNaN = false := by
  change (Float.Model.pack (UnpackedFloat.add Format.binary64 (parts a) (parts b))).unpack.isNaN = false
  rw [isNaN_pack]
  rcases isFinite_cases ha with ⟨s, hu⟩ | ⟨s, m, e, hm, hu⟩ <;>
    rcases isFinite_cases hb with ⟨t, hv⟩ | ⟨t, n, d, hn, hv⟩ <;> rw [hu, hv]
  · cases s <;> cases t <;> rfl
  · rfl
  · rfl
  · exact isNaN_normalize _ _ _ _

/-- A product of numbers can be too large to be written, but it is never undefined. -/
theorem isNaN_mul {a b : Float} (ha : (parts a).isFinite = true) (hb : (parts b).isFinite = true) :
    (a * b).isNaN = false := by
  change (Float.Model.pack (UnpackedFloat.mul Format.binary64 (parts a) (parts b))).unpack.isNaN = false
  rw [isNaN_pack]
  rcases isFinite_cases ha with ⟨s, hu⟩ | ⟨s, m, e, hm, hu⟩ <;>
    rcases isFinite_cases hb with ⟨t, hv⟩ | ⟨t, n, d, hn, hv⟩ <;> rw [hu, hv]
  · rfl
  · rfl
  · rfl
  · exact isNaN_roundWithAccuracy _ _ _ _ _

theorem isFinite_neg (x : Float) : (parts (-x)).isFinite = (parts x).isFinite := by
  rw [parts_neg]
  cases parts x <;> rfl

theorem value_parts_neg (x : Float) : value (parts (-x)) = -value (parts x) := by
  rw [parts_neg]
  cases parts x with
  | finite s m e hm =>
    cases s with
    | positive => exact value_neg hm
    | negative =>
      rw [value_neg, neg_neg]
      rfl
  | _ => exact neg_zero.symm

theorem below_neg {k : Nat} {x : Float} (h : Below k x) : Below k (-x) := by
  refine ⟨(isFinite_neg x).trans h.1, ?_⟩
  rw [value_parts_neg, abs_neg]
  exact h.2

theorem below_ofInt {n : Int} (h : n.natAbs < 2 ^ 53) : Below 53 (Scalar.ofInt n) := by
  have hn : Below 53 (Float.ofNat n.natAbs) := by
    obtain ⟨hf, hv⟩ := value_ofNat h
    refine ⟨hf, ?_⟩
    rw [hv, Nat.abs_cast]
    exact_mod_cast h
  cases n with
  | ofNat n => exact hn
  | negSucc n => exact below_neg hn

/-- A clamp around zero leaves nothing larger than its ends. -/
theorem below_clamp? {k : Nat} {m x y : Float} (hm : Below k m) (hx : x.isNaN = false)
    (h : Scalar.clamp? (-m) m x = some y) : Below k y := by
  change Binary64.clamp? (-m) m x = some y at h
  unfold clamp? at h
  split at h
  · split at h
    · cases h
      exact below_neg hm
    rename_i h1
    split at h
    · cases h
      exact hm
    rename_i h2
    cases h
    obtain ⟨hf, h1, h2⟩ := value_between ((isFinite_neg m).trans hm.1) hm.1 hx h1 h2
    rw [value_parts_neg] at h1
    exact ⟨hf, (abs_le_abs h2 (by linarith)).trans_lt hm.2⟩
  · cases h

end ClockDiscipline.Binary64
