/-
  ClockDiscipline.Proofs.DoubleParts — doubles by sign, mantissa and exponent.

  A double that is neither a zero, infinite nor undefined is a sign, a mantissa of 53
  binary digits and a power of two. Below the least power of two that can be written it
  has fewer digits, so that each double is written in one way only. Whatever an operation
  computes is written down in this form and read back before the next one.

  Proved: (1) what is read back is what was written (`unpack_pack`), and what was read is
  in the one form (`fits_parts`); (2) an operation is undefined only where it has to be
  (`isNaN_sub`, `isNaN_neg`, `isNaN_ofNat`, `isNaN_div`, `isNaN_round`); (3) the parts of a
  whole number below 2^53 are its own digits (`parts_ofNat`), since rounding drops nothing
  of them (`round_exact`).
-/

import ClockDiscipline.Number.Scalar
import Mathlib.Tactic.NormNum

open Float.Model (Format UnpackedFloat)
open Float.Model.UnpackedFloat (ExtendedMantissa Sign packComponents unpackSign)

namespace ClockDiscipline.Binary64

/-! ## (1) Writing and reading -/

def parts (x : Float) : UnpackedFloat := x.toModel.unpack

/-- The one form of a double: 53 digits, or fewer at the least exponent. -/
structure Canonical (m : Nat) (e : Int) : Prop where
  digits : m < 2 ^ 53
  least : -1074 ≤ e
  greatest : e ≤ 971
  full : 2 ^ 52 ≤ m ∨ e = -1074

def Fits : UnpackedFloat → Prop
  | .finite _ m e _ => Canonical m e
  | _ => True

theorem unpackSign_packComponents (s : Sign) (b : BitVec 11) (f : BitVec 52) :
    unpackSign (packComponents Format.binary64 s b f) = s.toBitVec := by
  have h : (s.toBitVec ++ b ++ f).getLsbD 63 = s.toBitVec[0] := by
    rw [BitVec.getLsbD_append, BitVec.getLsbD_append]
    rfl
  ext i hi
  obtain rfl : i = 0 := by omega
  unfold unpackSign packComponents
  simpa [-BitVec.getLsbD_eq_getElem] using h

theorem ofBitVec_toBitVec (s : Sign) : Sign.ofBitVec s.toBitVec = s := by
  cases s <;> rfl

/-- The digit that is not written stands before the others. -/
theorem toNat_implicit (f : BitVec 52) : (1#1 ++ f).toNat = 2 ^ 52 + f.toNat := by
  rw [BitVec.toNat_append, ← Nat.shiftLeft_add_eq_or_of_lt f.isLt]
  rfl

/-- What a sign, an exponent field and a fraction field stand for. -/
def ofFields (s : Sign) (b : BitVec 11) (f : BitVec 52) : UnpackedFloat :=
  if b = -1#11 then (if f = 0#52 then .infinity s else .notANumber)
  else if b = 0#11 then
    if h : f = 0#52 then .zero s
    else .finite s f.toNat (b.toNat - ((1023 : Nat) + (52 : Nat)) + 1)
      (by simpa [BitVec.toNat_pos, BitVec.pos_iff_ne_zero] using h)
  else .finite s (1#1 ++ f).toNat (b.toNat - ((1023 : Nat) + (52 : Nat))) (by rw [toNat_implicit]; omega)

theorem ofFields_cases (s : Sign) (b : BitVec 11) (f : BitVec 52) :
    (b = -1#11 ∧ f = 0#52 ∧ ofFields s b f = .infinity s) ∨
      (b = -1#11 ∧ f ≠ 0#52 ∧ ofFields s b f = .notANumber) ∨
      (b = 0#11 ∧ f = 0#52 ∧ ofFields s b f = .zero s) ∨
      (b = 0#11 ∧ f ≠ 0#52 ∧ ∃ hm, ofFields s b f = .finite s f.toNat (-1074) hm) ∨
      (b ≠ -1#11 ∧ b ≠ 0#11 ∧ ∃ hm, ofFields s b f = .finite s (2 ^ 52 + f.toNat) (b.toNat - 1075) hm) := by
  unfold ofFields
  by_cases hb : b = -1#11
  · rw [if_pos hb]
    by_cases hf : f = 0#52
    · rw [if_pos hf]
      exact Or.inl ⟨hb, hf, rfl⟩
    · rw [if_neg hf]
      exact Or.inr (Or.inl ⟨hb, hf, rfl⟩)
  rw [if_neg hb]
  by_cases hz : b = 0#11
  · rw [if_pos hz]
    by_cases hf : f = 0#52
    · rw [dif_pos hf]
      exact Or.inr (Or.inr (Or.inl ⟨hz, hf, rfl⟩))
    · rw [dif_neg hf]
      have hm : 0 < f.toNat := Nat.pos_of_ne_zero fun h => hf (BitVec.eq_of_toNat_eq h)
      refine Or.inr (Or.inr (Or.inr (Or.inl ⟨hz, hf, hm, ?_⟩)))
      rw [UnpackedFloat.finite.injEq, hz]
      exact ⟨rfl, rfl, rfl⟩
  · rw [if_neg hz]
    refine Or.inr (Or.inr (Or.inr (Or.inr ⟨hb, hz, by omega, ?_⟩)))
    rw [UnpackedFloat.finite.injEq]
    exact ⟨rfl, toNat_implicit f, by omega⟩

theorem unpack_eq (x : BitVec 64) :
    UnpackedFloat.unpack Format.binary64 x = ofFields (Sign.ofBitVec (@unpackSign Format.binary64 x))
      (@UnpackedFloat.unpackExponent Format.binary64 x) (@UnpackedFloat.unpackMantissa Format.binary64 x) := rfl

theorem unpack_packComponents (s : Sign) (b : BitVec 11) (f : BitVec 52) :
    UnpackedFloat.unpack Format.binary64 (packComponents Format.binary64 s b f) = ofFields s b f := by
  rw [unpack_eq, UnpackedFloat.unpackMantissa_packComponents, UnpackedFloat.unpackExponent_packComponents,
    unpackSign_packComponents, ofBitVec_toBitVec]

def exponentBits (x : Float) : BitVec 11 := @UnpackedFloat.unpackExponent Format.binary64 x.toModel.toBits.toBitVec

def fractionBits (x : Float) : BitVec 52 := @UnpackedFloat.unpackMantissa Format.binary64 x.toModel.toBits.toBitVec

theorem parts_eq (x : Float) : ∃ s, parts x = ofFields s (exponentBits x) (fractionBits x) :=
  ⟨_, unpack_eq x.toModel.toBits.toBitVec⟩

theorem log2_of_full {m : Nat} (h1 : 2 ^ 52 ≤ m) (h2 : m < 2 ^ 53) : m.log2 = 52 :=
  (Nat.log2_eq_iff (by omega)).mpr ⟨h1, h2⟩

section

variable {s : Sign} {m : Nat} {e : Int} {hm : 0 < m} (h : Canonical m e)

include h

/-- With all digits the first one is left out. -/
theorem pack_of_full (hn : 2 ^ 52 ≤ m) : UnpackedFloat.pack Format.binary64 (.finite s m e hm) =
    packComponents Format.binary64 s (BitVec.ofNat 11 (e + (1023 : Nat) + (52 : Nat)).toNat) (BitVec.ofNat 52 m) := by
  have hl := h.least
  have hg := h.greatest
  have hb : ¬2 ^ 11 ≤ (e + (1023 : Nat) + (52 : Nat)).toNat + 1 := by omega
  have h1 : m.log2 + 1 = Format.binary64.mantissaBits := by
    rw [log2_of_full hn h.digits]
    rfl
  unfold UnpackedFloat.pack
  simp only
  rw [if_pos h1]
  exact if_neg hb

theorem pack_of_short (hn : m < 2 ^ 52) : UnpackedFloat.pack Format.binary64 (.finite s m e hm) =
    packComponents Format.binary64 s 0#11 (BitVec.ofNat 52 m) := by
  have hl := h.least
  have hg := h.greatest
  have hb : ¬2 ^ 11 ≤ (e + (1023 : Nat) + (52 : Nat)).toNat + 1 := by omega
  have h1 : ¬m.log2 + 1 = Format.binary64.mantissaBits := by
    have := (Nat.log2_lt (by omega)).mpr hn
    change ¬m.log2 + 1 = 53
    omega
  unfold UnpackedFloat.pack
  simp only
  rw [if_neg h1]
  exact if_neg hb

end

/-- A double in the one form is read back as it was written. -/
theorem unpack_pack {u : UnpackedFloat} (h : Fits u) : (Float.Model.pack u).unpack = u := by
  change UnpackedFloat.unpack Format.binary64 (UnpackedFloat.pack Format.binary64 u) = u
  cases u with
  | notANumber => rfl
  | infinity s => cases s <;> rfl
  | zero s => cases s <;> rfl
  | finite s m e hm =>
    have hc : Canonical m e := h
    obtain ⟨hd, hl, hg, hf⟩ := hc
    by_cases hn : 2 ^ 52 ≤ m
    · have he : (BitVec.ofNat 11 (e + (1023 : Nat) + (52 : Nat)).toNat).toNat = (e + 1075).toNat := by
        rw [BitVec.toNat_ofNat]
        omega
      have h2 : BitVec.ofNat 11 (e + (1023 : Nat) + (52 : Nat)).toNat ≠ -1#11 := by
        rw [ne_eq, ← BitVec.toNat_inj, he]
        change ¬(e + 1075).toNat = 2047
        omega
      have h3 : BitVec.ofNat 11 (e + (1023 : Nat) + (52 : Nat)).toNat ≠ 0#11 := by
        rw [ne_eq, ← BitVec.toNat_inj, he]
        change ¬(e + 1075).toNat = 0
        omega
      rw [pack_of_full h hn, unpack_packComponents, ofFields, if_neg h2, if_neg h3, UnpackedFloat.finite.injEq]
      refine ⟨rfl, ?_, ?_⟩
      · rw [toNat_implicit, BitVec.toNat_ofNat]
        omega
      · rw [he]
        omega
    · have h2 : BitVec.ofNat 52 m ≠ 0#52 := by
        rw [ne_eq, ← BitVec.toNat_inj, BitVec.toNat_ofNat]
        change ¬m % 2 ^ 52 = 0
        omega
      rw [pack_of_short h (by omega), unpack_packComponents, ofFields, if_neg (by decide), if_pos rfl, dif_neg h2,
        UnpackedFloat.finite.injEq]
      refine ⟨rfl, ?_, ?_⟩
      · rw [BitVec.toNat_ofNat]
        omega
      · rw [show (0#11).toNat = 0 from rfl]
        omega

theorem fits_ofFields (s : Sign) (b : BitVec 11) (f : BitVec 52) : Fits (ofFields s b f) := by
  have h1 : b.toNat < 2 ^ 11 := b.isLt
  have h2 : f.toNat < 2 ^ 52 := f.isLt
  rcases ofFields_cases s b f with ⟨-, -, h⟩ | ⟨-, -, h⟩ | ⟨-, -, h⟩ | ⟨-, -, hm, h⟩ | ⟨hb, hz, hm, h⟩ <;> rw [h]
  · trivial
  · trivial
  · trivial
  · exact ⟨by omega, by omega, by omega, Or.inr rfl⟩
  · have hb : b.toNat ≠ 2047 := fun h => hb (BitVec.eq_of_toNat_eq h)
    have hz : b.toNat ≠ 0 := fun h => hz (BitVec.eq_of_toNat_eq h)
    exact ⟨by omega, by omega, by omega, Or.inl (by omega)⟩

/-- A double has the one form. -/
theorem fits_parts (x : Float) : Fits (parts x) := by
  obtain ⟨s, h⟩ := parts_eq x
  rw [h]
  exact fits_ofFields s _ _

/-! ## (2) Undefined results -/

theorem isNaN_eq (x : Float) : x.isNaN = (parts x).isNaN := rfl

theorem isNaN_ofFields (s : Sign) (b : BitVec 11) (f : BitVec 52) :
    (ofFields s b f).isNaN = true ↔ b = -1#11 ∧ f ≠ 0#52 := by
  rcases ofFields_cases s b f with ⟨hb, hf, h⟩ | ⟨hb, hf, h⟩ | ⟨hb, -, h⟩ | ⟨hb, -, hm, h⟩ | ⟨hb, -, hm, h⟩ <;> rw [h]
  · exact iff_of_false Bool.false_ne_true fun h => h.2 hf
  · exact iff_of_true rfl ⟨hb, hf⟩
  · exact iff_of_false Bool.false_ne_true fun h => by simp [hb] at h
  · exact iff_of_false Bool.false_ne_true fun h => by simp [hb] at h
  · exact iff_of_false Bool.false_ne_true fun h => hb h.1

theorem isNaN_packComponents (s : Sign) (b : BitVec 11) (f : BitVec 52) :
    (UnpackedFloat.unpack Format.binary64 (packComponents Format.binary64 s b f)).isNaN = true ↔
      b = -1#11 ∧ f ≠ 0#52 := by
  rw [unpack_packComponents, isNaN_ofFields]

/-- What is too large is written as infinite, never as undefined. -/
theorem isNaN_pack (u : UnpackedFloat) : (Float.Model.pack u).unpack.isNaN = u.isNaN := by
  cases u with
  | notANumber => rfl
  | infinity s => cases s <;> rfl
  | zero s => cases s <;> rfl
  | finite s m e hm =>
    rw [show (UnpackedFloat.finite s m e hm).isNaN = false from rfl, Bool.eq_false_iff]
    change ¬(UnpackedFloat.unpack Format.binary64 (UnpackedFloat.pack Format.binary64 (.finite s m e hm))).isNaN = true
    unfold UnpackedFloat.pack
    simp only
    split
    · cases s <;> exact Bool.false_ne_true
    · rename_i hb
      split
      · intro h
        have h := congrArg BitVec.toNat ((isNaN_packComponents s _ _).mp h).1
        rw [BitVec.toNat_ofNat] at h
        change _ = 2047 at h
        change ¬2048 ≤ _ at hb
        omega
      · intro h
        cases ((isNaN_packComponents s _ _).mp h).1

/-- What both branches are, without a look at the condition. -/
theorem dite_elim {α : Type} {P : α → Prop} {c : Prop} [Decidable c] {x : c → α} {y : ¬c → α} (hx : ∀ h, P (x h))
    (hy : ∀ h, P (y h)) : P (dite c x y) := by
  by_cases h : c
  · rw [dif_pos h]
    exact hx h
  · rw [dif_neg h]
    exact hy h

theorem isNaN_roundWithAccuracy (f : Format) (s : Sign) (m : Nat) (e : Int) (a : UnpackedFloat.Accuracy) :
    (UnpackedFloat.roundWithAccuracy f s m e a).isNaN = false :=
  dite_elim (P := fun u : UnpackedFloat => u.isNaN = false) (fun _ => rfl) fun _ => rfl

theorem isNaN_normalize (f : Format) (m e : Int) (s : Sign) : (UnpackedFloat.normalize f m e s).isNaN = false := by
  unfold UnpackedFloat.normalize
  split
  · exact isNaN_roundWithAccuracy f _ _ _ _
  · rfl
  · exact isNaN_roundWithAccuracy f _ _ _ _

/-- A difference from a finite number is undefined only where the other number is. -/
theorem isNaN_sub {a : Float} (ha : (parts a).isFinite = true) (b : Float) : (a - b).isNaN = b.isNaN := by
  change (Float.Model.pack (UnpackedFloat.sub Format.binary64 (parts a) (parts b))).unpack.isNaN = (parts b).isNaN
  rw [isNaN_pack]
  cases hu : parts a with
  | notANumber | infinity s =>
    rw [hu] at ha
    cases ha
  | zero s =>
    cases parts b with
    | zero t => cases s <;> cases t <;> rfl
    | _ => rfl
  | finite s m e hm =>
    cases parts b with
    | finite t n d hn => exact isNaN_normalize _ _ _ _
    | _ => rfl

theorem isNaN_neg (x : Float) : (-x).isNaN = x.isNaN := by
  change (Float.Model.pack (parts x).neg).unpack.isNaN = (parts x).isNaN
  rw [isNaN_pack]
  cases parts x <;> rfl

theorem isNaN_ofScientific (f : Format) (m : Nat) (e : Int) : (UnpackedFloat.ofScientific f m e).isNaN = false := by
  -- Zero and the powers of ten out of reach come first.
  refine dite_elim (P := fun u : UnpackedFloat => u.isNaN = false) (fun _ => rfl) fun _ => ?_
  refine iteInduction (motive := fun u : UnpackedFloat => u.isNaN = false) (fun _ => rfl) fun _ => ?_
  refine iteInduction (motive := fun u : UnpackedFloat => u.isNaN = false) (fun _ => rfl) fun _ => ?_
  exact dite_elim (P := fun u : UnpackedFloat => u.isNaN = false) (fun _ => isNaN_roundWithAccuracy f _ _ _ _)
    fun _ => isNaN_roundWithAccuracy f _ _ _ _

/-- Small whole numbers are written with the power of ten 1 as a factor. -/
theorem ofNat_eq {n : Nat} (h : n < 2 ^ 53) : Float.ofNat n = n.toUInt64.toFloat * (1 : UInt64).toFloat := by
  change Float.ofScientific n false 0 = _
  unfold Float.ofScientific
  rw [dif_pos ⟨h, by decide⟩]
  rfl

theorem parts_one : parts (1 : UInt64).toFloat = .finite .positive (2 ^ 52) (-52) (by decide) := rfl

theorem isNaN_ofNat (n : Nat) : (Float.ofNat n).isNaN = false := by
  by_cases h : n < 2 ^ 53
  · rw [ofNat_eq h]
    change (Float.Model.pack (UnpackedFloat.mul Format.binary64 (parts n.toUInt64.toFloat)
      (parts (1 : UInt64).toFloat))).unpack.isNaN = false
    have hn : (parts n.toUInt64.toFloat).isNaN = false := by
      change (Float.Model.pack (UnpackedFloat.normalize _ _ _ _)).unpack.isNaN = false
      rw [isNaN_pack]
      exact isNaN_normalize _ _ _ _
    rw [isNaN_pack, parts_one]
    cases hu : parts n.toUInt64.toFloat with
    | notANumber =>
      rw [hu] at hn
      cases hn
    | finite s m e hm => exact isNaN_roundWithAccuracy _ _ _ _ _
    | _ => rfl
  · change (Float.ofScientific n false 0).isNaN = false
    unfold Float.ofScientific
    rw [dif_neg fun hs => h hs.1]
    change (Float.Model.pack (UnpackedFloat.ofScientific Format.binary64 n 0)).unpack.isNaN = false
    rw [isNaN_pack]
    exact isNaN_ofScientific _ _ _

theorem toNat_exponentBits (x : Float) : (exponentBits x).toNat = exponentField x.toBits := by
  have h : (exponentBits x).toNat = x.toBits.toNat >>> 52 % 2 ^ 11 := by
    simp only [exponentBits, UnpackedFloat.unpackExponent, BitVec.toNat_cast, BitVec.extractLsb_toNat]
    rfl
  rw [h, Nat.shiftRight_eq_div_pow]
  simp only [exponentField, UInt64.toNat_mod, UInt64.toNat_div]
  rfl

theorem isNaN_of_finite {x : Float} {negative : Bool} {m : Nat} {q : Int} (h : view x = .finite negative m q) :
    x.isNaN = false := by
  rw [Bool.eq_false_iff]
  intro hn
  obtain ⟨s, hs⟩ := parts_eq x
  rw [isNaN_eq, hs, isNaN_ofFields] at hn
  have he : exponentField x.toBits = 2047 := by
    rw [← toNat_exponentBits, hn.1]
    rfl
  simp only [view, if_pos he] at h
  split at h <;> cases h

theorem parts_of_isNormal {x : Float} (h : isNormal x = true) : ∃ s m e hm, parts x = .finite s m e hm := by
  obtain ⟨s, hs⟩ := parts_eq x
  simp only [isNormal, Bool.and_eq_true, bne_iff_ne, ← toNat_exponentBits] at h
  have h1 : exponentBits x ≠ -1#11 := fun he => h.2 (by rw [he]; rfl)
  have h2 : exponentBits x ≠ 0#11 := fun he => h.1 (by rw [he]; rfl)
  rw [hs, ofFields, if_neg h1, if_neg h2]
  exact ⟨_, _, _, _, rfl⟩

/-- A quotient is undefined only where the dividend is, if what it is divided by is fit to divide by. -/
theorem isNaN_div (a : Float) {x : Float} (h : isNormal x = true) : (a / x).isNaN = a.isNaN := by
  obtain ⟨s, m, e, hm, hx⟩ := parts_of_isNormal h
  change (Float.Model.pack (UnpackedFloat.div Format.binary64 (parts a) (parts x))).unpack.isNaN = (parts a).isNaN
  rw [isNaN_pack, hx]
  cases parts a with
  | finite t n d hn => exact isNaN_roundWithAccuracy _ _ _ _ _
  | _ => rfl

/-- The next integer is undefined only where the number is. -/
theorem isNaN_round (x : Float) : (round x).isNaN = x.isNaN := by
  unfold round
  split
  · rename_i negative m q h
    by_cases hq : 0 ≤ q
    · rw [if_pos hq]
    · rw [if_neg hq, isNaN_of_finite h]
      simp only [signed]
      split
      · rw [isNaN_neg, isNaN_ofNat]
      · exact isNaN_ofNat _
  · rfl

/-! ## (3) Whole numbers -/

/-- Zeros at the end are dropped without a trace. -/
theorem shiftRight_exact (m k : Nat) :
    (⟨m * 2 ^ k, false, false⟩ : ExtendedMantissa) >>> k = ⟨m, false, false⟩ := by
  induction k generalizing m with
  | zero =>
    rw [Nat.pow_zero, Nat.mul_one]
    rfl
  | succ k ih =>
    have h := ih (m * 2)
    rw [Nat.mul_assoc, ← Nat.pow_succ'] at h
    change ((⟨m * 2 ^ (k + 1), false, false⟩ : ExtendedMantissa) >>> k).shiftRightOne = _
    rw [h]
    simp [ExtendedMantissa.shiftRightOne]

theorem shiftToTargetExponent_exact {m : Nat} {e : Int} (hm : 2 ^ 52 ≤ m) (h : Canonical m e) (k : Nat) :
    UnpackedFloat.shiftToTargetExponent Format.binary64 (m * 2 ^ k) (e - k) .exact = (⟨m, false, false⟩, e) := by
  have hl : (m * 2 ^ k).log2 = 52 + k := by
    refine (Nat.log2_eq_iff (Nat.mul_ne_zero (by omega) (Nat.two_pow_pos k).ne')).mpr ⟨?_, ?_⟩
    · rw [Nat.pow_add]
      exact Nat.mul_le_mul_right _ hm
    · rw [show 52 + k + 1 = 53 + k by omega, Nat.pow_add]
      exact Nat.mul_lt_mul_of_pos_right h.digits (Nat.two_pow_pos k)
  have ht : Format.binary64.targetExponent (Float.Model.totalExponent (m * 2 ^ k) (e - k)) = e := by
    have hl := h.least
    unfold Float.Model.totalExponent
    change max ((((m * 2 ^ k).log2 : Int) + 1 + (e - k)) - (53 : Nat)) (-1074) = e
    omega
  unfold UnpackedFloat.shiftToTargetExponent UnpackedFloat.shiftToExponent
  simp only [ht]
  have hk : (e - (e - k)).toNat = k := by omega
  rw [hk]
  exact Prod.ext (shiftRight_exact m k) (by simp)

section

variable {f : Format} (s : Sign) {m : Nat} {e : Int} {a : UnpackedFloat.Accuracy} {q r : ExtendedMantissa × Int}
  (hq : UnpackedFloat.shiftToTargetExponent f m e a = q)
  (hr : UnpackedFloat.shiftToTargetExponent f q.1.roundedMantissa q.2 .exact = r)

include hq hr

theorem roundWithAccuracy_of_zero (h : r.1.mantissa = 0) : UnpackedFloat.roundWithAccuracy f s m e a = .zero s := by
  subst hq hr
  exact dif_pos h

theorem roundWithAccuracy_of_ne_zero (h : r.1.mantissa ≠ 0) :
    UnpackedFloat.roundWithAccuracy f s m e a = .finite s r.1.mantissa r.2 (Nat.pos_of_ne_zero h) := by
  subst hq hr
  exact dif_neg h

end

/-- Rounding leaves a number with 53 digits as it is, zeros behind them apart. -/
theorem round_exact (s : Sign) {m : Nat} {e : Int} (hm : 2 ^ 52 ≤ m) (h : Canonical m e) (k : Nat) :
    UnpackedFloat.roundWithAccuracy Format.binary64 s (m * 2 ^ k) (e - k) .exact = .finite s m e (by omega) := by
  have h0 := shiftToTargetExponent_exact hm h 0
  rw [Nat.pow_zero, Nat.mul_one, Nat.cast_zero, Int.sub_zero] at h0
  exact roundWithAccuracy_of_ne_zero s (shiftToTargetExponent_exact hm h k) h0 (show m ≠ 0 by omega)

theorem round_eq {f : Format} (s : Sign) {m : Nat} {e : Int} {q : Nat × Int}
    (hq : UnpackedFloat.decreaseExponent m e (f.targetExponent (Float.Model.totalExponent m e)) = q) :
    UnpackedFloat.round f s m e = UnpackedFloat.roundWithAccuracy f s q.1 q.2 .exact := by
  subst hq
  rfl

section

variable {n : Nat} (h0 : 0 < n) (h : n < 2 ^ 53)

include h0 h

/-- With zeros behind them the digits of a whole number are 53. -/
theorem canonical_shifted :
    2 ^ 52 ≤ n * 2 ^ (52 - n.log2) ∧ Canonical (n * 2 ^ (52 - n.log2)) ((n.log2 : Int) - 52) := by
  have hl : n.log2 < 53 := (Nat.log2_lt (by omega)).mpr h
  have h1 := Nat.log2_self_le (show n ≠ 0 by omega)
  have h2 := @Nat.lt_log2_self n
  have hp : 2 ^ n.log2 * 2 ^ (52 - n.log2) = 2 ^ 52 := by
    rw [← Nat.pow_add]
    congr 1
    omega
  have hfull : 2 ^ 52 ≤ n * 2 ^ (52 - n.log2) := by
    rw [← hp]
    exact Nat.mul_le_mul_right _ h1
  refine ⟨hfull, ?_, by omega, by omega, Or.inl hfull⟩
  rw [show 2 ^ 53 = 2 ^ 52 * 2 from rfl, ← hp, Nat.mul_right_comm, ← Nat.pow_succ]
  exact Nat.mul_lt_mul_of_pos_right h2 (Nat.two_pow_pos _)

theorem normalize_natCast :
    ∃ hm, UnpackedFloat.normalize Format.binary64 (n : Int) 0 .positive =
      .finite .positive (n * 2 ^ (52 - n.log2)) ((n.log2 : Int) - 52) hm := by
  obtain ⟨hfull, hc⟩ := canonical_shifted h0 h
  have hl : n.log2 < 53 := (Nat.log2_lt (by omega)).mpr h
  have hd : UnpackedFloat.decreaseExponent n 0 (Format.binary64.targetExponent (Float.Model.totalExponent n 0)) =
      (n * 2 ^ (52 - n.log2), (n.log2 : Int) - 52) := by
    have ht : Format.binary64.targetExponent (Float.Model.totalExponent n 0) = (n.log2 : Int) - 52 := by
      change max (((n.log2 : Int) + 1 + 0) - (53 : Nat)) (-1074) = _
      omega
    have hs : (0 - ((n.log2 : Int) - 52)).toNat = 52 - n.log2 := by omega
    simp only [UnpackedFloat.decreaseExponent, ht, hs, Nat.shiftLeft_eq]
    exact Prod.ext rfl (by simp only; omega)
  have he := round_exact .positive hfull hc 0
  rw [Nat.pow_zero, Nat.mul_one, Nat.cast_zero, Int.sub_zero] at he
  refine ⟨by omega, ?_⟩
  unfold UnpackedFloat.normalize
  rw [show compare (n : Int) 0 = .gt from compare_gt_iff_gt.mpr (by omega)]
  exact (round_eq _ hd).trans he

/-- A whole number has its own digits, with zeros behind them. -/
theorem parts_ofNat :
    ∃ hm, parts (Float.ofNat n) = .finite .positive (n * 2 ^ (52 - n.log2)) ((n.log2 : Int) - 52) hm := by
  obtain ⟨hfull, hc⟩ := canonical_shifted h0 h
  obtain ⟨hm, hnorm⟩ := normalize_natCast h0 h
  have hu : parts n.toUInt64.toFloat = .finite .positive (n * 2 ^ (52 - n.log2)) ((n.log2 : Int) - 52) hm := by
    have hn : n.toUInt64.toNat = n := by
      rw [Nat.toUInt64_eq, UInt64.toNat_ofNat']
      omega
    change (Float.Model.pack (UnpackedFloat.normalize Format.binary64 (n.toUInt64.toNat : Int) 0 .positive)).unpack = _
    rw [hn, hnorm]
    exact unpack_pack hc
  -- The factor 1 only puts more zeros behind the digits.
  have he := round_exact .positive hfull hc 52
  refine ⟨hm, ?_⟩
  rw [ofNat_eq h]
  change (Float.Model.pack (UnpackedFloat.mul Format.binary64 (parts n.toUInt64.toFloat)
    (parts (1 : UInt64).toFloat))).unpack = _
  rw [hu, parts_one]
  change (Float.Model.pack (UnpackedFloat.roundWithAccuracy Format.binary64 .positive _ (_ - ((52 : Nat) : Int))
    .exact)).unpack = _
  rw [he]
  exact unpack_pack hc

end

end ClockDiscipline.Binary64
