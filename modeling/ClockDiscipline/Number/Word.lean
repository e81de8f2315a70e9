/-
  ClockDiscipline.Number.Word — integers that must fit a machine word.

  A result that does not fit is `none`: sums, differences and products are taken as
  integers and put back into a word here, so no step wraps around unseen.
-/

namespace ClockDiscipline

def int64? (n : Int) : Option Int64 :=
  if -9223372036854775808 ≤ n ∧ n < 9223372036854775808 then some (Int64.ofInt n) else none

def int32? (n : Int) : Option Int32 := if -2147483648 ≤ n ∧ n < 2147483648 then some (Int32.ofInt n) else none

def uint64? : Int → Option UInt64
  | .ofNat n => if n < 18446744073709551616 then some (UInt64.ofNat n) else none
  | .negSucc _ => none

def uint32? : Int → Option UInt32
  | .ofNat n => if n < 4294967296 then some (UInt32.ofNat n) else none
  | .negSucc _ => none

def uint16? : Int → Option UInt16
  | .ofNat n => if n < 65536 then some (UInt16.ofNat n) else none
  | .negSucc _ => none

theorem int64?_toInt (x : Int64) : int64? x.toInt = some x := by
  rw [int64?, if_pos ⟨x.le_toInt, x.toInt_lt⟩, Int64.ofInt_toInt]

theorem toInt_of_int64? {n : Int} {x : Int64} (h : int64? n = some x) : x.toInt = n := by
  unfold int64? at h
  split at h
  · rename_i hn
    cases h
    rw [Int64.toInt_ofInt_of_le (by omega) (by omega)]
  · cases h

theorem int64?_eq_none_iff {n : Int} : int64? n = none ↔ n < -9223372036854775808 ∨ 9223372036854775808 ≤ n := by
  unfold int64?
  split <;> simp <;> omega

theorem int32?_toInt (x : Int32) : int32? x.toInt = some x := by
  rw [int32?, if_pos ⟨x.le_toInt, x.toInt_lt⟩, Int32.ofInt_toInt]

theorem toInt_of_int32? {n : Int} {x : Int32} (h : int32? n = some x) : x.toInt = n := by
  unfold int32? at h
  split at h
  · rename_i hn
    cases h
    rw [Int32.toInt_ofInt_of_le (by omega) (by omega)]
  · cases h

theorem int32?_eq_none_iff {n : Int} : int32? n = none ↔ n < -2147483648 ∨ 2147483648 ≤ n := by
  unfold int32?
  split <;> simp <;> omega

/-- All but the least value have an opposite. -/
theorem toInt_neg_of_ne {x : Int32} (h : x.toInt ≠ Int32.minValue.toInt) : (-x).toInt = -x.toInt := by
  have h1 := x.le_toInt
  have h2 := x.toInt_lt
  rw [Int32.toInt_minValue] at h
  rw [Int32.toInt_neg]
  apply Int.bmod_eq_of_le <;> omega

theorem uint16?_toNat (n : UInt16) : uint16? (n.toNat : Int) = some n := by
  change (if n.toNat < 65536 then some (UInt16.ofNat n.toNat) else none) = some n
  rw [if_pos n.toNat_lt, UInt16.ofNat_toNat]

theorem uint32?_toNat (n : UInt32) : uint32? (n.toNat : Int) = some n := by
  change (if n.toNat < 4294967296 then some (UInt32.ofNat n.toNat) else none) = some n
  rw [if_pos n.toNat_lt, UInt32.ofNat_toNat]

theorem toNat_of_uint32? {n : Int} {x : UInt32} (h : uint32? n = some x) : (x.toNat : Int) = n := by
  cases n with
  | ofNat n =>
    simp only [uint32?] at h
    split at h
    · rename_i hn
      cases h
      rw [UInt32.toNat_ofNat_of_lt' hn]
      rfl
    · cases h
  | negSucc n => cases h

theorem uint64?_toNat (n : UInt64) : uint64? (n.toNat : Int) = some n := by
  change (if n.toNat < 18446744073709551616 then some (UInt64.ofNat n.toNat) else none) = some n
  rw [if_pos n.toNat_lt, UInt64.ofNat_toNat]

end ClockDiscipline
