/-
  ClockDiscipline.Span — lengths of time.

  Whole seconds and nanoseconds short of one more, so that equal lengths are equal
  spans. `ofParts?` carries full seconds over from any number of nanoseconds and has no
  answer where the seconds leave 64 bits.
-/

import ClockDiscipline.Number.Word

namespace ClockDiscipline

structure Span where
  secs : UInt64
  nanos : UInt32
  short : nanos.toNat < 1000000000
  deriving DecidableEq, Repr

namespace Span

def ofSecs (secs : UInt64) : Span := ⟨secs, 0, by decide⟩

def zero : Span := ofSecs 0

instance : Inhabited Span := ⟨zero⟩

def ofMillis (ms : UInt64) : Span :=
  ⟨UInt64.ofNat (ms.toNat / 1000), UInt32.ofNat (ms.toNat % 1000 * 1000000), by
    rw [UInt32.toNat_ofNat']
    exact Nat.lt_of_le_of_lt (Nat.mod_le _ _) (by omega)⟩

/-- Seconds and any number of nanoseconds. -/
def ofParts? (secs : UInt64) (nanos : UInt32) : Option Span :=
  (uint64? (secs.toNat + nanos.toNat / 1000000000 : Nat)).map fun s =>
    ⟨s, UInt32.ofNat (nanos.toNat % 1000000000), by
      rw [UInt32.toNat_ofNat']
      exact Nat.lt_of_le_of_lt (Nat.mod_le _ _) (Nat.mod_lt _ (by decide))⟩

def toNanos (s : Span) : Nat := s.secs.toNat * 1000000000 + s.nanos.toNat

def toMillis (s : Span) : Nat := s.toNanos / 1000000

/-- Taking a span apart and putting it together again. -/
theorem ofParts?_self (s : Span) : ofParts? s.secs s.nanos = some s := by
  obtain ⟨secs, nanos, h⟩ := s
  have h1 : nanos.toNat / 1000000000 = 0 := Nat.div_eq_of_lt h
  have h2 := secs.toNat_lt
  simp only [ofParts?, uint64?, h1]
  rw [if_pos (by omega)]
  simp [Nat.mod_eq_of_lt h]

/-- A span made of milliseconds has as many. -/
theorem toMillis_ofMillis (ms : UInt64) : (ofMillis ms).toMillis = ms.toNat := by
  have hs : (UInt64.ofNat (ms.toNat / 1000)).toNat = ms.toNat / 1000 :=
    UInt64.toNat_ofNat_of_lt' (Nat.lt_of_le_of_lt (Nat.div_le_self _ _) ms.toNat_lt)
  have hn : (UInt32.ofNat (ms.toNat % 1000 * 1000000)).toNat = ms.toNat % 1000 * 1000000 :=
    UInt32.toNat_ofNat_of_lt' (by rw [UInt32.size]; omega)
  rw [toMillis, toNanos, ofMillis, hs, hn]
  omega

end Span

end ClockDiscipline
