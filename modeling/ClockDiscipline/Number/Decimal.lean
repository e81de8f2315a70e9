/-
  ClockDiscipline.Number.Decimal — natural numbers and integers in decimal digits.

  `digits` writes a number and `value` reads it back (`value_digits`); `integer?` is the
  grammar of integer texts with an optional sign.
-/

namespace ClockDiscipline.Decimal

/-- The ten ASCII digits and no others. -/
def isDigit (c : Char) : Bool := decide ('0' ≤ c ∧ c ≤ '9')

def digitChar (d : Nat) : Char := Char.ofNat (48 + d)

def digitValue (c : Char) : Nat := c.toNat - 48

/-- Decimal digits, most significant first. -/
def digits (n : Nat) : List Char :=
  if n < 10 then [digitChar n] else digits (n / 10) ++ [digitChar (n % 10)]
termination_by n
decreasing_by omega

/-- The number that a row of digits stands for. -/
def value (cs : List Char) : Nat := cs.foldl (fun n c => 10 * n + digitValue c) 0

theorem digitValue_digitChar {d : Nat} (h : d < 10) : digitValue (digitChar d) = d := by
  have : ∀ d, d < 10 → digitValue (digitChar d) = d := by decide
  exact this d h

theorem isDigit_digitChar {d : Nat} (h : d < 10) : isDigit (digitChar d) = true := by
  have : ∀ d, d < 10 → isDigit (digitChar d) = true := by decide
  exact this d h

/-- A further digit counts one and what stands before it ten times as much. -/
theorem value_concat (cs : List Char) (c : Char) : value (cs ++ [c]) = 10 * value cs + digitValue c := by
  simp [value]

theorem value_digits (n : Nat) : value (digits n) = n := by
  induction n using Nat.strongRecOn with
  | ind n ih =>
    by_cases small : n < 10
    · rw [digits, if_pos small]
      simpa [value] using digitValue_digitChar small
    · rw [digits, if_neg small, value_concat, ih (n / 10) (by omega), digitValue_digitChar (Nat.mod_lt n (by decide))]
      omega

theorem digits_isDigit (n : Nat) : ∀ c ∈ digits n, isDigit c = true := by
  induction n using Nat.strongRecOn with
  | ind n ih =>
    intro c hc
    by_cases small : n < 10
    · rw [digits, if_pos small, List.mem_singleton] at hc
      exact hc ▸ isDigit_digitChar small
    · rw [digits, if_neg small, List.mem_append, List.mem_singleton] at hc
      cases hc with
      | inl early => exact ih (n / 10) (by omega) c early
      | inr last => exact last ▸ isDigit_digitChar (Nat.mod_lt n (by decide))

theorem digits_ne_nil (n : Nat) : digits n ≠ [] := by
  rw [digits]; split <;> simp

/-- An integer with a minus sign when it is negative. -/
def integer (n : Int) : List Char := if n < 0 then '-' :: digits n.natAbs else digits n.natAbs

/-- One or more digits. -/
def natural? (cs : List Char) : Option Nat :=
  if !cs.isEmpty && cs.all isDigit then some (value cs) else none

/-- One or more digits after an optional `+`, or after `-` when `signed`. -/
def integer? (signed : Bool) : List Char → Option Int
  | '+' :: cs => (natural? cs).map Int.ofNat
  | '-' :: cs => if signed then (natural? cs).map (fun n => -(n : Int)) else none
  | cs => (natural? cs).map Int.ofNat

/-- Text of an integer as messages show it. -/
def text (n : Int) : String := String.ofList (integer n)

/-- Text filled up on the left to `width` characters with zeros after the sign; the sign counts. -/
def zeroPadded (width : Nat) (n : Int) : String :=
  let ds := digits n.natAbs
  let sign := if n < 0 then ['-'] else []
  String.ofList (sign ++ List.replicate (width - sign.length - ds.length) '0' ++ ds)

end ClockDiscipline.Decimal
