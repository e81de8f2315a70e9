/-
  ClockDiscipline.Text.Hex — hexadecimal digits, and characters by their number.
-/

namespace ClockDiscipline.Text

/-- The value of a hexadecimal digit, upper or lower case. -/
def hexValue? (c : Char) : Option Nat :=
  let n := c.toNat
  if 48 ≤ n ∧ n ≤ 57 then some (n - 48)
  else if 97 ≤ n ∧ n ≤ 102 then some (n - 87)
  else if 65 ≤ n ∧ n ≤ 70 then some (n - 55)
  else none

/-- A number in lower-case hexadecimal without leading zeros. -/
def hexText (n : Nat) : List Char :=
  let d := n % 16
  let last := Char.ofNat (if d < 10 then 48 + d else 87 + d)
  if n < 16 then [last] else hexText (n / 16) ++ [last]
termination_by n
decreasing_by omega

/-- A character by its number, in braces. -/
def byNumber (c : Char) : List Char := '\\' :: 'u' :: '\x7b' :: (hexText c.toNat ++ ['\x7d'])

end ClockDiscipline.Text
