/-
  ClockDiscipline.Text.Bytes — texts cut at a count of bytes.

  A count that ends inside of a character, or behind the end, cuts nothing.

  Proved: (1) behind the bytes of its front part a text goes on with the rest
  (`dropBytes?_append`), and they hold the front part (`takeBytes?_append`).
-/

namespace ClockDiscipline.Text

/-- How many bytes a text takes in UTF-8. -/
def byteSize : List Char → Nat
  | [] => 0
  | c :: cs => c.utf8Size + byteSize cs

/-- What follows the first `n` bytes. -/
def dropBytes? (n : Nat) : List Char → Option (List Char)
  | [] => if n = 0 then some [] else none
  | c :: cs => if n = 0 then some (c :: cs) else if n < c.utf8Size then none else dropBytes? (n - c.utf8Size) cs

/-- The first `n` bytes. -/
def takeBytes? (n : Nat) : List Char → Option (List Char)
  | [] => if n = 0 then some [] else none
  | c :: cs =>
    if n = 0 then some [] else if n < c.utf8Size then none else (takeBytes? (n - c.utf8Size) cs).map (c :: ·)

/-- From one count of bytes up to another. -/
def between? (start stop : Nat) (cs : List Char) : Option (List Char) :=
  (dropBytes? start cs).bind (takeBytes? (stop - start))

/-! ## (1) Cutting between characters -/

theorem dropBytes?_append (a b : List Char) : dropBytes? (byteSize a) (a ++ b) = some b := by
  induction a with
  | nil => cases b <;> simp [byteSize, dropBytes?]
  | cons c a ih =>
    have pos := c.utf8Size_pos
    rw [List.cons_append, byteSize, dropBytes?, if_neg (by omega), if_neg (by omega), Nat.add_sub_cancel_left, ih]

theorem takeBytes?_append (a b : List Char) : takeBytes? (byteSize a) (a ++ b) = some a := by
  induction a with
  | nil => cases b <;> simp [byteSize, takeBytes?]
  | cons c a ih =>
    have pos := c.utf8Size_pos
    rw [List.cons_append, byteSize, takeBytes?, if_neg (by omega), if_neg (by omega), Nat.add_sub_cancel_left, ih]
    rfl

end ClockDiscipline.Text
