/-
  ClockDiscipline.Text.Defused — texts that a terminal only shows.

  The characters that start or end a control sequence are written by their number: bell,
  backspace, form feed, escape and delete by two hexadecimal digits, the controls from
  U+0080 to U+009F in braces. All others stand as they are, the line feed, the tab and
  the rest of the ASCII controls included.
-/

import ClockDiscipline.Text.Hex

namespace ClockDiscipline.Text

def defusedChar (c : Char) : List Char :=
  match c.toNat with
  | 0x07 => ['\\', 'x', '0', '7']
  | 0x08 => ['\\', 'x', '0', '8']
  | 0x0c => ['\\', 'x', '0', 'c']
  | 0x1b => ['\\', 'x', '1', 'b']
  | 0x7f => ['\\', 'x', '7', 'f']
  | n => if 0x80 ≤ n ∧ n ≤ 0x9f then byNumber c else [c]

/-- A text without control sequences. -/
def defused (s : String) : String := String.ofList (s.toList.flatMap defusedChar)

example : defused "a\x1b[0m\t\u009b" = "a\\x1b[0m\t\\u\x7b9b\x7d" := by decide +kernel

end ClockDiscipline.Text
