/-
  ClockDiscipline.Text.Quoted — texts in quotes, as messages show them.

  A double quote, a backslash and the controls with a short name are written with a
  backslash; a character without a shape of its own, or one drawn onto its neighbour,
  is written by its number in hexadecimal. A single quote stands as it is.
-/

import ClockDiscipline.Text.Combining
import ClockDiscipline.Text.Hex

namespace ClockDiscipline.Text

/-- One character inside quotes. -/
def quotedChar (c : Char) : List Char :=
  if c = '"' then ['\\', '"']
  else if c = '\\' then ['\\', '\\']
  else if c = '\t' then ['\\', 't']
  else if c = '\r' then ['\\', 'r']
  else if c = '\n' then ['\\', 'n']
  else if c.toNat = 0 then ['\\', '0']
  else if isCombining c || isUnprintable c then byNumber c
  else [c]

/-- A text between double quotes. -/
def quoted (s : String) : String := String.ofList ('"' :: (s.toList.flatMap quotedChar ++ ['"']))

example : quoted "a\"b\\\t\u200b'" = "\"a\\\"b\\\\\\t\\u\x7b200b\x7d'\"" := by decide +kernel

end ClockDiscipline.Text
