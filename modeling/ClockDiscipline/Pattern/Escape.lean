/-
  ClockDiscipline.Pattern.Escape — what a backslash in a pattern starts.

  Before punctuation and the other characters of ASCII that are no letters or digits it
  makes the character stand for itself. Some letters give a control character, a
  character by its number, a class, or a place in the text. Any other letter, a digit,
  and a property (`\p`) mean nothing.
-/

import ClockDiscipline.Pattern.Flags
import ClockDiscipline.Text.Hex

namespace ClockDiscipline.Pattern

inductive Escape where
  /-- A character; `byte` where it is the number of a byte. -/
  | char (byte : Bool) (c : Char)
  /-- Digits, blanks or word characters, or what is not one. -/
  | shorthand (negated : Bool)
  /-- A place in the text; `word` where words begin or end there. -/
  | place (word : Bool)
  deriving DecidableEq, Repr

/-- A character by a number of so many digits. -/
def numbered? (f : Flags) : (digits value : Nat) → List Char → Option (Char × List Char)
  | 0, value, text => if value.isValidChar then some (Char.ofNat value, text) else none
  | digits + 1, value, text =>
    match skip f text with
    | [] => none
    | c :: rest =>
      match Text.hexValue? c with
      | some d => numbered? f digits (value * 16 + d) rest
      | none => none

/-- The escape behind a backslash, and the rest. -/
def escape? (f : Flags) : List Char → Option (Escape × List Char)
  | [] => none
  | c :: rest =>
    match c with
    | 'x' => (numbered? f 2 0 rest).map fun p => (.char true p.1, p.2)
    | 'u' => (numbered? f 4 0 rest).map fun p => (.char false p.1, p.2)
    | 'U' => (numbered? f 8 0 rest).map fun p => (.char false p.1, p.2)
    | 'd' | 's' | 'w' => some (.shorthand false, rest)
    | 'D' | 'S' | 'W' => some (.shorthand true, rest)
    | 'A' | 'z' => some (.place false, rest)
    | 'b' | 'B' | '<' | '>' => some (.place true, rest)
    | 'a' => some (.char false '\x07', rest)
    | 't' => some (.char false '\t', rest)
    | 'n' => some (.char false '\n', rest)
    | 'v' => some (.char false '\x0b', rest)
    | 'f' => some (.char false '\x0c', rest)
    | 'r' => some (.char false '\r', rest)
    | c => if c.toNat < 128 ∧ ¬c.isAlphanum then some (.char false c, rest) else none

/-- A character or an escape off the front. -/
def member? (f : Flags) : List Char → Option (Escape × List Char)
  | [] => none
  | '\\' :: rest => escape? f rest
  | c :: rest => some (.char false c, rest)

end ClockDiscipline.Pattern
