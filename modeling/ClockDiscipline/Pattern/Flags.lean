/-
  ClockDiscipline.Pattern.Flags — what switches how a pattern is read.

  Flags hold from where they are set to the end of their group. Three of them decide
  what can stand in a pattern: whether the case of letters counts, whether it is about
  characters or about bytes, and whether blanks and comments in it count. The others
  (`m`, `s`, `R`, `U`) change what is found and never whether the pattern is one.

  Matching goes over text, and no table of characters stands behind it. So a pattern
  about characters cannot do without the case of its letters and has no named classes
  such as words and digits, and one about bytes has ASCII alone.
-/

import ClockDiscipline.Text.Blank

namespace ClockDiscipline.Pattern

structure Flags where
  /-- The case of letters does not count. -/
  caseless : Bool
  /-- The pattern is about characters and not about bytes. -/
  unicode : Bool
  /-- Blanks and comments in the pattern do not count. -/
  spaced : Bool
  deriving DecidableEq, Repr

namespace Flags

def standard : Flags := ⟨false, true, false⟩

/-- Set the flags in front of a hyphen and clear those behind it. -/
def switch (f : Flags) (letters : List Char) : Flags :=
  let on := letters.takeWhile (· != '-')
  let off := letters.drop on.length
  let set (c : Char) (old : Bool) : Bool := on.contains c || old && !off.contains c
  ⟨set 'i' f.caseless, set 'u' f.unicode, set 'x' f.spaced⟩

/-- Whether a character can stand for itself; `byte` where it was given as the number of a byte. -/
def takesChar (f : Flags) (byte : Bool) (c : Char) : Bool :=
  if f.unicode then !f.caseless else !byte || decide (c.toNat < 128)

/-- Whether a character can be a member of a set. -/
def takesMember (f : Flags) (c : Char) : Bool := if f.unicode then !f.caseless else decide (c.toNat < 128)

/-- Whether a class of ASCII, or what is outside of it, can be a part of a set. -/
def takesClass (f : Flags) (negated : Bool) : Bool := if f.unicode then !f.caseless else !negated

/-- Whether there can be digits, blanks or word characters, or what is not one. -/
def takesShorthand (f : Flags) (negated : Bool) : Bool := !f.unicode && !negated

/-- Whether there can be a set, or what is outside of it. -/
def takesSet (f : Flags) (negated : Bool) : Bool := f.unicode || !negated

/-- Whether there can be a place in the text; `word` where words begin or end there. -/
def takesPlace (f : Flags) (word : Bool) : Bool := !word || !f.unicode

end Flags

/-- Leave out blanks, and comments from `#` to the end of the line. -/
def skipComments (inComment : Bool) : List Char → List Char
  | [] => []
  | c :: cs =>
    if inComment then skipComments (c != '\n') cs
    else if Text.isBlank c then skipComments false cs
    else if c = '#' then skipComments true cs
    else c :: cs

/-- The text from the next character that counts. -/
def skip (f : Flags) (text : List Char) : List Char := if f.spaced then skipComments false text else text

/-- A look at the next character that counts; a comment is looked into. -/
def peek? (f : Flags) (text : List Char) : Option Char :=
  if f.spaced then
    match text.dropWhile Text.isBlank with
    | '#' :: comment => (comment.dropWhile Text.isBlank).head?
    | rest => rest.head?
  else text.head?

/-- How deep parts are nested that stand in a row. A part alone makes no row. -/
def rowDepth : List Nat → Nat
  | [] => 0
  | [d] => d
  | ds => ds.foldl max 0 + 1

/-- How deep two sides are nested, the left one if there is one. -/
def besideDepth (left : Option Nat) (right : Nat) : Nat :=
  match left with
  | some d => max d right + 1
  | none => right

end ClockDiscipline.Pattern
