/-
  ClockDiscipline.Pattern.Reader — which texts are patterns.

  A pattern is a row of characters, escapes, sets, groups and repetitions, and several
  of them with bars between. It is read once from front to back; what is open is kept
  in a list of levels, one for each group. The result is how deep its parts are nested,
  for nesting is bounded.

  No pattern here counts its repetitions: a brace outside of a set starts nothing.
-/

import ClockDiscipline.Pattern.Set
import ClockDiscipline.Text.Alphanumeric

namespace ClockDiscipline.Pattern

/-! ## Groups -/

/-- What a parenthesis opens. -/
inductive Opening where
  /-- Nothing; other flags hold for the rest of the group. -/
  | switch (flags : Flags)
  /-- A group under these flags. -/
  | group (flags : Flags)
  /-- A group with a name. -/
  | named (name : List Char)
  deriving DecidableEq, Repr

/-- Whether a text can name a group. -/
def isName : List Char → Bool
  | [] => false
  | c :: cs =>
    (c == '_' || Text.isAlphabetic c) &&
      cs.all fun c => c == '_' || c == '.' || c == '[' || c == ']' || Text.isAlphanumeric c

def name? (text : List Char) : Option (Opening × List Char) :=
  let name := text.takeWhile (· != '>')
  match text.drop name.length with
  | [] => none
  | _ :: rest => if isName name then some (.named name, rest) else none

/-- Flags up to a colon, where a group follows them, or up to a closing parenthesis. Each stands once, and
    the last one is no hyphen. -/
def flags? (f : Flags) (text : List Char) : Option (Opening × List Char) :=
  let letters := text.takeWhile fun c => c != ':' && c != ')'
  let sound := letters.all ['-', 'i', 'm', 's', 'R', 'U', 'u', 'x'].contains && decide (letters.Nodup) &&
    letters.getLast? != some '-'
  match text.drop letters.length with
  | ':' :: rest => if sound then some (.group (f.switch letters), rest) else none
  | ')' :: rest => if sound && !letters.isEmpty then some (.switch (f.switch letters), rest) else none
  | _ => none

/-- What a parenthesis opens, and the rest behind it. -/
def opened? (f : Flags) (text : List Char) : Option (Opening × List Char) :=
  match skip f text with
  | '?' :: 'P' :: '<' :: rest => name? rest
  | '?' :: '<' :: rest => name? rest
  | '?' :: rest => flags? f rest
  | rest => some (.group f, rest)

/-! ## Rows -/

/-- A part of a row. -/
structure Part where
  depth : Nat
  /-- Whether it can be repeated. -/
  repeatable : Bool
  deriving DecidableEq, Repr

/-- A group that is being read, or the whole. -/
structure OpenGroup where
  /-- The flags that hold behind it. -/
  after : Flags
  /-- How deep the rows in front of the last bar are nested. -/
  rows : Option Nat
  /-- The row behind it, the last part first. -/
  row : List Part
  deriving DecidableEq, Repr

namespace OpenGroup

def start (after : Flags) : OpenGroup := ⟨after, none, []⟩

def depth (g : OpenGroup) : Nat := besideDepth g.rows (rowDepth (g.row.map Part.depth))

def add (g : OpenGroup) (p : Part) : OpenGroup := { g with row := p :: g.row }

/-- Go on behind a bar. -/
def alternate (g : OpenGroup) : OpenGroup :=
  { g with rows := some (max (g.rows.getD 0) (rowDepth (g.row.map Part.depth))), row := [] }

/-- Repeat the last part. -/
def repeatLast? (g : OpenGroup) : Option OpenGroup :=
  match g.row with
  | p :: row => if p.repeatable then some { g with row := ⟨p.depth + 1, true⟩ :: row } else none
  | [] => none

end OpenGroup

/-- Whether an escape can be a part of a row. -/
def Flags.takes (f : Flags) : Escape → Bool
  | .char byte c => f.takesChar byte c
  | .shorthand negated => f.takesShorthand negated
  | .place word => f.takesPlace word

/-- How deep a pattern is nested; `names` are those of its groups so far. -/
def read? : (fuel : Nat) → (names : List (List Char)) → Flags → OpenGroup → (outer : List OpenGroup) → List Char → Option Nat
  | 0, _, _, _, _, _ => none
  | fuel + 1, names, f, here, outer, text =>
    match skip f text with
    | [] => if outer.isEmpty then some here.depth else none
    | '(' :: rest =>
      match opened? f rest with
      | some (.switch g, rest) => read? fuel names g (here.add ⟨0, false⟩) outer rest
      | some (.group g, rest) => read? fuel names g (.start f) (here :: outer) rest
      | some (.named name, rest) =>
        if names.contains name then none else read? fuel (name :: names) f (.start f) (here :: outer) rest
      | none => none
    | ')' :: rest =>
      match outer with
      | around :: outer => read? fuel names here.after (around.add ⟨here.depth + 1, true⟩) outer rest
      | [] => none
    | '|' :: rest => read? fuel names f here.alternate outer rest
    | '[' :: rest =>
      match set? f rest with
      | some (depth, rest) => read? fuel names f (here.add ⟨depth, true⟩) outer rest
      | none => none
    | '\x7b' :: _ => none
    | '.' :: rest => if f.unicode then read? fuel names f (here.add ⟨0, true⟩) outer rest else none
    | c :: rest =>
      if c = '*' ∨ c = '+' ∨ c = '?' then
        match here.repeatLast? with
        | some here => read? fuel names f here outer (if rest.head? = some '?' then rest.tail else rest)
        | none => none
      else if c = '^' ∨ c = '$' then read? fuel names f (here.add ⟨0, true⟩) outer rest
      else
        match member? f (c :: rest) with
        | some (e, rest) => if f.takes e then read? fuel names f (here.add ⟨0, true⟩) outer rest else none
        | none => none

/-- The deepest nesting that a pattern may have. -/
def maxDepth : Nat := 250

end ClockDiscipline.Pattern

namespace ClockDiscipline

/-- Whether a text is a pattern. -/
def isPattern (text : List Char) : Bool :=
  match Pattern.read? (text.length + 1) [] .standard (.start .standard) [] text with
  | some depth => decide (depth ≤ Pattern.maxDepth)
  | none => false

example : ["", "a**", "(?P<n>x)", "[^a-z&&[:alpha:]]", "(?-u:\\d)", "(?x) a # b", "x|"].all (isPattern ·.toList) = true := by
  decide +kernel

example : ["(", ")", "+a", "**", "a\x7b2", "\\q", "\\1", "(?i)x", "\\d", "(?)", "[z-a]", "(?<n>)(?<n>)"].all
    (isPattern ·.toList) = false := by decide +kernel

end ClockDiscipline
