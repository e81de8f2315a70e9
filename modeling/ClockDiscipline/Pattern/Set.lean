/-
  ClockDiscipline.Pattern.Set — sets of characters in square brackets.

  A set holds characters, ranges, classes and further sets, and combines what it holds by
  `&&`, `--` and `~~`. A caret in front negates it. Hyphens in front stand for
  themselves, and so does a closing bracket that comes first.
-/

import ClockDiscipline.Pattern.Escape

namespace ClockDiscipline.Pattern

/-- A set that is being read. -/
structure OpenSet where
  /-- Nothing but hyphens so far. -/
  fresh : Bool
  /-- How deep the part in front of the last operator is nested. -/
  left : Option Nat
  /-- How deep each member behind it is nested. -/
  members : List Nat
  deriving DecidableEq, Repr

namespace OpenSet

def start : OpenSet := ⟨true, none, []⟩

def depth (s : OpenSet) : Nat := besideDepth s.left (rowDepth s.members)

def add (s : OpenSet) (depth : Nat) : OpenSet := { s with fresh := false, members := depth :: s.members }

/-- Go on behind an operator. -/
def combine (s : OpenSet) : OpenSet := ⟨false, some s.depth, []⟩

end OpenSet

def classNames : List String :=
  ["alnum", "alpha", "ascii", "blank", "cntrl", "digit", "graph", "lower", "print", "punct", "space", "upper", "word", "xdigit"]

/-- Whether a class such as `[:alpha:]` is negated, and the rest, its first bracket already taken. -/
def namedClass? : List Char → Option (Bool × List Char)
  | ':' :: text =>
    let negated := text.head? = some '^'
    let text := if negated then text.tail else text
    let name := text.takeWhile (· != ':')
    match text.drop name.length with
    | ':' :: ']' :: rest => if classNames.contains (String.ofList name) then some (negated, rest) else none
    | _ => none
  | _ => none

/-- Whether a set is negated, and the rest, its bracket already taken. -/
def opening (f : Flags) (text : List Char) : Bool × List Char :=
  match skip f text with
  | '^' :: rest => (true, rest)
  | rest => (false, rest)

/-- What follows a member that is no range, if a set can have it. -/
def alone? (f : Flags) (member : Escape) (rest : List Char) : Option (List Char) :=
  let taken := match member with
    | .char _ c => f.takesMember c
    | .shorthand negated => f.takesShorthand negated
    | .place _ => false
  if taken then some rest else none

/-- What follows the range or the single member that a text starts with. A hyphen makes a range unless a
    bracket or another hyphen follows it. -/
def item? (f : Flags) (text : List Char) : Option (List Char) :=
  match member? f text with
  | none => none
  | some (first, rest) =>
    match skip f rest with
    | [] => none
    | '-' :: after =>
      if peek? f after = some ']' ∨ peek? f after = some '-' then alone? f first ('-' :: after)
      else
        match first, member? f (skip f after) with
        | .char _ low, some (.char _ high, rest) =>
          if low.toNat ≤ high.toNat ∧ f.takesMember low ∧ f.takesMember high then some rest else none
        | _, _ => none
    | rest => alone? f first rest

/-- How deep a set is nested, and what follows it, its bracket already taken; `outer` are the sets around it. -/
def readSet? (f : Flags) : (fuel : Nat) → OpenSet → (outer : List OpenSet) → List Char → Option (Nat × List Char)
  | 0, _, _, _ => none
  | fuel + 1, here, outer, text =>
    let text := skip f text
    let first := text.head?
    if here.fresh ∧ (first = some '-' ∨ first = some ']' ∧ here.members = []) then
      if f.takesMember '-' then readSet? f fuel { here.add 0 with fresh := first = some '-' } outer text.tail else none
    else
      match text with
      | '[' :: rest =>
        match namedClass? rest with
        | some (negated, rest) => if f.takesClass negated then readSet? f fuel (here.add 0) outer rest else none
        | none =>
          let (negated, rest) := opening f rest
          if f.takesSet negated then readSet? f fuel .start (here :: outer) rest else none
      | ']' :: rest =>
        match outer with
        | [] => some (here.depth + 1, rest)
        | around :: outer => readSet? f fuel (around.add (here.depth + 1)) outer rest
      | '&' :: '&' :: rest => readSet? f fuel here.combine outer rest
      | '-' :: '-' :: rest => readSet? f fuel here.combine outer rest
      | '~' :: '~' :: rest => readSet? f fuel here.combine outer rest
      | text =>
        match item? f text with
        | some rest => readSet? f fuel (here.add 0) outer rest
        | none => none

/-- How deep the set behind a bracket is nested, and what follows it. -/
def set? (f : Flags) (text : List Char) : Option (Nat × List Char) :=
  let (negated, rest) := opening f text
  if f.takesSet negated then readSet? f (rest.length + 1) .start [] rest else none

end ClockDiscipline.Pattern
