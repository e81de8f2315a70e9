/-
  ClockDiscipline.Json.Value — JSON values and their text.

  An object keeps its members in order, repeated names included. A number is kept as an
  integer if it is written as one; minus zero, fractions and exponents are not integers.
  A text whose escapes name half of a surrogate pair has no characters: it is garbled.
-/

import ClockDiscipline.Number.Decimal

namespace ClockDiscipline

namespace Json

inductive Text where
  | plain (s : String)
  | garbled
  deriving DecidableEq, Repr, Inhabited

end Json

inductive Json where
  | null
  | bool (b : Bool)
  | int (n : Int)
  /-- A number that is not written as an integer. -/
  | real
  | text (t : Json.Text)
  | array (items : List Json)
  | object (members : List (Json.Text × Json))
  deriving Repr, Inhabited

namespace Json

def str (s : String) : Json := .text (.plain s)

def ofFields (fields : List (String × Json)) : Json := .object (fields.map fun f => (.plain f.1, f.2))

/-! ## Writing -/

def hexDigit (d : Nat) : Char := Char.ofNat (if d < 10 then 48 + d else 87 + d)

/-- One character between quotes. Controls are escaped and everything else stands as it is. -/
def writeChar (c : Char) : List Char :=
  if c = '"' then ['\\', '"']
  else if c = '\\' then ['\\', '\\']
  else if c = '\n' then ['\\', 'n']
  else if c = '\r' then ['\\', 'r']
  else if c = '\t' then ['\\', 't']
  else if c.toNat = 8 then ['\\', 'b']
  else if c.toNat = 12 then ['\\', 'f']
  else if c.toNat < 32 then ['\\', 'u', '0', '0', hexDigit (c.toNat / 16), hexDigit (c.toNat % 16)]
  else [c]

/-- Characters between quotes, in front of a rest. -/
def writeChars : List Char → List Char → List Char
  | [], rest => rest
  | c :: cs, rest => writeChar c ++ writeChars cs rest

/-- A text in front of a rest. A garbled one is written as half a pair. -/
def writeText (t : Text) (rest : List Char) : List Char :=
  match t with
  | .plain s => '"' :: writeChars s.toList ('"' :: rest)
  | .garbled => "\"\\ud800\"".toList ++ rest

mutual

/-- A value in front of a rest. -/
def write : Json → List Char → List Char
  | .null, rest => "null".toList ++ rest
  | .bool true, rest => "true".toList ++ rest
  | .bool false, rest => "false".toList ++ rest
  | .int n, rest => Decimal.integer n ++ rest
  | .real, rest => "0.0".toList ++ rest
  | .text t, rest => writeText t rest
  | .array [], rest => '[' :: ']' :: rest
  | .array (v :: vs), rest => '[' :: write v (writeItems vs rest)
  | .object [], rest => '\x7b' :: '\x7d' :: rest
  | .object ((k, v) :: ms), rest => '\x7b' :: writeText k (':' :: write v (writeMembers ms rest))

/-- The items after the first, and the closing bracket. -/
def writeItems : List Json → List Char → List Char
  | [], rest => ']' :: rest
  | v :: vs, rest => ',' :: write v (writeItems vs rest)

/-- The members after the first, and the closing brace. -/
def writeMembers : List (Text × Json) → List Char → List Char
  | [], rest => '\x7d' :: rest
  | (k, v) :: ms, rest => ',' :: writeText k (':' :: write v (writeMembers ms rest))

end

def render (j : Json) : String := String.ofList (write j [])

end Json

end ClockDiscipline
