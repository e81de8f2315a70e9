/-
  ClockDiscipline.Json.Reader — reading JSON texts.

  This stands for the reader of `serde_json`, and assumes what its documentation says of it,
  which is the strict grammar of JSON: no leading zeros, no lone signs, no control characters
  between quotes, nothing after the value but blanks. Each reader takes what it needs off the
  front and gives the rest back; nesting is bounded by the length of the text.
-/

import ClockDiscipline.Json.Value
import ClockDiscipline.Text.Hex

namespace ClockDiscipline.Json

open Decimal (isDigit)
open ClockDiscipline.Text (hexValue?)

def isSpace (c : Char) : Bool := c == ' ' || c == '\t' || c == '\n' || c == '\r'

def skip (cs : List Char) : List Char := cs.dropWhile isSpace

/-! ## Numbers -/

/-- One or more digits off the front. -/
def readDigits? (cs : List Char) : Option (List Char × List Char) :=
  match cs.takeWhile isDigit with
  | [] => none
  | ds => some (ds, cs.dropWhile isDigit)

/-- A fraction off the front, if one starts there. -/
def readFraction? : List Char → Option (Bool × List Char)
  | '.' :: cs => (readDigits? cs).map fun p => (true, p.2)
  | cs => some (false, cs)

/-- An exponent off the front, if one starts there. -/
def readExponent? (cs : List Char) : Option (Bool × List Char) :=
  match cs with
  | c :: rest =>
    if c = 'e' ∨ c = 'E' then
      let digits := match rest with
        | '+' :: r => r
        | '-' :: r => r
        | r => r
      (readDigits? digits).map fun p => (true, p.2)
    else some (false, cs)
  | [] => some (false, [])

/-- A number without its sign. -/
def readSize? (negative : Bool) (cs : List Char) : Option (Json × List Char) := do
  let (ds, cs) ← readDigits? cs
  if ds.head? = some '0' ∧ ds ≠ ['0'] then none
  let (fraction, cs) ← readFraction? cs
  let (exponent, cs) ← readExponent? cs
  let n := Decimal.value ds
  if fraction || exponent || (negative && n == 0) then return (.real, cs)
  else return (.int (if negative then -(n : Int) else n), cs)

def readNumber? : List Char → Option (Json × List Char)
  | '-' :: cs => readSize? true cs
  | cs => readSize? false cs

/-! ## Texts -/

/-- What stands for one 16-bit unit of a text. -/
inductive Unit16 where
  | char (c : Char)
  /-- The first half of a surrogate pair. -/
  | high (n : Nat)
  /-- The second half of a surrogate pair. -/
  | low (n : Nat)

def unit16 (n : Nat) : Unit16 :=
  if 0xd800 ≤ n ∧ n < 0xdc00 then .high n else if 0xdc00 ≤ n ∧ n < 0xe000 then .low n else .char (Char.ofNat n)

/-- The unit of an escape of four hexadecimal digits. -/
def hexEscape? (a b c d : Char) : Option Unit16 := do
  let a ← hexValue? a
  let b ← hexValue? b
  let c ← hexValue? c
  let d ← hexValue? d
  return unit16 (((a * 16 + b) * 16 + c) * 16 + d)

/-- The character of an escape of one letter. -/
def shortEscape? (c : Char) : Option Char :=
  if c = '"' ∨ c = '\\' ∨ c = '/' then some c
  else if c = 'b' then some '\x08'
  else if c = 'f' then some '\x0c'
  else if c = 'n' then some '\n'
  else if c = 'r' then some '\r'
  else if c = 't' then some '\t'
  else none

/-- The character of a surrogate pair. -/
def pairChar (high low : Nat) : Char := Char.ofNat (0x10000 + (high - 0xd800) * 1024 + (low - 0xdc00))

/-- The characters of a row of units; none where half a surrogate pair stands without the other. -/
def joined? : List Unit16 → Option (List Char)
  | [] => some []
  | .char c :: units => (joined? units).map (c :: ·)
  | .high high :: .low low :: units => (joined? units).map (pairChar high low :: ·)
  | _ => none

/-- The units up to the closing quote, and what follows it. -/
def readUnits? : List Char → Option (List Unit16 × List Char)
  | [] => none
  | '"' :: cs => some ([], cs)
  | '\\' :: 'u' :: a :: b :: c :: d :: cs => do
    let unit ← hexEscape? a b c d
    let (units, cs) ← readUnits? cs
    return (unit :: units, cs)
  | '\\' :: c :: cs => do
    let c ← shortEscape? c
    let (units, cs) ← readUnits? cs
    return (.char c :: units, cs)
  | c :: cs =>
    if c.toNat < 32 then none
    else do
      let (units, cs) ← readUnits? cs
      return (.char c :: units, cs)

/-- A text off the front, its opening quote already taken. -/
def readText? (cs : List Char) : Option (Text × List Char) :=
  (readUnits? cs).map fun p =>
    (match joined? p.1 with
      | some t => .plain (String.ofList t)
      | none => .garbled, p.2)

/-! ## Values -/

/-- A word off the front. -/
def readWord? (word : List Char) (v : Json) (cs : List Char) : Option (Json × List Char) :=
  if word.isPrefixOf cs then some (v, cs.drop word.length) else none

mutual

/-- A value off the front, after blanks. -/
def readValue? : (fuel : Nat) → List Char → Option (Json × List Char)
  | 0, _ => none
  | fuel + 1, cs =>
    match skip cs with
    | [] => none
    | '"' :: cs => (readText? cs).map fun p => (.text p.1, p.2)
    | '[' :: cs =>
      match skip cs with
      | ']' :: cs => some (.array [], cs)
      | cs => do
        let (v, cs) ← readValue? fuel cs
        let (vs, cs) ← readItems? fuel cs
        return (.array (v :: vs), cs)
    | '\x7b' :: cs =>
      match skip cs with
      | '\x7d' :: cs => some (.object [], cs)
      | cs => do
        let (m, cs) ← readMember? fuel cs
        let (ms, cs) ← readMembers? fuel cs
        return (.object (m :: ms), cs)
    | 'n' :: cs => readWord? "ull".toList .null cs
    | 't' :: cs => readWord? "rue".toList (.bool true) cs
    | 'f' :: cs => readWord? "alse".toList (.bool false) cs
    | cs => readNumber? cs

/-- The items after the first, up to the closing bracket. -/
def readItems? : (fuel : Nat) → List Char → Option (List Json × List Char)
  | 0, _ => none
  | fuel + 1, cs =>
    match skip cs with
    | ']' :: cs => some ([], cs)
    | ',' :: cs => do
      let (v, cs) ← readValue? fuel cs
      let (vs, cs) ← readItems? fuel cs
      return (v :: vs, cs)
    | _ => none

/-- A name, a colon and a value, after blanks. -/
def readMember? : (fuel : Nat) → List Char → Option ((Text × Json) × List Char)
  | 0, _ => none
  | fuel + 1, cs =>
    match skip cs with
    | '"' :: cs => do
      let (k, cs) ← readText? cs
      match skip cs with
      | ':' :: cs =>
        let (v, cs) ← readValue? fuel cs
        return ((k, v), cs)
      | _ => none
    | _ => none

/-- The members after the first, up to the closing brace. -/
def readMembers? : (fuel : Nat) → List Char → Option (List (Text × Json) × List Char)
  | 0, _ => none
  | fuel + 1, cs =>
    match skip cs with
    | '\x7d' :: cs => some ([], cs)
    | ',' :: cs => do
      let (m, cs) ← readMember? fuel cs
      let (ms, cs) ← readMembers? fuel cs
      return (m :: ms, cs)
    | _ => none

end

/-- The value of a whole text. -/
def read? (s : String) : Option Json :=
  let cs := s.toList
  match readValue? (2 * cs.length + 2) cs with
  | some (v, rest) => if (skip rest).isEmpty then some v else none
  | none => none

end ClockDiscipline.Json
