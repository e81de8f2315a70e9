/-
  ClockDiscipline.Number.FloatText — texts of doubles.

  Reading takes a sign, digits with an optional point, and an optional exponent, or the
  words `inf`, `infinity` and `nan` in any case; the value is the double nearest to the
  decimal number. Writing never uses an exponent: `shortest` gives the fewest digits
  that still read back as the same double, of two such the nearer one and on a tie the
  larger; `fixed` gives a fixed number of places of the exact value, a tie going to the
  even digit. Both show the sign of a negative zero.
-/

import ClockDiscipline.Number.Decimal
import ClockDiscipline.Number.Binary64

namespace ClockDiscipline.FloatText

open Decimal (isDigit digits value natural? integer?)

/-! ## Reading -/

/-- Lower case of an ASCII letter. -/
def lower (c : Char) : Char := if 'A' ≤ c ∧ c ≤ 'Z' then Char.ofNat (c.toNat + 32) else c

/-- The double nearest to `m * 10^e`. With `2^b` the power of two next below `m`, `m` lies between `10^(b / 4)` and
    `10^(b / 3 + 1)`, which tells sizes out of range before any power of ten is computed. -/
def nearest (m : Nat) (e : Int) : Float :=
  let b : Int := m.log2
  if m = 0 then 0
  else if 310 < b / 4 + e then Float.ofBits 0x7ff0000000000000
  else if b / 3 + 1 + e < -400 then 0
  else Float.ofScientific m (decide (e < 0)) e.natAbs

/-- Digits with an optional point and exponent, as mantissa and power of ten. -/
def decimal? (cs : List Char) : Option (Nat × Int) :=
  let mantissa := cs.takeWhile (fun c => isDigit c || c == '.')
  let rest := cs.dropWhile (fun c => isDigit c || c == '.')
  let whole := mantissa.takeWhile isDigit
  let fraction? : Option (List Char) :=
    match mantissa.dropWhile isDigit with
    | [] => some []
    | _ :: f => if f.all isDigit then some f else none
  match fraction? with
  | none => none
  | some fraction =>
    if (whole ++ fraction).isEmpty then none
    else
      let m := value (whole ++ fraction)
      let shift : Int := -(fraction.length : Int)
      match rest with
      | [] => some (m, shift)
      | c :: ds => if lower c = 'e' then (integer? true ds).map (fun e => (m, e + shift)) else none

/-- A number without its sign. -/
def unsigned? (cs : List Char) : Option Float :=
  let word := cs.map lower
  if word = "inf".toList ∨ word = "infinity".toList then some (Float.ofBits 0x7ff0000000000000)
  else if word = "nan".toList then some (Float.ofBits 0x7ff8000000000000)
  else (decimal? cs).map (fun d => nearest d.1 d.2)

def read? (s : String) : Option Float :=
  match s.toList with
  | '+' :: cs => unsigned? cs
  | '-' :: cs => (unsigned? cs).map (fun x => -x)
  | cs => unsigned? cs

/-! ## Writing -/

/-- The reals that read as one double, as fractions over one denominator; the ends belong to them when
    `closed`. -/
structure Interval where
  low : Nat
  mid : Nat
  high : Nat
  den : Nat
  closed : Bool

def Interval.holds (i : Interval) (num den : Nat) : Bool :=
  if i.closed then decide (i.low * den ≤ num * i.den) && decide (num * i.den ≤ i.high * den)
  else decide (i.low * den < num * i.den) && decide (num * i.den < i.high * den)

/-- The reals nearer to `m * 2^q` than to any other double. Below a power of two the doubles lie twice as
    dense. -/
def interval (m : Nat) (q : Int) : Interval :=
  let r := Binary64.ratio 1 q
  let gap := if m = 0x10000000000000 ∧ -1074 < q then 1 else 2
  ⟨(4 * m - gap) * r.1, 4 * m * r.1, (4 * m + 2) * r.1, 4 * r.2, m % 2 = 0⟩

/-- The place `k` of the leading digit: the least one with `num / den < 10^k`. -/
def leadingPlace (num den : Nat) : Int := ((digits (num * Nat.pow 10 400 / den)).length : Int) - 400

/-- The fraction `10^k`. -/
def tenTo (k : Int) : Nat × Nat :=
  match k with
  | .ofNat n => (Nat.pow 10 n, 1)
  | .negSucc n => (1, Nat.pow 10 (n + 1))

/-- The neighbour of the middle on the grid of multiples of `10^k` that lies in the interval; of two the
    nearer, on a tie the larger. -/
def gridHit? (i : Interval) (k : Int) : Option Nat :=
  let g := tenTo k
  let n := i.mid * g.2 / (i.den * g.1)
  let down := i.holds (n * g.1) g.2
  let up := i.holds ((n + 1) * g.1) g.2
  let nearerUp := decide ((2 * n + 1) * g.1 * i.den ≤ 2 * i.mid * g.2)
  if up && (!down || nearerUp) then some (n + 1) else if down then some n else none

/-- The first grid with a hit, from one digit on, as digits and power of ten. A lone nine that goes up is a
    one at the place before. -/
def shortestDigits (i : Interval) (place : Int) : Nat → Nat → Nat × Int
  | 0, _ => (0, 0)
  | left + 1, n =>
    let k := place - n
    match gridHit? i k with
    | some d => if d = 10 then (1, k + 1) else (d, k)
    | none => shortestDigits i place left (n + 1)

/-- The digits `d * 10^k` without an exponent. -/
def positional (d : Nat) (k : Int) : List Char :=
  match k with
  | .ofNat n => digits d ++ List.replicate n '0'
  | .negSucc n =>
    let ds := digits d
    let places := n + 1
    if places < ds.length then ds.take (ds.length - places) ++ '.' :: ds.drop (ds.length - places)
    else '0' :: '.' :: (List.replicate (places - ds.length) '0' ++ ds)

/-- A whole number of units of `10^-k`, with all `k` places shown. -/
def withPlaces (places n : Nat) : List Char :=
  if places = 0 then digits n
  else
    let fraction := digits (n % Nat.pow 10 places)
    digits (n / Nat.pow 10 places) ++ '.' :: (List.replicate (places - fraction.length) '0' ++ fraction)

def signText (negative : Bool) : String := if negative then "-" else ""

/-- The fewest digits that read back, never with an exponent. -/
def shortest (x : Float) : String :=
  match Binary64.view x with
  | .nan => "NaN"
  | .infinite negative => signText negative ++ "inf"
  | .finite negative m q =>
    if m = 0 then signText negative ++ "0"
    else
      let i := interval m q
      let (d, k) := shortestDigits i (leadingPlace i.mid i.den) 18 1
      signText negative ++ String.ofList (positional d k)

/-- The exact value rounded to a fixed number of places. -/
def fixed (places : Nat) (x : Float) : String :=
  match Binary64.view x with
  | .nan => "NaN"
  | .infinite negative => signText negative ++ "inf"
  | .finite negative m q =>
    let r := Binary64.ratio m q
    signText negative ++ String.ofList (withPlaces places (Binary64.roundHalfEven (r.1 * Nat.pow 10 places) r.2))

/-- The 64 bits as sixteen lower-case hexadecimal digits. -/
def hexDigits (n : Nat) (width : Nat) : List Char :=
  (List.range width).reverse.map fun i =>
    let d := n / Nat.pow 16 i % 16
    Char.ofNat (if d < 10 then 48 + d else 87 + d)

end ClockDiscipline.FloatText
