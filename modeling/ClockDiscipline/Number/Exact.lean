/-
  ClockDiscipline.Number.Exact — the rationals as the arithmetic of engine and bench.

  Nothing is lost here but by `round`, and every value but zero is fit to divide by. A
  decimal text is the number it says; the words for infinite and undefined values are
  none.
-/

import ClockDiscipline.Number.Scalar

namespace ClockDiscipline.Exact

/-- The next integer, a half going away from zero. -/
def roundToInt (x : Rat) : Int := if 0 ≤ x then (x + 1 / 2).floor else -((-x + 1 / 2).floor)

/-- The whole part, cut off toward zero. -/
def truncate (x : Rat) : Int := if 0 ≤ x then x.floor else -((-x).floor)

def clamp? (lo hi x : Rat) : Option Rat := if lo ≤ hi then some (if x < lo then lo else if hi < x then hi else x) else none

def ofDecimal (m : Nat) (e : Int) : Rat :=
  match e with
  | .ofNat k => (m * Nat.pow 10 k : Nat)
  | .negSucc k => (m : Rat) / (Nat.pow 10 (k + 1) : Rat)

def read? (s : String) : Option Rat :=
  match s.toList with
  | '+' :: cs => (FloatText.decimal? cs).map fun d => ofDecimal d.1 d.2
  | '-' :: cs => (FloatText.decimal? cs).map fun d => -(ofDecimal d.1 d.2)
  | cs => (FloatText.decimal? cs).map fun d => ofDecimal d.1 d.2

/-- Numerator and denominator, the latter only if it is not one. -/
def text (x : Rat) : String := if x.den = 1 then Decimal.text x.num else Decimal.text x.num ++ "/" ++ Decimal.text x.den

def fixed (places : Nat) (x : Rat) : String :=
  FloatText.signText (decide (x < 0)) ++
    String.ofList (FloatText.withPlaces places (Binary64.roundHalfEven (x.num.natAbs * Nat.pow 10 places) x.den))

instance : Scalar Rat where
  ofInt n := (n : Rat)
  round x := (roundToInt x : Rat)
  clamp? := clamp?
  toUInt32 x := UInt32.ofNat (max 0 (min (truncate x) 4294967295)).toNat
  toInt32 x := Int32.ofInt (max (-2147483648) (min (truncate x) 2147483647))
  isNormal x := x != 0
  isZero x := x == 0

instance : Numeral Rat where
  read? := read?
  text := text
  fixed := fixed

end ClockDiscipline.Exact
