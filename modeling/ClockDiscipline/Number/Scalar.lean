/-
  ClockDiscipline.Number.Scalar — the arithmetic that the engine and the bench run on.

  The engine, the line fit and the simulation are written once over `Scalar R`. Doubles
  are the instance that runs; `ClockDiscipline.Number.Exact` gives the rationals, where
  nothing is rounded but by `round`. `clamp?` has no answer between ends in the wrong
  order, and none with an end that is not a number.
-/

import ClockDiscipline.Number.FloatText

namespace ClockDiscipline

class Scalar (R : Type) extends Add R, Sub R, Mul R, Div R, Neg R where
  /-- The nearest value of an integer. -/
  ofInt : Int → R
  /-- The next integer, a half going away from zero. -/
  round : R → R
  /-- `x` put between `lo` and `hi`. -/
  clamp? : (lo hi x : R) → Option R
  /-- The whole part, put into the range of the word; 0 where there is none. -/
  toUInt32 : R → UInt32
  /-- The whole part, put into the range of the word; 0 where there is none. -/
  toInt32 : R → Int32
  /-- Fit to divide by: neither zero nor so small, large or undefined that precision is lost. -/
  isNormal : R → Bool
  isZero : R → Bool

/-- Values that are read from settings and shown in messages. -/
class Numeral (R : Type) extends Scalar R where
  read? : String → Option R
  /-- The fewest digits that read back. -/
  text : R → String
  /-- A fixed number of places. -/
  fixed : Nat → R → String

/-- Put a double between two others: an undefined `x` stays undefined, undefined or inverted ends have no
    answer. -/
def Binary64.clamp? (lo hi x : Float) : Option Float :=
  if lo ≤ hi then some (if x < lo then lo else if hi < x then hi else x) else none

instance : Scalar Float where
  ofInt := Float.ofInt
  round := Binary64.round
  clamp? := Binary64.clamp?
  toUInt32 := Float.toUInt32
  toInt32 := Binary64.toInt32
  isNormal := Binary64.isNormal
  isZero x := x == 0

instance : Numeral Float where
  read? := FloatText.read?
  text := FloatText.shortest
  fixed := FloatText.fixed

end ClockDiscipline
