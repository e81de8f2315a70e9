/-
  ClockDiscipline.Engine.LineFit — the least-squares line through points.

  The slope is the sum of the products of the distances from the two means over the sum
  of the squares of the horizontal ones. There is no line through fewer than two points,
  nor where no horizontal distance is left.
-/

import ClockDiscipline.Number.Scalar

namespace ClockDiscipline

namespace LineFit

variable {R : Type} [Scalar R]

def sum (xs : List R) : R := xs.foldl (· + ·) (Scalar.ofInt 0)

def mean (xs : List R) : R := sum xs / Scalar.ofInt xs.length

/-- Slope and intercept of the line nearest to the points. -/
def fit? (points : List (R × R)) : Option (R × R) :=
  if points.length < 2 then none
  else
    let mx := mean (points.map (·.1))
    let my := mean (points.map (·.2))
    let sxx := sum (points.map fun p => (p.1 - mx) * (p.1 - mx))
    let sxy := sum (points.map fun p => (p.1 - mx) * (p.2 - my))
    if Scalar.isZero sxx then none
    else
      let slope := sxy / sxx
      some (slope, my - slope * mx)

end LineFit

end ClockDiscipline
