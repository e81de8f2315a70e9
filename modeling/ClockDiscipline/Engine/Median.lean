/-
  ClockDiscipline.Engine.Median — the median of the three latest values.

  This stands for the median filter of `flaw`, over integers and three entries wide, and
  assumes what its documentation says of it: the window starts full of one value, which is
  zero here, each new value takes the place of the oldest, and the answer is the middle one
  of the three.
-/

namespace ClockDiscipline

/-- The three latest values. -/
structure Window where
  oldest : Int
  middle : Int
  latest : Int
  deriving DecidableEq, Repr, Inhabited

namespace Window

def zero : Window := ⟨0, 0, 0⟩

def push (w : Window) (v : Int) : Window := ⟨w.middle, w.latest, v⟩

/-- The value with one on either side of it. -/
def median (w : Window) : Int := max (min w.oldest w.middle) (min (max w.oldest w.middle) w.latest)

/-- The median is one of the three. -/
theorem median_mem (w : Window) : w.median = w.oldest ∨ w.median = w.middle ∨ w.median = w.latest := by
  unfold median; omega

/-- Bounds on all three values bound the median. -/
theorem median_between (w : Window) {lo hi : Int} (h1 : lo ≤ w.oldest ∧ w.oldest ≤ hi) (h2 : lo ≤ w.middle ∧ w.middle ≤ hi)
    (h3 : lo ≤ w.latest ∧ w.latest ≤ hi) : lo ≤ w.median ∧ w.median ≤ hi := by
  unfold median; omega

/-- A larger newcomer never lowers the median. -/
theorem median_push_mono (w : Window) {a b : Int} (h : a ≤ b) : (w.push a).median ≤ (w.push b).median := by
  simp only [median, push]; omega

end Window

end ClockDiscipline
