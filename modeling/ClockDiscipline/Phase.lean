/-
  ClockDiscipline.Phase — phase errors and their sign convention.

  A phase error is the distance of the oscillator's edge from the reference edge, split
  into whole seconds and leftover nanoseconds. Both parts carry the sign of the total:
  -1.5 s is -1 s and -500000000 ns, and -200 ns is 0 s and -200 ns. Putting the parts
  together again has no answer where the total, or the seconds alone, leave 64 bits.

  Proved: (1) a split phase error recombines to its total, always (`asNs?_ofNs`), and the
  total of a sample is the sample with its sign (`total_ofSample`).
-/

import ClockDiscipline.Number.Word

namespace ClockDiscipline

/-- Nanoseconds in one second. -/
def nsPerSecond : Int := 1000000000

structure PhaseError where
  sec : Int64
  nsec : Int64
  deriving DecidableEq, Repr, Inhabited

namespace PhaseError

/-- Split a total, cutting toward zero. -/
def ofNs (total : Int64) : PhaseError := ⟨total / 1000000000, total % 1000000000⟩

/-- The total in nanoseconds. -/
def asNs? (p : PhaseError) : Option Int64 := do
  let whole ← int64? (p.sec.toInt * nsPerSecond)
  int64? (whole.toInt + p.nsec.toInt)

end PhaseError

/-- Which way the samples of a PPS device count. -/
inductive Polarity where
  | normal
  /-- The device reports the reference minus the oscillator. -/
  | opposite
  deriving DecidableEq, Repr, Inhabited

namespace Polarity

def ofOpposite (opposite : Bool) : Polarity := if opposite then .opposite else .normal

def sign : Polarity → Int64
  | .normal => 1
  | .opposite => -1

/-- A sample with the convention applied, wide enough for the least sample to change its sign. -/
def apply (p : Polarity) (sample : Int32) : Int64 := p.sign * sample.toInt64

end Polarity

/-- The phase error that a raw sample stands for. -/
def PhaseError.ofSample (sample : Int32) (p : Polarity) : PhaseError := .ofNs (p.apply sample)

/-! ## (1) Splitting loses nothing -/

/-- The parts of a total: they add up, are short of a second, and have the sign of the total. -/
theorem split_bounds (t : Int) : t = nsPerSecond * t.tdiv nsPerSecond + t.tmod nsPerSecond ∧
    (0 ≤ t → 0 ≤ t.tmod nsPerSecond ∧ t.tmod nsPerSecond < nsPerSecond) ∧
    (t ≤ 0 → -nsPerSecond < t.tmod nsPerSecond ∧ t.tmod nsPerSecond ≤ 0) := by
  refine ⟨(Int.mul_tdiv_add_tmod t nsPerSecond).symm, fun h => ?_, fun h => ?_⟩
  · exact ⟨Int.tmod_nonneg _ h, Int.tmod_lt_of_pos _ (by decide)⟩
  · have h1 := Int.tmod_nonneg nsPerSecond (show 0 ≤ -t by omega)
    have h2 := Int.tmod_lt_of_pos (-t) (show 0 < nsPerSecond by decide)
    rw [Int.neg_tmod] at h1 h2
    omega

theorem toInt_sec_ofNs (t : Int64) : (PhaseError.ofNs t).sec.toInt = t.toInt.tdiv nsPerSecond := by
  have h1 := t.le_toInt
  have h2 := t.toInt_lt
  obtain ⟨h3, h4, h5⟩ := split_bounds t.toInt
  simp only [PhaseError.ofNs, nsPerSecond, Int64.toInt_div] at *
  rw [show (1000000000 : Int64).toInt = 1000000000 from rfl]
  apply Int.bmod_eq_of_le <;> omega

theorem toInt_nsec_ofNs (t : Int64) : (PhaseError.ofNs t).nsec.toInt = t.toInt.tmod nsPerSecond := by
  simp only [PhaseError.ofNs, nsPerSecond, Int64.toInt_mod]
  rfl

theorem total_ofNs (t : Int64) : (PhaseError.ofNs t).sec.toInt * nsPerSecond + (PhaseError.ofNs t).nsec.toInt = t.toInt := by
  rw [toInt_sec_ofNs, toInt_nsec_ofNs, Int.mul_comm]
  exact (split_bounds t.toInt).1.symm

theorem asNs?_ofNs (t : Int64) : (PhaseError.ofNs t).asNs? = some t := by
  have h1 := t.le_toInt
  have h2 := t.toInt_lt
  obtain ⟨h3, h4, h5⟩ := split_bounds t.toInt
  have hw : int64? ((PhaseError.ofNs t).sec.toInt * nsPerSecond) = some (Int64.ofInt (t.toInt.tdiv nsPerSecond * nsPerSecond)) := by
    rw [toInt_sec_ofNs, int64?, if_pos]
    simp only [nsPerSecond] at *
    omega
  unfold PhaseError.asNs?
  rw [hw]
  simp only [Option.bind_eq_bind, Option.bind_some]
  rw [toInt_of_int64? hw, total_ofNs]
  exact int64?_toInt t

/-- Wide enough: no sample loses anything to its sign. -/
theorem toInt_apply (p : Polarity) (n : Int32) : (p.apply n).toInt = p.sign.toInt * n.toInt := by
  have h1 := n.le_toInt
  have h2 := n.toInt_lt
  unfold Polarity.apply
  rw [Int64.toInt_mul, Int32.toInt_toInt64]
  cases p
  · rw [show (Polarity.sign .normal).toInt = 1 from rfl]
    apply Int.bmod_eq_of_le <;> omega
  · rw [show (Polarity.sign .opposite).toInt = -1 from rfl]
    apply Int.bmod_eq_of_le <;> omega

theorem total_ofSample (p : Polarity) (n : Int32) :
    (PhaseError.ofSample n p).sec.toInt * nsPerSecond + (PhaseError.ofSample n p).nsec.toInt =
      p.sign.toInt * n.toInt := by
  rw [PhaseError.ofSample, total_ofNs, toInt_apply]

end ClockDiscipline
