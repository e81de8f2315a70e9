/-
  ClockDiscipline.Proofs.PhaseParts — a phase error and its total are the same thing said twice.

  The parts of a phase error are short of a second on the one hand and lie on the same
  side of zero on the other. Parts like these are those of their own total and of no other
  one. Putting them together takes the seconds alone first, and these are never farther
  from zero than the total. So nothing is lost on the way that fits 64 bits at its end.

  Proved: (1) a total is split into such parts (`split_ofNs`), and what adds up to it and
  looks like them is them (`tdiv_tmod_of_sum`); (2) such parts are put together exactly if
  their sum fits 64 bits (`asNs?_of_split`), and splitting gives them back
  (`ofNs_of_split`); (3) both ways, and for samples
  (`total_and_parts_say_the_same`).
-/

import ClockDiscipline.Phase

namespace ClockDiscipline

namespace PhaseError

/-- What the parts add up to, however large it is. -/
def sum (p : PhaseError) : Int := p.sec.toInt * nsPerSecond + p.nsec.toInt

/-- Parts as they are split off: less than a second is left over, and on the side of the seconds. -/
structure Split (p : PhaseError) : Prop where
  short : p.nsec.toInt.natAbs < 1000000000
  sameSide : ¬(p.sec.toInt < 0 ∧ 0 < p.nsec.toInt) ∧ ¬(0 < p.sec.toInt ∧ p.nsec.toInt < 0)

/-! ## (1) Splitting -/

theorem split_ofNs (t : Int64) : Split (ofNs t) := by
  obtain ⟨h1, h2, h3⟩ := split_bounds t.toInt
  constructor
  · rw [toInt_nsec_ofNs]
    simp only [nsPerSecond] at *
    omega
  · rw [toInt_sec_ofNs, toInt_nsec_ofNs]
    simp only [nsPerSecond] at *
    omega

/-- There is one way only to write a total as whole seconds and less than a second on the same side. -/
theorem tdiv_tmod_of_sum {t q r : Int} (h : t = q * nsPerSecond + r) (hr : r.natAbs < 1000000000)
    (hs : ¬(q < 0 ∧ 0 < r) ∧ ¬(0 < q ∧ r < 0)) : t.tdiv nsPerSecond = q ∧ t.tmod nsPerSecond = r := by
  obtain ⟨h1, h2, h3⟩ := split_bounds t
  simp only [nsPerSecond] at *
  omega

/-! ## (2) Putting together -/

section

variable {p : PhaseError} (h : Split p)

include h

/-- The seconds alone are no farther from zero than the sum. -/
theorem asNs?_of_split : p.asNs? = int64? p.sum := by
  obtain ⟨hr, hs⟩ := h
  unfold asNs? sum
  by_cases hw : int64? (p.sec.toInt * nsPerSecond) = none
  · have hsum : int64? (p.sec.toInt * nsPerSecond + p.nsec.toInt) = none := by
      rw [int64?_eq_none_iff] at hw ⊢
      simp only [nsPerSecond] at *
      omega
    rw [hw, hsum]
    rfl
  · obtain ⟨whole, hw⟩ := Option.ne_none_iff_exists'.mp hw
    rw [hw, Option.bind_eq_bind, Option.bind_some, toInt_of_int64? hw]

theorem asNs?_eq_none_iff_of_split :
    p.asNs? = none ↔ p.sum < -9223372036854775808 ∨ 9223372036854775808 ≤ p.sum := by
  rw [asNs?_of_split h, int64?_eq_none_iff]

theorem ofNs_of_split {t : Int64} (ht : p.asNs? = some t) : ofNs t = p := by
  rw [asNs?_of_split h] at ht
  obtain ⟨hr, hs⟩ := h
  obtain ⟨hq, hr⟩ := tdiv_tmod_of_sum (toInt_of_int64? ht) hr hs
  rw [← toInt_sec_ofNs] at hq
  rw [← toInt_nsec_ofNs] at hr
  cases p
  rw [PhaseError.mk.injEq]
  exact ⟨Int64.toInt_inj.mp hq, Int64.toInt_inj.mp hr⟩

end

/-! ## (3) Both ways -/

/-- A total is split into parts that lie on one side and leave less than a second over, and these are put together
    to the total again. Parts like that are put together exactly if what they add up to fits 64 bits, and splitting
    gives them back. No sample is lost on the way there and back, whatever its sign stands for. -/
theorem total_and_parts_say_the_same :
    (∀ t : Int64, Split (ofNs t) ∧ (ofNs t).asNs? = some t) ∧
      (∀ p : PhaseError, Split p →
        (p.asNs? = none ↔ p.sum < -9223372036854775808 ∨ 9223372036854775808 ≤ p.sum) ∧
        ∀ t, p.asNs? = some t → ofNs t = p) ∧
      ∀ (n : Int32) (p : Polarity), ∃ t, (ofSample n p).asNs? = some t ∧ t.toInt = p.sign.toInt * n.toInt := by
  refine ⟨fun t => ⟨split_ofNs t, asNs?_ofNs t⟩, fun p h => ⟨?_, ?_⟩, fun n p => ?_⟩
  · exact asNs?_eq_none_iff_of_split h
  · intro t ht
    exact ofNs_of_split h ht
  · exact ⟨p.apply n, asNs?_ofNs (p.apply n), toInt_apply p n⟩

/-- The least total has the parts that say so. One nanosecond more on their side is no total at all. -/
theorem the_least_total_has_its_parts :
    let least : PhaseError := ⟨-9223372036, -854775808⟩
    let beyond : PhaseError := ⟨-9223372036, -854775809⟩
    Split least ∧ Split beyond ∧ least.asNs? = some Int64.minValue ∧ ofNs Int64.minValue = least ∧
      beyond.asNs? = none := by
  intro least beyond
  obtain ⟨-, hparts, -⟩ := total_and_parts_say_the_same
  have hl : Split least := ⟨by decide, by decide⟩
  have hb : Split beyond := ⟨by decide, by decide⟩
  have ht : least.asNs? = some Int64.minValue := by decide
  exact ⟨hl, hb, ht, (hparts least hl).2 Int64.minValue ht, (hparts beyond hb).1.mpr (by decide)⟩

end PhaseError

end ClockDiscipline
