/-
  ClockDiscipline.Proofs.DoubleFit — what a usable slope says about the doubles that it was computed from.

  Once a computation with doubles is infinite or undefined it does not become a number
  again by adding, subtracting or multiplying, nor by dividing it. The slope of a line is a
  sum of products of distances from the two means, divided by another sum. So where the
  slope is a number every product was one, and with it both means. No bound on the points
  is needed: it is the slope that tells, after the fact, that nothing was lost on the way.

  Proved: (1) numbers come from numbers (`isFinite_of_add`, `isFinite_of_sub`,
  `isFinite_of_mul`, `isFinite_of_div`), also in a sum (`isFinite_of_sum`); (2) the means
  behind a usable slope are finite (`finite_means_of_fit?`), and the zero of its line is
  never undefined (`isNaN_zero_of_fit?`).
-/

import ClockDiscipline.Engine.LineFit
import ClockDiscipline.Proofs.DoubleSize

open Float.Model (Format UnpackedFloat)

namespace ClockDiscipline.Binary64

/-! ## (1) Numbers from numbers -/

/-- Writing makes nothing finite. -/
theorem isFinite_of_pack {u : UnpackedFloat} (h : (Float.Model.pack u).unpack.isFinite = true) :
    u.isFinite = true := by
  cases u with
  | notANumber => cases h
  | infinity s => cases s <;> cases h
  | _ => rfl

/-- None of the three makes a number of what is none. -/
theorem isFinite_operands {f : Format} {u v : UnpackedFloat}
    (h : (u.add f v).isFinite = true ∨ (u.sub f v).isFinite = true ∨ (u.mul f v).isFinite = true) :
    u.isFinite = true ∧ v.isFinite = true := by
  cases u with
  | notANumber => rcases h with h | h | h <;> cases h
  | infinity s =>
    cases v with
    -- Two infinite numbers meet by their signs.
    | infinity t => cases s <;> cases t <;> rcases h with h | h | h <;> cases h
    | _ => rcases h with h | h | h <;> cases h
  | zero s | finite s m e hm =>
    cases v with
    | notANumber | infinity t => rcases h with h | h | h <;> cases h
    | zero t | finite t n d hn => exact ⟨rfl, rfl⟩

section

variable {a b : Float}

theorem isFinite_of_add (h : (parts (a + b)).isFinite = true) :
    (parts a).isFinite = true ∧ (parts b).isFinite = true :=
  isFinite_operands (f := Format.binary64) (Or.inl (isFinite_of_pack h))

theorem isFinite_of_sub (h : (parts (a - b)).isFinite = true) :
    (parts a).isFinite = true ∧ (parts b).isFinite = true :=
  isFinite_operands (f := Format.binary64) (Or.inr (Or.inl (isFinite_of_pack h)))

theorem isFinite_of_mul (h : (parts (a * b)).isFinite = true) :
    (parts a).isFinite = true ∧ (parts b).isFinite = true :=
  isFinite_operands (f := Format.binary64) (Or.inr (Or.inr (isFinite_of_pack h)))

/-- What is divided was a number; what it is divided by may have been infinite. -/
theorem isFinite_of_div (h : (parts (a / b)).isFinite = true) : (parts a).isFinite = true := by
  have h : (UnpackedFloat.div Format.binary64 (parts a) (parts b)).isFinite = true := isFinite_of_pack h
  cases hu : parts a with
  | notANumber =>
    rw [hu] at h
    cases h
  | infinity s =>
    rw [hu] at h
    cases hv : parts b <;> rw [hv] at h <;> cases h
  | _ => rfl

end

/-- The sum is taken from the left, and no term makes up for an earlier one. -/
theorem isFinite_of_foldl {xs : List Float} {acc : Float} (h : (parts (xs.foldl (· + ·) acc)).isFinite = true) :
    (parts acc).isFinite = true ∧ ∀ x ∈ xs, (parts x).isFinite = true := by
  induction xs generalizing acc with
  | nil => exact ⟨h, nofun⟩
  | cons x xs ih =>
    obtain ⟨hacc, hxs⟩ := ih h
    obtain ⟨hacc, hx⟩ := isFinite_of_add hacc
    exact ⟨hacc, List.forall_mem_cons.mpr ⟨hx, hxs⟩⟩

theorem isFinite_of_sum {xs : List Float} (h : (parts (LineFit.sum xs)).isFinite = true) :
    ∀ x ∈ xs, (parts x).isFinite = true :=
  (isFinite_of_foldl h).2

theorem isFinite_of_isNormal {x : Float} (h : isNormal x = true) : (parts x).isFinite = true := by
  obtain ⟨s, m, e, hm, hx⟩ := parts_of_isNormal h
  rw [hx]
  rfl

/-! ## (2) Lines -/

section

variable {points : List (Float × Float)} {slope intercept : Float}

/-- A usable slope was computed from finite means, and the intercept from these. -/
theorem finite_means_of_fit? (h : LineFit.fit? points = some (slope, intercept)) (hs : isNormal slope = true) :
    ∃ mx my, (parts mx).isFinite = true ∧ (parts my).isFinite = true ∧ intercept = my - slope * mx := by
  unfold LineFit.fit? at h
  split at h
  · cases h
  rename_i hlen
  simp only at h
  split at h
  · cases h
  cases h
  obtain ⟨p, hp⟩ := List.exists_mem_of_length_pos (l := points) (by omega)
  -- Any point will do: each of the products has both means in it.
  have hterm := isFinite_of_sum (isFinite_of_div (isFinite_of_isNormal hs)) _ (List.mem_map_of_mem hp)
  obtain ⟨hx, hy⟩ := isFinite_of_mul hterm
  exact ⟨_, _, (isFinite_of_sub hx).2, (isFinite_of_sub hy).2, rfl⟩

/-- Where a line with a usable slope is zero may be out of reach, but never undefined. -/
theorem isNaN_zero_of_fit? (h : LineFit.fit? points = some (slope, intercept)) (hs : isNormal slope = true) :
    (round (-intercept / slope)).isNaN = false := by
  obtain ⟨mx, my, hmx, hmy, rfl⟩ := finite_means_of_fit? h hs
  rw [isNaN_round, isNaN_div _ hs, isNaN_neg, isNaN_sub hmy]
  exact isNaN_mul (isFinite_of_isNormal hs) hmx

end

end ClockDiscipline.Binary64
