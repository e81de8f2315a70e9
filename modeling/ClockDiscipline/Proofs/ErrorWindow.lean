/-
  ClockDiscipline.Proofs.ErrorWindow — which errors the built-in engine steers by.

  What an engine was asked, with what came of each request, is its history. The error of a
  sample counts if the sample was answered with an adjustment. Samples that are held,
  refused, jumped over or put off for a calibration leave no error behind, and a jump has
  the engine forget the errors before it. Results of a calibration change nothing about
  them.

  An adjustment goes by the middle one of the three latest errors that count, its own
  among them, with zeros in place of those that are missing.

  Proved: (1) what every request keeps of the history and the engine that it led to, every
  history keeps (`history_induction`); (2) the window holds the three latest errors that
  count (`toList_window_of_history`), so that its median is the middle one of them
  (`middle_toList`), and it is within the threshold (`natAbs_median_le`); (3) all this over
  every configuration and history (`an_adjustment_goes_by_the_middle_error`).
-/

import ClockDiscipline.Proofs.CalibrateFirst
import ClockDiscipline.Proofs.PidSteps
import Mathlib.Data.List.DropRight
import Mathlib.Data.List.Sort

namespace ClockDiscipline

/-! ## (1) Histories -/

namespace Pid

/-- A request to an engine, with what came of it. -/
inductive Event (R : Type) where
  | decided (i : ControlInput) (a : Except String ControlOutput)
  | took (p : Calibration.Plan) (r : Calibration.Results) (a : Adoption R)

section

variable {R : Type} [Scalar R]

/-- A request to an engine leads to another engine. -/
def Meets (e : Pid R) : Event R → Pid R → Prop
  | .decided i a, e' => e.process i = some (a, e')
  | .took p r a, e' => e.submit p r = some (a, e')

theorem history_induction {P : List (Event R) → Pid R → Prop} {e₀ e : Pid R} {hs : List (Event R)} (h₀ : P [] e₀)
    (hd : ∀ hs e i a e', P hs e → Decided e i a e' → P (hs ++ [.decided i a]) e')
    (ht : ∀ hs e p r a e', P hs e → Submitted e a e' → P (hs ++ [.took p r a]) e')
    (h : Linked Meets e₀ hs e) : P hs e := by
  induction hs using List.reverseRecOn generalizing e with
  | nil =>
    rw [linked_nil.mp h]
    exact h₀
  | append_singleton hs x ih =>
    obtain ⟨d, hh, hx⟩ := linked_concat.mp h
    cases x with
    | decided i a => exact hd _ _ _ _ _ (ih hh) (decided_of_process hx)
    | took p r a => exact ht _ _ _ _ _ _ (ih hh) (submitted_of_submit hx)

theorem tuning_of_history {e₀ e : Pid R} {hs : List (Event R)} (h : Linked Meets e₀ hs e) : e.tuning = e₀.tuning := by
  refine history_induction (P := fun _ d => d.tuning = e₀.tuning) rfl ?_ ?_ h
  · intro _ _ _ _ _ hd h
    exact (tuning_of_decided h).1.trans hd
  · intro _ _ _ _ _ _ hd h
    exact (tuning_of_submitted h).trans hd

end

/-! ## (2) The window -/

namespace Event

variable {R : Type}

/-- The error of a sample that was adjusted to. -/
def error? : Event R → Option Int
  | .decided i (.ok o) => if o.action = .adjustFine then i.phase.asNs?.map Int64.toInt else none
  | _ => none

def isJump : Event R → Bool
  | .decided _ (.ok o) => o.action = .phaseJump
  | _ => false

end Event

/-- The errors that count: of the samples adjusted to since the latest jump. -/
def counted {R : Type} (hs : List (Event R)) : List Int :=
  (hs.rtakeWhile fun x => !x.isJump).filterMap Event.error?

end Pid

/-- The three latest of some numbers, filled up with zeros. -/
def latestThree (xs : List Int) : List Int := ([0, 0, 0] ++ xs).rtake 3

/-- The number in the middle of some numbers when they are put in order. -/
def middle (xs : List Int) : Int := (xs.insertionSort (· ≤ ·)).getD (xs.length / 2) 0

theorem latestThree_concat (xs : List Int) (v : Int) : latestThree (xs ++ [v]) = (latestThree xs).tail ++ [v] := by
  unfold latestThree
  rw [← List.append_assoc, List.rtake_concat_succ, List.rtake, List.rtake, List.tail_drop]
  congr 2

namespace Window

def toList (w : Window) : List Int := [w.oldest, w.middle, w.latest]

theorem toList_push (w : Window) (v : Int) : (w.push v).toList = w.toList.tail ++ [v] := rfl

/-- The median is the middle one of the three. -/
theorem middle_toList (w : Window) : ClockDiscipline.middle w.toList = w.median := by
  -- Sorting three numbers takes three comparisons at most.
  by_cases h1 : w.middle ≤ w.latest <;> by_cases h2 : w.oldest ≤ w.middle <;> by_cases h3 : w.oldest ≤ w.latest <;>
    simp [ClockDiscipline.middle, toList, List.orderedInsert, median, h1, h2, h3] <;> omega

end Window

namespace Pid

section

variable {R : Type}

theorem counted_concat (hs : List (Event R)) (x : Event R) :
    counted (hs ++ [x]) = if x.isJump then [] else counted hs ++ x.error?.toList := by
  unfold counted
  rw [List.rtakeWhile_concat]
  cases x.isJump with
  | true => rfl
  | false =>
    simp only [Bool.not_false, if_true, Bool.false_eq_true, if_false]
    exact filterMap_concat _ _ _

/-- What is neither an adjustment nor a jump leaves the errors that count. -/
theorem counted_concat_of_other {hs : List (Event R)} {x : Event R} (hj : x.isJump = false) (he : x.error? = none) :
    counted (hs ++ [x]) = counted hs := by
  rw [counted_concat, hj, he]
  exact List.append_nil _

end

/-- The errors of a window are within the threshold, zeros of the start apart. -/
def Within {R : Type} (e : Pid R) : Prop :=
  ∀ x ∈ e.window.toList, x = 0 ∨ (x.natAbs : Int) ≤ e.tuning.jumpThreshold.toInt

theorem within_of_zero {R : Type} {e : Pid R} (h : e.window = .zero) : Within e := by
  intro x hx
  rw [h] at hx
  have hx : x ∈ [(0 : Int), 0, 0] := hx
  simp only [List.mem_cons, List.not_mem_nil, or_false, or_self] at hx
  exact Or.inl hx

section

variable {R : Type} [Scalar R] {e₀ e e' : Pid R} {hs : List (Event R)} {i : ControlInput} {o : ControlOutput}
  {total : Int64}

theorem counted_concat_of_steered (ht : i.phase.asNs? = some total) (h : Steered e total i.fine o e') :
    counted (hs ++ [.decided i (.ok o)]) = counted hs ++ [total.toInt] := by
  obtain ⟨setpoint, rfl, -⟩ := h.output
  rw [counted_concat]
  simp [Event.isJump, Event.error?, ht]

theorem toList_window_of_history (h₀ : e₀.window = .zero) (h : Linked Meets e₀ hs e) :
    e.window.toList = latestThree (counted hs) := by
  refine history_induction (P := fun hs d => d.window.toList = latestThree (counted hs)) ?_ ?_ ?_ h
  · rw [h₀]
    rfl
  · intro hs d i a d' hd h
    cases h with
    | held | asked | refused =>
      rw [counted_concat_of_other rfl rfl]
      exact hd
    | jumped =>
      rw [counted_concat]
      rfl
    | steered hv hp ht hx hs =>
      rw [counted_concat_of_steered ht hs, latestThree_concat, ← hd, hs.state]
      exact Window.toList_push _ _
  · intro hs d p r a d' hd h
    rw [counted_concat_of_other rfl rfl]
    cases h <;> exact hd

/-- What is steered by does not exceed the threshold. -/
theorem within_of_steered (h : Within e) (hx : ¬e.Exceeds total) {fine : UInt32} (hs : Steered e total fine o e') :
    Within e' := by
  rw [hs.state]
  intro x hm
  rcases List.mem_append.mp (Window.toList_push e.window total.toInt ▸ hm) with hm | hm
  · exact h x (List.mem_of_mem_tail hm)
  · rw [List.mem_singleton.mp hm]
    exact Or.inr (not_lt.mp hx)

theorem within_of_history (h₀ : e₀.window = .zero) (h : Linked Meets e₀ hs e) : Within e := by
  refine history_induction (P := fun _ d => Within d) ?_ ?_ ?_ h
  · exact within_of_zero h₀
  · intro hs d i a d' hd h
    cases h with
    | held | asked | refused => exact hd
    | jumped => exact within_of_zero rfl
    | steered hv hp ht hx hs => exact within_of_steered hd hx hs
  · intro hs d p r a d' hd h
    cases h <;> exact hd

/-- So the threshold bounds the median that is steered by. -/
theorem natAbs_median_le (h : Within e) (hx : ¬e.Exceeds total) {fine : UInt32} (hs : Steered e total fine o e') :
    (e'.window.median.natAbs : Int) ≤ e.tuning.jumpThreshold.toInt := by
  have hw := within_of_steered h hx hs
  have ht : e'.tuning = e.tuning := by rw [hs.state]
  have hj : 0 ≤ e.tuning.jumpThreshold.toInt := by
    unfold Exceeds at hx
    omega
  have hmem : e'.window.median ∈ e'.window.toList := by
    rcases e'.window.median_mem with hm | hm | hm <;> simp [Window.toList, hm]
  rcases hw _ hmem with hm | hm
  · rw [hm]
    exact hj
  · rw [ht] at hm
    exact hm

/-! ## (3) Adjustments -/

/-- An adjustment to an error: the integral takes the error up, and the setpoint makes up for both. -/
structure AdjustedTo (e : Pid R) (error : Int) (fine : UInt32) (o : ControlOutput) (e' : Pid R) : Prop where
  integral : Scalar.clamp? (-e.tuning.maxIntegral) e.tuning.maxIntegral (e.integral + Scalar.ofInt error) = some e'.integral
  output : ∃ setpoint, o = ⟨.adjustFine, Scalar.toUInt32 setpoint, 0⟩ ∧
    Scalar.clamp? (Scalar.ofInt (e.tuning.range.min.toNat : Int)) (Scalar.ofInt (e.tuning.range.max.toNat : Int))
      (Scalar.round (Scalar.ofInt ((e.center.getD fine).toNat : Int) -
        (e.tuning.kp * Scalar.ofInt error + e.tuning.ki * e'.integral) / e.gain)) = some setpoint

theorem adjustedTo_of_steered {fine : UInt32} (h : Steered e total fine o e') :
    AdjustedTo e e'.window.median fine o e' := by
  obtain ⟨setpoint, ho, hs⟩ := h.output
  have hw : e'.window = e.window.push total.toInt := by rw [h.state]
  have ht : e'.target (e.center.getD fine) = Scalar.round (Scalar.ofInt ((e.center.getD fine).toNat : Int) -
      (e.tuning.kp * Scalar.ofInt e'.window.median + e.tuning.ki * e'.integral) / e.gain) := by
    have h1 : e'.tuning = e.tuning := by rw [h.state]
    have h2 : e'.gain = e.gain := by rw [h.state]
    rw [target, demand, h1, h2]
  rw [ht] at hs
  refine ⟨?_, setpoint, ho, hs⟩
  rw [hw]
  exact h.integral

end

/-- What an engine with this history goes by, and what it leaves aside. -/
structure GoesByMiddle {R : Type} [Scalar R] (e₀ : Pid R) (hs : List (Event R)) (e : Pid R) : Prop where
  window : e.window.toList = latestThree (counted hs)
  /-- The error of the sample itself is among the latest three. -/
  adjusts : ∀ i o e', e.process i = some (.ok o, e') → o.action = .adjustFine →
    let error := middle (latestThree (counted (hs ++ [.decided i (.ok o)])))
    AdjustedTo e error i.fine o e' ∧ (error.natAbs : Int) ≤ e₀.tuning.jumpThreshold.toInt
  /-- No other sample enters the window. A jump empties it. -/
  others : ∀ i a e', e.process i = some (a, e') → (∀ o, a = .ok o → o.action ≠ .adjustFine) →
    e'.window = e.window ∨ e'.window = .zero ∧ ∃ o, a = .ok o ∧ o.action = .phaseJump
  /-- A sample is refused where no jump is as large, and that is all that happens. -/
  refuses : ∀ i x e', e.process i = some (.error x, e') →
    e' = e ∧ ∃ total, i.phase.asNs? = some total ∧ int32? total.toInt = none

section

variable {R : Type} [Scalar R] {e₀ e e' : Pid R} {hs : List (Event R)} {i : ControlInput}

theorem adjusts_of_history (h₀ : e₀.window = .zero) (h : Linked Meets e₀ hs e) {o : ControlOutput}
    (hp : e.process i = some (.ok o, e')) (ho : o.action = .adjustFine) :
    let error := middle (latestThree (counted (hs ++ [.decided i (.ok o)])))
    AdjustedTo e error i.fine o e' ∧ (error.natAbs : Int) ≤ e₀.tuning.jumpThreshold.toInt := by
  intro error
  have hnext : Linked Meets e₀ (hs ++ [.decided i (.ok o)]) e' := linked_concat.mpr ⟨e, h, hp⟩
  have herror : error = e'.window.median := by
    rw [← Window.middle_toList, toList_window_of_history h₀ hnext]
  obtain ⟨total, -, hx, hd⟩ := steered_of_process hp ho
  rw [herror, ← tuning_of_history h]
  exact ⟨adjustedTo_of_steered hd, natAbs_median_le (within_of_history h₀ h) hx hd⟩

theorem window_of_other {a : Except String ControlOutput} (h : Decided e i a e')
    (ha : ∀ o, a = .ok o → o.action ≠ .adjustFine) :
    e'.window = e.window ∨ e'.window = .zero ∧ ∃ o, a = .ok o ∧ o.action = .phaseJump := by
  cases h with
  | held | asked | refused => exact Or.inl rfl
  | jumped => exact Or.inr ⟨rfl, _, rfl, rfl⟩
  | steered hv hp ht hx hs => exact absurd (action_of_steered hs) (ha _ rfl)

theorem eq_of_refused {x : String} (h : Decided e i (.error x) e') :
    e' = e ∧ ∃ total, i.phase.asNs? = some total ∧ int32? total.toInt = none := by
  cases h with
  | refused hv hp ht hx hj => exact ⟨rfl, _, ht, hj⟩

end

/-- Whatever the configuration and the requests before, an engine adjusts to the middle one of the three latest errors
    that it adjusted to since its latest jump, and that is within the threshold. -/
theorem an_adjustment_goes_by_the_middle_error {R : Type} [Numeral R] {c : Config} {e₀ e : Pid R} {hs : List (Event R)}
    (h₀ : ofConfig R c = .ok e₀) (h : Linked Meets e₀ hs e) : GoesByMiddle e₀ hs e := by
  obtain ⟨-, -, hw⟩ := start_of_ofConfig h₀
  exact {
    window := toList_window_of_history hw h
    adjusts := fun i o e' hp ho => adjusts_of_history hw h hp ho
    others := fun i a e' hp ha => window_of_other (decided_of_process hp) ha
    refuses := fun i x e' hp => eq_of_refused (decided_of_process hp) }

/-- Steers by the error alone, one step of the control for each nanosecond, and jumps over more than 500 ns. -/
def proportional : Pid Float :=
  ⟨⟨.between 0 65535, Scalar.ofInt 1, Scalar.ofInt 0, Scalar.ofInt 1000000, 500, [16383, 32767, 49149], 4⟩,
    Scalar.ofInt 1, none, Scalar.ofInt 0, .zero, false⟩

/-- A jump lies between the errors of 300 and 400 ns and those of 100 and 200 ns. -/
def aroundAJump : List (Event Float) := [
  .decided (trustedSample 300 1000) (.ok ⟨.adjustFine, 1000, 0⟩),
  .decided (trustedSample 400 1000) (.ok ⟨.adjustFine, 700, 0⟩),
  .decided { trustedSample 50 1000 with valid := false } (.ok (.hold 1000)),
  .decided (trustedSample 800 1000) (.ok ⟨.phaseJump, 1000, 800⟩),
  .decided (trustedSample 100 1000) (.ok ⟨.adjustFine, 1000, 0⟩)]

/-- With the errors before the jump the middle one would be 200 ns. -/
theorem errors_before_a_jump_do_not_count :
    let e : Pid Float := { proportional with center := some 1000, integral := Scalar.ofInt 300, window := ⟨0, 0, 100⟩ }
    let o : ControlOutput := ⟨.adjustFine, 900, 0⟩
    ofConfig Float (Config.parse "kp=1\nki=0\nns-per-step=1\nphase-jump-threshold-ns=500") = .ok proportional ∧
      Linked Meets proportional aroundAJump e ∧ GoesByMiddle proportional aroundAJump e ∧
      counted (aroundAJump ++ [.decided (trustedSample 200 1000) (.ok o)]) = [100, 200] ∧
      ∃ e', e.process (trustedSample 200 1000) = some (.ok o, e') ∧ AdjustedTo e 100 1000 o e' := by
  intro e o
  have h₀ : ofConfig Float (Config.parse "kp=1\nki=0\nns-per-step=1\nphase-jump-threshold-ns=500") = .ok proportional := by
    decide +kernel
  let first : Pid Float := { proportional with center := some 1000, window := ⟨0, 0, 300⟩ }
  let second : Pid Float := { first with integral := Scalar.ofInt 300, window := ⟨0, 300, 400⟩ }
  have h : Linked Meets proportional aroundAJump e := by
    refine .cons (t := first) ?_ (.cons (t := second) ?_ (.cons (t := second) ?_
      (.cons (t := { second with window := .zero }) ?_ (.cons (t := e) ?_ (.nil e)))))
    · show proportional.process _ = _
      decide +kernel
    · show first.process _ = _
      decide +kernel
    · show second.process _ = _
      decide +kernel
    · show second.process _ = _
      decide +kernel
    · show Pid.process _ _ = _
      decide +kernel
  have hp : e.process (trustedSample 200 1000) =
      some (.ok o, { e with integral := Scalar.ofInt 400, window := ⟨0, 100, 200⟩ }) := by decide +kernel
  have hc : counted (aroundAJump ++ [.decided (trustedSample 200 1000) (.ok o)]) = [100, 200] := by decide +kernel
  have hg := an_adjustment_goes_by_the_middle_error h₀ h
  obtain ⟨ha, -⟩ := hg.adjusts _ _ _ hp rfl
  rw [hc] at ha
  exact ⟨h₀, h, hg, hc, _, hp, ha⟩

end Pid

end ClockDiscipline
