/-
  ClockDiscipline.Proofs.CalibrationSamples — which samples a calibration records, and where.

  A plan of `k` control values with `n` samples each wants `n * k` samples. The edges of the
  source decide alone whether the calibration has results: it has them if so many good
  samples arrive before the first fatal arrival, whatever transient ones lie in between. An
  endless row of transient arrivals is waited for without end, which is what patience bounds
  here; whatever patience a calibration comes to an end with, more of it changes nothing.

  Proved:
  (1) Entry `j` of row `i` of equal rows is entry `n * i + j` of them all
      (`getElem?_flatten_of_length`), and each wait finds the control value of the row that
      it is made for (`fine_of_rows`).
  (2) What a calibration records, when it ends with results and when without
      (`a_calibration_takes_the_first_samples`).
-/

import ClockDiscipline.Proofs.Sampling
import ClockDiscipline.Rehearsal.Script

namespace ClockDiscipline

open Arrival

/-! ## (1) Entries and waits -/

theorem getElem?_flatten_of_length {α : Type} {n : Nat} {rows : List (List α)} (h : ∀ row ∈ rows, row.length = n)
    {i j : Nat} (hi : i < rows.length) (hj : j < n) : rows.flatten[n * i + j]? = rows[i]?.bind (·[j]?) := by
  induction rows generalizing i with
  | nil => cases hi
  | cons row rows ih =>
    have hrow : row.length = n := h row List.mem_cons_self
    rw [List.flatten_cons]
    cases i with
    | zero =>
      rw [Nat.mul_zero, Nat.zero_add, List.getElem?_append_left (by omega)]
      rfl
    | succ i =>
      have hi : i < rows.length := by simpa using hi
      rw [List.getElem?_append_right (by rw [hrow, Nat.mul_succ]; omega), hrow, List.getElem?_cons_succ,
        ← ih (fun r hr => h r (List.mem_cons_of_mem row hr)) hi]
      congr 1
      rw [Nat.mul_succ]
      omega

section

variable {p n k : Nat} {range : DacRange} {point : UInt32} {points : List UInt32} {as : List Arrival}
  {rows : List (List Arrival)} {values : List (List Int32)} {r : Except IoError (List (List Int32))}

theorem finesOf_cons : finesOf range (point :: points) (as :: rows) =
    List.replicate as.length (range.clamp point) ++ finesOf range points rows := rfl

theorem length_finesOf (h : rows.length ≤ points.length) : (finesOf range points rows).length = rows.flatten.length := by
  induction points generalizing rows with
  | nil =>
    rw [List.eq_nil_of_length_eq_zero (show rows.length = 0 by simpa using h)]
    rfl
  | cons point points ih =>
    cases rows with
    | nil => rfl
    | cons as rows =>
      have h : rows.length ≤ points.length := by simpa using h
      rw [finesOf_cons, List.length_append, List.length_replicate, ih h, List.flatten_cons, List.length_append]

/-- With `n` samples in each row, the row that the next wait after `k` of these is made for: the samples tell that
    were taken before it. -/
def rowAt (n : Nat) (arrivals : List Arrival) (k : Nat) : Nat := (samples (arrivals.take k)).length / n

/-- A wait finds the control value of its row. -/
theorem fine_of_rows (h : TakingRows p n points.length rows (.ok values)) {k : Nat} {f : UInt32}
    (hf : (finesOf range points rows)[k]? = some f) :
    ∃ point, points[rowAt n rows.flatten k]? = some point ∧ f = range.clamp point := by
  induction points generalizing rows values k with
  | nil => cases hf
  | cons point points ih =>
    -- A row of no samples takes no arrival, so that there is a wait only where samples are wanted.
    have hn : 0 < n := by
      have hk : k < rows.flatten.length := by
        obtain ⟨-, hl, -⟩ := values_of_takingRows h
        have hlt := (List.getElem?_eq_some_iff.mp hf).1
        rwa [length_finesOf (Nat.le_of_eq hl)] at hlt
      exact Nat.pos_of_mul_pos_right (Nat.zero_lt_of_lt (samples_take_of_taking (taking_flatten h) hk))
    generalize hr : Except.ok values = r at h
    cases h with
    | @row _ as rows first r ht h =>
      obtain ⟨more, rfl, rfl⟩ := map_eq_ok hr.symm
      obtain ⟨rfl, hlen, -⟩ := values_of_taking ht
      rw [finesOf_cons] at hf
      rw [List.flatten_cons, rowAt]
      by_cases hk : k < as.length
      · rw [List.getElem?_append_left (by simpa using hk), List.getElem?_replicate, if_pos hk] at hf
        cases hf
        rw [List.take_append_of_le_length (Nat.le_of_lt hk), Nat.div_eq_of_lt (samples_take_of_taking ht hk)]
        exact ⟨point, rfl, rfl⟩
      · obtain ⟨d, rfl⟩ := Nat.exists_eq_add_of_le (Nat.le_of_not_lt hk)
        rw [List.getElem?_append_right (by simp), List.length_replicate, Nat.add_sub_cancel_left] at hf
        obtain ⟨point', hp, rfl⟩ := ih h hf
        refine ⟨point', ?_, rfl⟩
        rw [List.take_length_add_append, samples_append, List.length_append, hlen, Nat.add_div_left _ hn,
          List.getElem?_cons_succ]
        exact hp
    | failure ht => cases hr

end

/-! ## (2) Calibrations -/

/-- What the results have of the arrivals, and the waits of the oscillator. -/
structure Recorded (plan : Calibration.Plan) (polarity : Polarity) (range : DacRange) (arrivals : List Arrival)
    (fines : List UInt32) (r : Calibration.Results) : Prop where
  shape : r.matches plan = true
  not_fatal : ∀ a ∈ arrivals, a.fatal = false
  /-- No sample is lost, and none is left over. -/
  count : (samples arrivals).length = plan.samples.toNat * plan.points.length
  entry : ∀ i < plan.points.length, ∀ j < plan.samples.toNat,
    r.rows[i]?.bind (·[j]?) = (samples arrivals)[plan.samples.toNat * i + j]?.map polarity.apply
  waits : fines.length = (samples arrivals).length + arrivals.countP transient
  /-- Nothing is waited for after the last sample. -/
  last : arrivals = [] ∨ ∃ ns, arrivals.getLast? = some (.sample ns)
  /-- The fine control at each wait is the control value of its row, put into the range. -/
  fine : ∀ k f, fines[k]? = some f →
    ∃ point, plan.points[rowAt plan.samples.toNat arrivals k]? = some point ∧ f = range.clamp point

variable {S : Type}

theorem recorded_of_rows {plan : Calibration.Plan} {polarity : Polarity} {range : DacRange} {patience : Nat}
    {rows : List (List Arrival)} {values : List (List Int32)}
    (h : TakingRows patience plan.samples.toNat plan.points.length rows (.ok values)) :
    Recorded plan polarity range rows.flatten (finesOf range plan.points rows)
      ⟨values.map (List.map polarity.apply)⟩ := by
  obtain ⟨hv, hlen, hn⟩ := values_of_takingRows h
  have ht : Taking patience (plan.samples.toNat * plan.points.length) rows.flatten (.ok values.flatten) :=
    taking_flatten h
  obtain ⟨hvs, hcount, hf⟩ := values_of_taking ht
  have hrow : ∀ row ∈ values, row.length = plan.samples.toNat := by
    intro row hm
    rw [hv] at hm
    obtain ⟨as, ha, rfl⟩ := List.mem_map.mp hm
    exact hn as ha
  have hk : values.length = plan.points.length := by rw [hv, List.length_map, hlen]
  refine ⟨?_, hf, by rw [← hvs, hcount], ?_, ?_, last_of_taking ht, fun k f hk => fine_of_rows h hk⟩
  · refine Calibration.Results.matches_iff.mpr ⟨by rw [List.length_map, hk], fun row hm => ?_⟩
    obtain ⟨vs, hvm, rfl⟩ := List.mem_map.mp hm
    rw [List.length_map, hrow vs hvm]
  · intro i hi j hj
    rw [← hvs, getElem?_flatten_of_length hrow (by omega) hj, List.getElem?_map]
    cases values[i]? with
    | none => rfl
    | some row => exact List.getElem?_map
  · rw [length_finesOf (Nat.le_of_eq hlen), length_eq_of_not_fatal hf]

/-- With this answer and this world a calibration ends, given patience. -/
def Ends (p : EdgeSource (Act S)) (plan : Calibration.Plan) (polarity : Polarity) (w : Probing S)
    (a : Option Calibration.Results) (v : Probing S) : Prop :=
  ∃ enough, ∀ patience, enough ≤ patience →
    Dummy.calibrate Probing.slot.cell patience plan (Probing.pps p) polarity w = .ok a v

/-- As many good samples as the plan wants arrive before anything fatal. -/
def EnoughArrive (p : EdgeSource (Act S)) (plan : Calibration.Plan) (s : S) : Prop :=
  ∃ arrivals t, Linked (Arrives p) s arrivals t ∧ (∀ a ∈ arrivals, a.fatal = false) ∧
    (samples arrivals).length = plan.samples.toNat * plan.points.length

/-- Something fatal arrives before as many good samples as the plan wants. -/
def TooFewArrive (p : EdgeSource (Act S)) (plan : Calibration.Plan) (s : S) : Prop :=
  ∃ arrivals x t, Linked (Arrives p) s (arrivals ++ [x]) t ∧ (∀ a ∈ arrivals, a.fatal = false) ∧ x.fatal = true ∧
    (samples arrivals).length < plan.samples.toNat * plan.points.length

section

variable {p : EdgeSource (Act S)} {plan : Calibration.Plan} {polarity : Polarity} {w v : Probing S}
  {a : Option Calibration.Results} {patience : Nat}

theorem ends_of_calibrate
    (h : Dummy.calibrate Probing.slot.cell patience plan (Probing.pps p) polarity w = .ok a v) :
    Ends p plan polarity w a v := by
  obtain ⟨rows, r, s, ht, hs, hv, ha⟩ := calibrate_iff.mp h
  exact ⟨patience, fun q hq => calibrate_iff.mpr ⟨rows, r, s, takingRows_mono ht hq, hs, hv, ha⟩⟩

/-- What is taken from the arrivals is what a calibration ends with. -/
theorem exists_ends {arrivals : List Arrival} {r : Except IoError (List Int32)} {s : S}
    (ht : Taking patience (plan.samples.toNat * plan.points.length) arrivals r)
    (hs : Linked (Arrives p) w.source arrivals s) :
    ∃ r' v, r = r'.map List.flatten ∧ Ends p plan polarity w (Calibration.measured polarity r') v := by
  obtain ⟨rows, r', rfl, hrows, rfl⟩ := exists_rows ht
  exact ⟨r', _, rfl, ends_of_calibrate (calibrate_iff.mpr ⟨rows, r', s, hrows, hs, rfl, rfl⟩)⟩

theorem recorded_of_ends {r : Calibration.Results} (h : Ends p plan polarity w (some r) v) :
    ∃ arrivals fines, Linked (Arrives p) w.source arrivals v.source ∧ v.waits = w.waits ++ fines ∧
      Recorded plan polarity w.dummy.range arrivals fines r := by
  obtain ⟨enough, h⟩ := h
  obtain ⟨rows, a, s, ht, hs, rfl, ha⟩ := calibrate_iff.mp (h enough (Nat.le_refl _))
  cases a with
  | error e => cases ha
  | ok values =>
    cases ha
    exact ⟨rows.flatten, _, hs, rfl, recorded_of_rows ht⟩

theorem ends_some_iff : (∃ r v, Ends p plan polarity w (some r) v) ↔ EnoughArrive p plan w.source := by
  constructor
  · rintro ⟨r, v, h⟩
    obtain ⟨arrivals, fines, hs, -, hr⟩ := recorded_of_ends h
    exact ⟨arrivals, v.source, hs, hr.not_fatal, hr.count⟩
  · rintro ⟨arrivals, t, hs, hf, hn⟩
    obtain ⟨front, rest, values, rfl, ht⟩ := exists_taking hf (Nat.le_of_eq hn.symm) (Nat.lt_succ_self arrivals.length)
    obtain ⟨s, hs, -⟩ := linked_append.mp hs
    obtain ⟨r, v, hr, hv⟩ := exists_ends ht hs
    obtain ⟨rows, rfl, -⟩ := map_eq_ok hr.symm
    exact ⟨_, v, hv⟩

theorem ends_none_iff : (∃ v, Ends p plan polarity w none v) ↔ TooFewArrive p plan w.source := by
  constructor
  · rintro ⟨v, enough, h⟩
    obtain ⟨rows, r, s, ht, hs, rfl, ha⟩ := calibrate_iff.mp (h enough (Nat.le_refl _))
    cases r with
    | ok values => cases ha
    | error e =>
      obtain ⟨arrivals, x, has, hf, hx, hn⟩ := failure_of_taking (taking_flatten ht)
      rw [has] at hs
      exact ⟨arrivals, x, s, hs, hf, fatal_of_failure hx, hn⟩
  · rintro ⟨arrivals, x, t, hs, hf, hx, hn⟩
    obtain ⟨e, he⟩ := Option.isSome_iff_exists.mp hx
    have ht := taking_of_few hf he hn (Nat.lt_succ_self arrivals.length)
    obtain ⟨r, v, hr, hv⟩ := exists_ends ht hs
    rw [map_eq_error hr.symm] at hv
    exact ⟨v, hv⟩

end

/-- Whether a calibration has results is up to the arrivals of its source: it has them where enough good samples
    arrive before anything fatal, and none where something fatal comes first. Whatever patience it ends with, more
    changes nothing. Its results are the first samples, row by row, each taken at the control value of its row. -/
theorem a_calibration_takes_the_first_samples (p : EdgeSource (Act S)) (plan : Calibration.Plan) (polarity : Polarity)
    (w : Probing S) :
    ((∃ r v, Ends p plan polarity w (some r) v) ↔ EnoughArrive p plan w.source) ∧
      ((∃ v, Ends p plan polarity w none v) ↔ TooFewArrive p plan w.source) ∧
      (∀ patience a v, Dummy.calibrate Probing.slot.cell patience plan (Probing.pps p) polarity w = .ok a v →
        Ends p plan polarity w a v) ∧
      ∀ r v, Ends p plan polarity w (some r) v → ∃ arrivals fines, Linked (Arrives p) w.source arrivals v.source ∧
        v.waits = w.waits ++ fines ∧ Recorded plan polarity w.dummy.range arrivals fines r :=
  ⟨ends_some_iff, ends_none_iff, fun _ _ _ h => ends_of_calibrate h, fun _ _ h => recorded_of_ends h⟩

/-- A script as a source that is alone in its world. -/
def scriptedPps : EdgeSource (Act Rehearsal.Script) :=
  Rehearsal.Script.source "pps" ⟨fun s => .ok s s, fun s _ => .ok () s⟩ fun _ => pure ()

/-- Four samples with a cut wait before the second and a sample that is not there yet before the third. -/
def unsteadyScript : Rehearsal.Script :=
  ⟨[.sample 10, .interrupted, .sample 20, .readFails (.kind .wouldBlock), .sample (-30), .sample (-40)], none, []⟩

/-- Two rows of two, at the lower bound and at the second control value, with one wait more than samples in each. -/
theorem an_unsteady_script_is_recorded :
    let plan : Calibration.Plan := ⟨[5, 90], 2⟩
    let w : Probing Rehearsal.Script := ⟨unsteadyScript, (Dummy.create 50 0).bound 10 100, []⟩
    ∃ v, Ends scriptedPps plan .opposite w (some ⟨[[-10, -20], [30, 40]]⟩) v ∧ v.waits = [10, 10, 10, 90, 90, 90] ∧
      EnoughArrive scriptedPps plan unsteadyScript ∧ ¬TooFewArrive scriptedPps ⟨[], 2⟩ unsteadyScript := by
  intro plan w
  obtain ⟨hsome, -, hends, -⟩ := a_calibration_takes_the_first_samples scriptedPps plan .opposite w
  have hk : (match Dummy.calibrate Probing.slot.cell 2 plan (Probing.pps scriptedPps) .opposite w with
      | .ok a v => decide (a = some ⟨[[-10, -20], [30, 40]]⟩ ∧ v.waits = [10, 10, 10, 90, 90, 90])
      | .error _ _ => false) = true := by decide +kernel
  cases h : Dummy.calibrate Probing.slot.cell 2 plan (Probing.pps scriptedPps) .opposite w with
  | ok a v =>
    rw [h] at hk
    obtain ⟨rfl, hv⟩ := of_decide_eq_true hk
    have he := hends 2 _ v h
    refine ⟨v, he, hv, hsome.mp ⟨_, v, he⟩, ?_⟩
    rintro ⟨arrivals, x, t, -, -, -, hn⟩
    exact absurd hn (by simp)
  | error e v =>
    rw [h] at hk
    cases hk

end ClockDiscipline
