/-
  ClockDiscipline.Proofs.BenchCalibration — a calibration on the bench recovers what is simulated.

  A row begins one drift after the row before it ended. It is as many drifts long, from
  its first sample to its last, as it has samples but one: its rate is the drift at its
  control value, wherever it begins. The rates lie on a line whose slope is the drift for
  one step and which vanishes at the nominal value, and two control values that differ
  are enough to find it. The polarity turns the slope around and leaves the zero where
  it is.

  Proved: (1) the rate of a row (`rate?_row`), and the points that all rows make
  (`drifts?_rows`); (2) what an engine takes from them (`submit_rows`); (3) that carrying
  out a calibration takes an engine there (`reaches_carryOut`); (4) that the default
  points are fit for it (`calibratable_quartiles`), so that a calibration recovers gain
  and center (`calibration_recovers_what_is_simulated`).
-/

import ClockDiscipline.Loop.Correction
import ClockDiscipline.Proofs.BenchRows
import ClockDiscipline.Proofs.CalibrateFirst

namespace ClockDiscipline

namespace Bench

/-! ## (1) Rows -/

section

variable {c g q : Int} {p : Polarity} {n : Nat} {f : UInt32} {points : List UInt32}

theorem length_rows (c g q : Int) (p : Polarity) (n : Nat) (points : List UInt32) :
    (rows c g p n q points).length = points.length := by
  induction points generalizing q with
  | nil => rfl
  | cons point points ih => rw [rows, List.length_cons, ih, List.length_cons]

theorem length_of_mem_rows {row : List Int64} (h : row ∈ rows c g p n q points) : row.length = n := by
  induction points generalizing q with
  | nil => cases h
  | cons point points ih =>
    rcases List.mem_cons.mp h with rfl | h
    · rw [List.length_map, course_replicate, List.length_map, List.length_range]
    · exact ih h

/-- The rate of a row of two samples and more, from how far its ends are apart. -/
theorem rate?_of_ends {row : List Int64} {first last : Int64} {d : Int} (h0 : row.head? = some first)
    (h1 : row.getLast? = some last) (hd : last.toInt - first.toInt = d * (row.length - 1)) (hl : 2 ≤ row.length)
    (hlo : -9223372036854775808 ≤ last.toInt - first.toInt) (hhi : last.toInt - first.toInt < 9223372036854775808) :
    Pid.rate? row = some (some (d : Rat)) := by
  obtain ⟨x, hx⟩ : ∃ x, int64? (last.toInt - first.toInt) = some x := ⟨_, if_pos ⟨hlo, hhi⟩⟩
  have hne : (((row.length : Int) - 1 : Int) : Rat) ≠ 0 := by
    rw [Int.cast_ne_zero]
    omega
  have hr : (x.toInt : Rat) / (((row.length : Int) - 1 : Int) : Rat) = d := by
    rw [toInt_of_int64? hx, hd, Int.cast_mul, mul_div_cancel_right₀ _ hne]
  have he : Pid.rate? row = some (some ((x.toInt : Rat) / (((row.length : Int) - 1 : Int) : Rat))) := by
    simp only [Pid.rate?, h0, h1, hx]
    rfl
  rw [he, hr]

/-- First and last sample of a row are as many intervals apart as there are samples but one. -/
theorem rate?_row (hn : 2 ≤ n) (hr : ∀ x ∈ course c g q (List.replicate n f), Readable x) :
    Pid.rate? ((course c g q (List.replicate n f)).map (measure p)) =
      some (some ((p.sign.toInt * drift c g f : Int) : Rat)) := by
  rw [course_replicate] at hr ⊢
  have hreach : ∀ k < n, Readable (q + (k + 1) * drift c g f) := fun k hk =>
    hr _ (List.mem_map.mpr ⟨k, List.mem_range.mpr hk, rfl⟩)
  have h0 := hreach 0 (by omega)
  have h1 := hreach (n - 1) (by omega)
  have hb0 := measure_bounds p h0
  have hb1 := measure_bounds p h1
  have hhead : ((List.range n).map fun k : Nat => q + ((k : Int) + 1) * drift c g f).head? =
      some (q + ((0 : Nat) + 1) * drift c g f) := by
    rw [List.head?_map, List.head?_range, if_neg (by omega)]
    rfl
  have hlast : ((List.range n).map fun k : Nat => q + ((k : Int) + 1) * drift c g f).getLast? =
      some (q + (((n - 1 : Nat) : Int) + 1) * drift c g f) := by
    rw [List.getLast?_map, List.getLast?_range, if_neg (by omega)]
    rfl
  have hlen : (((List.range n).map fun k : Nat => q + ((k : Int) + 1) * drift c g f).map (measure p)).length = n := by
    rw [List.length_map, List.length_map, List.length_range]
  refine rate?_of_ends (by rw [List.head?_map, hhead]; rfl) (by rw [List.getLast?_map, hlast]; rfl) ?_ (by omega)
    (by omega) (by omega)
  rw [hlen, toInt_measure p h0, toInt_measure p h1, Nat.cast_sub (by omega)]
  push_cast
  ring

/-- Against its control value, each row is one point. -/
theorem drifts?_rows (hn : 2 ≤ n) (hr : ∀ x ∈ course c g q (points.flatMap (List.replicate n)), Readable x) :
    Pid.drifts? points (rows c g p n q points) =
      some (points.map fun f => (((f.toNat : Int) : Rat), ((p.sign.toInt * drift c g f : Int) : Rat))) := by
  suffices h : ((points.zip (rows c g p n q points)).mapM fun x : UInt32 × List Int64 =>
      (Pid.rate? x.2).map fun rate : Option Rat => rate.map fun r => ((Scalar.ofInt (x.1.toNat : Int) : Rat), r)) =
      some (points.map fun f => some (((f.toNat : Int) : Rat), ((p.sign.toInt * drift c g f : Int) : Rat))) by
    rw [Pid.drifts?, h, Option.map_some, List.filterMap_map]
    simp only [Function.comp_def, id_eq, List.filterMap_eq_map']
  induction points generalizing q with
  | nil => rfl
  | cons point points ih =>
    rw [List.flatMap_cons, course_append] at hr
    have h1 := rate?_row (p := p) hn fun x hx => hr x (List.mem_append_left _ hx)
    have h2 := ih fun x hx => hr x (List.mem_append_right _ hx)
    rw [rows, List.zip_cons_cons, List.mapM_cons, h1, h2]
    rfl

theorem matches_rows (c g : Int) (p : Polarity) (samples : UInt32) (q : Int) (points : List UInt32) :
    Calibration.Results.matches ⟨rows c g p samples.toNat q points⟩ ⟨points, samples⟩ = true :=
  Calibration.Results.matches_iff.mpr ⟨length_rows c g q p samples.toNat points, fun _ h => length_of_mem_rows h⟩

end

/-! ## (2) The engine -/

/-- Control points that a line can be laid through. -/
structure Calibratable (r : DacRange) (points : List UInt32) : Prop where
  inside : ∀ p ∈ points, r.min ≤ p ∧ p ≤ r.max
  distinct : ∃ p ∈ points, ∃ q ∈ points, p ≠ q

theorem sign_mul_ne_zero (p : Polarity) {g : Int} (hg : g ≠ 0) : p.sign.toInt * g ≠ 0 := by
  refine mul_ne_zero ?_ hg
  cases p <;> decide

/-- An engine with what there is to recover. -/
def recovered (e : Pid Rat) (p : Polarity) (g : Int) (nominal : UInt32) : Pid Rat :=
  { e with
    pending := false
    gain := ((p.sign.toInt * g : Int) : Rat)
    center := some (e.tuning.range.clamp nominal)
    integral := 0 }

/-- The line through the drifts has the drift of one step as its slope, and vanishes at the nominal value. -/
theorem fit?_drifts {points : List UInt32} (hd : ∃ p ∈ points, ∃ q ∈ points, p ≠ q) (c k : Int) :
    LineFit.fit? (points.map fun f : UInt32 => (((f.toNat : Int) : Rat), ((k * (f.toNat - c) : Int) : Rat))) =
      some ((k : Rat), ((-(k * c) : Int) : Rat)) := by
  obtain ⟨x, hx, y, hy, hxy⟩ := hd
  refine LineFit.fit?_of_line ?_ (List.mem_map_of_mem hx) (List.mem_map_of_mem hy) ?_
  · intro z hz
    obtain ⟨f, -, rfl⟩ := List.mem_map.mp hz
    push_cast
    ring
  · intro h
    exact hxy (Exact.ofInt_toNat_inj.mp h)

theorem submit_rows {e : Pid Rat} {p : Polarity} {g q : Int} {nominal samples : UInt32} {points : List UInt32}
    (hp : Calibratable e.tuning.range points) (hn : 2 ≤ samples.toNat) (hg : g ≠ 0)
    (hr : ∀ x ∈ course nominal.toNat g q (points.flatMap (List.replicate samples.toNat)), Readable x) :
    e.submit ⟨points, samples⟩ ⟨rows nominal.toNat g p samples.toNat q points⟩ =
      some (.adopted ((p.sign.toInt * g : Int) : Rat) (e.tuning.range.clamp nominal), recovered e p g nominal) := by
  obtain ⟨k, hkg⟩ : ∃ k, p.sign.toInt * g = k := ⟨_, rfl⟩
  have hk : (k : Rat) ≠ 0 := Int.cast_ne_zero.mpr (hkg ▸ sign_mul_ne_zero p hg)
  have hd : Pid.drifts? points (rows nominal.toNat g p samples.toNat q points) =
      some (points.map fun f => (((f.toNat : Int) : Rat), ((k * (f.toNat - nominal.toNat) : Int) : Rat))) := by
    have hdrift : ∀ f : UInt32, p.sign.toInt * drift nominal.toNat g f = k * (f.toNat - nominal.toNat) := by
      intro f
      rw [drift, ← hkg]
      ring
    simp only [drifts?_rows hn hr, hdrift]
  have hfit := fit?_drifts hp.distinct nominal.toNat k
  have hnormal : Scalar.isNormal (k : Rat) = true := bne_iff_ne.mpr hk
  -- The zero of the line is a whole number, and rounding leaves it alone.
  have hzero : -((-(k * nominal.toNat) : Int) : Rat) / (k : Rat) = ((nominal.toNat : Int) : Rat) := by
    push_cast
    rw [neg_neg, mul_div_cancel_left₀ _ hk]
  have hround := Exact.round_intCast nominal.toNat
  have hclamp : Scalar.clamp? (Scalar.ofInt e.tuning.range.min.toNat) (Scalar.ofInt e.tuning.range.max.toNat)
      ((nominal.toNat : Int) : Rat) = some (((e.tuning.range.clamp nominal).toNat : Int) : Rat) :=
    Exact.clamp?_toNat e.tuning.range nominal
  have hword := Exact.toUInt32_toNat (e.tuning.range.clamp nominal)
  simp only [Pid.submit, matches_rows, hd, hfit, hnormal, hzero, hround, hclamp, hword, Bool.not_true, Bool.false_eq_true,
    if_false, if_true, Option.bind_eq_bind, Option.bind_some]
  subst hkg
  rfl

/-! ## (3) The loop -/

/-- A bench at whole numbers of nanoseconds, at a phase `q` and with a drift `g` for one step, on which the
    engine can calibrate. -/
structure Ready (b : Circuit) (q g : Int) : Prop extends b.Paced g where
  reported : b.sim.pending.isSome = true
  phase : b.sim.phase = q
  drifts : g ≠ 0
  bounded : b.dummy.range = b.pid.tuning.range
  points : Calibratable b.pid.tuning.range b.pid.tuning.points
  samples : 2 ≤ b.pid.tuning.samples.toNat
  /-- No phase on the way leaves the range of a sample. -/
  in_reach : ∀ x ∈ course b.nominal g q (b.pid.tuning.points.flatMap (List.replicate b.pid.tuning.samples.toNat)),
    Readable x

theorem plan_of_ready {b : Circuit} {q g : Int} (h : Ready b q g) :
    b.pid.plan = some ⟨b.pid.tuning.points, b.pid.tuning.samples⟩ := by
  obtain ⟨p, hp, -⟩ := h.points.distinct
  have h1 : b.pid.tuning.points.isEmpty = false := List.isEmpty_eq_false_iff.mpr (List.ne_nil_of_mem hp)
  have h2 : ¬b.pid.tuning.samples < 2 := by
    rw [UInt32.lt_iff_toNat_lt]
    exact not_lt.mpr h.samples
  rw [Pid.plan, h1, decide_eq_false h2]
  rfl

section

variable {V : Type} [Journal (Act V)]

/-- The built-in parts on the bench, with a receiver of any kind. -/
def rig (pass : Nat → Act V Unit) (name : String) (period : Span) (patience : Nat) (range : DacRange)
    (receiver : Receiver (Act (Beside Circuit V))) : Rig (Act (Beside Circuit V)) :=
  ⟨pps pass name period, Dummy.oscillator patience dummySlot.cell, receiver, Pid.engine range pidSlot.cell⟩

variable (hn : ∀ e, Act.Answers (Journal.note e : Act V Unit))

include hn

theorem reaches_noteAdoption {S : Circuit → Prop} (a : Pid.Adoption Rat) :
    Act.Reaches (fun w : Beside Circuit V => S w.own) (Pid.noteAdoption a) () (fun w => S w.own) := by
  cases a <;> exact reaches_aside (hn _)

/-- The engine takes the rows. -/
theorem reaches_submit (range : DacRange) {b : Circuit} {q g : Int} (h : Ready b q g) (p : Polarity) :
    Act.Reaches (fun w : Beside Circuit V => w.own.pid = b.pid)
      ((Pid.engine range pidSlot.cell).submit ⟨b.pid.tuning.points, b.pid.tuning.samples⟩
        ⟨rows b.nominal g p b.pid.tuning.samples.toNat q b.pid.tuning.points⟩) ()
      (fun w => w.own.pid = recovered b.pid p g b.sim.params.nominalFine) := by
  intro w hw
  obtain ⟨adoption, hs⟩ : ∃ adoption, w.own.pid.submit ⟨b.pid.tuning.points, b.pid.tuning.samples⟩
      ⟨rows b.nominal g p b.pid.tuning.samples.toNat q b.pid.tuning.points⟩ =
        some (adoption, recovered b.pid p g b.sim.params.nominalFine) := by
    rw [hw]
    exact ⟨_, submit_rows h.points h.samples h.drifts h.in_reach⟩
  refine Act.reaches_bind (Act.reaches_get pidSlot w) (Act.reaches_bind (Act.reaches_orPanic hs) ?_) w rfl
  refine Act.reaches_bind (Act.reaches_set pidSlot (recovered b.pid p g b.sim.params.nominalFine) w) ?_
  rintro _ rfl
  exact reaches_noteAdoption hn (S := fun c => c.pid = recovered b.pid p g b.sim.params.nominalFine) adoption _ rfl

variable {pass : Nat → Act V Unit} (hp : ∀ n, Act.Answers (pass n)) (name : String) (period : Span)

include hp

theorem reaches_calibrated (patience : Nat) (range : DacRange) (receiver : Receiver (Act (Beside Circuit V)))
    {b : Circuit} {f : UInt32} {q g : Int} (h : Ready b q g) (p : Polarity) :
    Act.Reaches (fun w : Beside Circuit V => At b f q w.own)
      (Correction.calibrate (rig pass name period (patience + 1) range receiver) p).run (.ok ())
      (fun w => w.own.pid = recovered b.pid p g b.sim.params.nominalFine) := by
  have hin : ∀ x ∈ b.pid.tuning.points, b.dummy.range.clamp x = x := by
    intro x hx
    obtain ⟨h1, h2⟩ := h.points.inside x hx
    rw [h.bounded, DacRange.clamp_of_mem _ h1 h2]
  have hplan : Act.Reaches (fun w : Beside Circuit V => At b f q w.own) (Pid.engine range pidSlot.cell).plan
      (some ⟨b.pid.tuning.points, b.pid.tuning.samples⟩) (fun w => At b f q w.own) := by
    intro w hw
    refine ⟨w, ?_, hw⟩
    rw [← plan_of_ready h, ← hw.pid]
    rfl
  have hrows : Act.Reaches (fun w : Beside Circuit V => At b f q w.own)
      (Dummy.calibrate dummySlot.cell (patience + 1) ⟨b.pid.tuning.points, b.pid.tuning.samples⟩ (pps pass name period) p)
      (some ⟨rows b.nominal g p b.pid.tuning.samples.toNat q b.pid.tuning.points⟩) (fun w => w.own.pid = b.pid) :=
    reaches_calibrate hp name period h.toPaced hn p patience hin h.in_reach
  -- A note, the plan, a note, the measurement, and the rows to the engine.
  refine Act.reaches_attempt (Act.reaches_lift (reaches_aside (hn _))) ?_
  refine Act.reaches_attempt (Act.reaches_attempt (Act.reaches_lift hplan) (Act.reaches_pure _)) ?_
  refine Act.reaches_attempt (Act.reaches_lift (reaches_aside (hn _))) ?_
  refine Act.reaches_attempt (Act.reaches_attempt (Act.reaches_lift hrows) (Act.reaches_pure _)) ?_
  exact Act.reaches_lift (reaches_submit hn range h p)

theorem reaches_carryOut (patience : Nat) (range : DacRange) (receiver : Receiver (Act (Beside Circuit V)))
    {b : Circuit} {f : UInt32} {q g : Int} (h : Ready b q g) (p : Polarity) {o : ControlOutput} (ho : o.action = .calibrate) :
    Act.Reaches (fun w : Beside Circuit V => At b f q w.own)
      (Correction.carryOut (rig pass name period (patience + 1) range receiver) p o).run (.ok false)
      (fun w => w.own.pid = recovered b.pid p g b.sim.params.nominalFine) := by
  rw [Correction.carryOut, Correction.announce, ho]
  refine Act.reaches_attempt (Act.reaches_pure _) ?_
  refine Act.reaches_attempt (Act.reaches_lift (reaches_aside (hn _))) ?_
  exact Act.reaches_attempt (reaches_calibrated hn hp name period patience range receiver h p) (Act.reaches_pure _)

end

/-! ## (4) The default points -/

/-- The quartiles do not wrap around, and lie one behind the other. -/
theorem toNat_quartiles (r : DacRange) : (Pid.quartiles r).map UInt32.toNat =
    [r.min.toNat + (r.max.toNat - r.min.toNat) / 4, r.min.toNat + (r.max.toNat - r.min.toNat) / 2,
      r.min.toNat + (r.max.toNat - r.min.toNat) / 4 * 3] := by
  have hmax := r.max.toNat_lt
  have hle := UInt32.le_iff_toNat_le.mp r.ordered
  have hspan : (r.max - r.min).toNat = r.max.toNat - r.min.toNat := UInt32.toNat_sub_of_le _ _ r.ordered
  simp only [Pid.quartiles, List.map_cons, List.map_nil, UInt32.toNat_add, UInt32.toNat_mul, UInt32.toNat_div, hspan,
    UInt32.reduceToNat]
  simp (disch := omega) only [Nat.mod_eq_of_lt]

theorem inside_of_mem_quartiles {r : DacRange} {p : UInt32} (hp : p ∈ Pid.quartiles r) : r.min ≤ p ∧ p ≤ r.max := by
  have hle := UInt32.le_iff_toNat_le.mp r.ordered
  have hp := List.mem_map_of_mem (f := UInt32.toNat) hp
  rw [toNat_quartiles] at hp
  rw [UInt32.le_iff_toNat_le, UInt32.le_iff_toNat_le]
  simp only [List.mem_cons, List.not_mem_nil, or_false] at hp
  omega

theorem calibratable_quartiles {r : DacRange} (h : r.min.toNat + 2 ≤ r.max.toNat) : Calibratable r (Pid.quartiles r) where
  inside p hp := inside_of_mem_quartiles hp
  distinct := by
    refine ⟨r.min + (r.max - r.min) / 4, List.mem_cons_self, r.min + (r.max - r.min) / 2,
      List.mem_cons_of_mem _ List.mem_cons_self, ?_⟩
    intro he
    obtain ⟨h1, h2⟩ := List.cons.inj (toNat_quartiles r)
    obtain ⟨h2, -⟩ := List.cons.inj h2
    have he := congrArg UInt32.toNat he
    omega

theorem points_of_ofConfig {R : Type} [Numeral R] {c : Config} {e : Pid R} (h : Pid.ofConfig R c = .ok e)
    (hc : c.get? "calibration-points" = none) : e.tuning.points = Pid.quartiles e.tuning.range := by
  have hp := (Pid.configured_of_ofConfig h).points
  rw [Config.list?, hc] at hp
  exact (Except.ok.inj hp).symm

/-- A calibration on the bench leaves the engine with the simulated drift for one step as its gain, the simulated
    nominal value, as far as the range goes, as its center, and nothing to make up for. Without points of its own
    an engine has some that it can calibrate at. -/
theorem calibration_recovers_what_is_simulated {V : Type} [Journal (Act V)]
    (hn : ∀ e, Act.Answers (Journal.note e : Act V Unit)) {pass : Nat → Act V Unit} (hp : ∀ n, Act.Answers (pass n)) :
    (∀ (name : String) (period : Span) (patience : Nat) (range : DacRange)
        (receiver : Receiver (Act (Beside Circuit V))) (w : Beside Circuit V) (q g : Int) (p : Polarity)
        (o : ControlOutput), Ready w.own q g → o.action = .calibrate →
      ∃ v, (Correction.carryOut (rig pass name period (patience + 1) range receiver) p o).run w = .ok (.ok false) v ∧
        v.own.pid = { w.own.pid with
          pending := false
          gain := ((p.sign.toInt * g : Int) : Rat)
          center := some (w.own.pid.tuning.range.clamp w.own.sim.params.nominalFine)
          integral := 0 }) ∧
      ∀ (R : Type) [Numeral R] (c : Config) (e : Pid R), Pid.ofConfig R c = .ok e →
        c.get? "calibration-points" = none → e.tuning.range.min.toNat + 2 ≤ e.tuning.range.max.toNat →
        Calibratable e.tuning.range e.tuning.points := by
  refine ⟨fun name period patience range receiver w q g p o h ho => ?_, fun R _ c e he hc hr => ?_⟩
  · exact reaches_carryOut hn hp name period patience range receiver h p ho w ⟨rfl, h.reported, h.phase, rfl, rfl, rfl⟩
  · rw [points_of_ofConfig he hc]
    exact calibratable_quartiles hr

/-- Three nanoseconds for one step, and a nominal value above the range. -/
def smallCircuit : Circuit :=
  let range : DacRange := ⟨0, 80, by decide⟩
  { sim := ⟨"bench", ⟨100, 3, 0, .ofSecs 1, 0⟩, 40, 1, some 40⟩
    dummy := ⟨20, 0, false, range⟩
    pid := { (default : Pid Rat) with tuning := ⟨range, 0, 0, 0, 0, [50, 70], 3⟩, integral := 9, pending := true } }

/-- With the signs turned around, the gain is negative; the center is where the range ends. -/
theorem a_small_bench_is_recovered :
    Ready smallCircuit 40 3 ∧
      (∃ v, (Correction.carryOut (rig (fun _ => pure ()) "bench" (.ofSecs 1) 1 .full
          (Rehearsal.playedReceiver 0 ⟨fun w => .ok [] w, fun _ w => .ok () w⟩)) .opposite ⟨.calibrate, 20, 0⟩).run
            ⟨smallCircuit, Rehearsal.Stage.empty⟩ = .ok (.ok false) v ∧
        v.own.pid.gain = -3 ∧ v.own.pid.center = some 80 ∧ v.own.pid.integral = 0) ∧
      Calibratable Pid.firstPid.tuning.range [16383, 32767, 49149] := by
  have hready : Ready smallCircuit 40 3 := {
    gain := rfl
    in_time := by decide
    reported := rfl
    phase := rfl
    drifts := by decide
    bounded := rfl
    points := {
      inside := List.forall_mem_cons.mpr ⟨by decide, List.forall_mem_singleton.mpr (by decide)⟩
      distinct := ⟨50, by decide, 70, by decide, by decide⟩ }
    samples := by decide
    in_reach := by decide }
  obtain ⟨hrun, hdefault⟩ := calibration_recovers_what_is_simulated (V := Rehearsal.Stage) (fun _ _ => ⟨_, _, rfl⟩)
    fun _ => Act.answers_pure ()
  obtain ⟨v, hv, hpid⟩ := hrun "bench" (.ofSecs 1) 0 .full (Rehearsal.playedReceiver 0 ⟨fun w => .ok [] w, fun _ w => .ok () w⟩)
    ⟨smallCircuit, Rehearsal.Stage.empty⟩ 40 3 .opposite ⟨.calibrate, 20, 0⟩ hready rfl
  refine ⟨hready, ⟨v, hv, ?_⟩, hdefault Rat Pid.firstConfig Pid.firstPid Pid.ofConfig_first rfl (by decide)⟩
  rw [hpid]
  exact ⟨rfl, by decide, rfl⟩

end Bench

end ClockDiscipline
