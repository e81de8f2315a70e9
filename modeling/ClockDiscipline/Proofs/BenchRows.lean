/-
  ClockDiscipline.Proofs.BenchRows — what a calibration measures on the bench.

  Simulation, oscillator and engine keep their states side by side; telling and letting
  time pass happen elsewhere and change none of them. The arithmetic is exact. Where
  phase and drift are whole numbers of nanoseconds and no phase leaves the range of a
  sample, each edge shows the phase itself, and the phase goes on from one control value
  to the next: the first sample of a row already shows the drift of its own value.

  Proved: (1) the phases that a row of edges passes through (`course_append`,
  `course_replicate`); (2) one edge (`reaches_nextSample`), one row (`reaches_takeRow`),
  all rows of a calibration (`reaches_calibrate`).
-/

import ClockDiscipline.Bench
import ClockDiscipline.Engine.Pid
import ClockDiscipline.Proofs.Answering
import ClockDiscipline.Proofs.Beside
import ClockDiscipline.Proofs.ExactLine

namespace ClockDiscipline.Bench

/-! ## (1) Phases -/

/-- Whether a phase can be read as a sample. -/
def Readable (q : Int) : Prop := -2147483648 ≤ q ∧ q ≤ 2147483647

instance (q : Int) : Decidable (Readable q) := inferInstanceAs (Decidable (_ ∧ _))

section

variable (c g : Int)

/-- Drift in one second at a control value, with nominal value `c` and drift `g` for one step. -/
def drift (fine : UInt32) : Int := (fine.toNat - c) * g

/-- The phase after one edge at each of these control values. -/
def arrive : Int → List UInt32 → Int
  | q, [] => q
  | q, f :: fs => arrive (q + drift c g f) fs

/-- The phases at the edges. -/
def course : Int → List UInt32 → List Int
  | _, [] => []
  | q, f :: fs => (q + drift c g f) :: course (q + drift c g f) fs

theorem course_append (q : Int) (fs fs' : List UInt32) :
    course c g q (fs ++ fs') = course c g q fs ++ course c g (arrive c g q fs) fs' := by
  induction fs generalizing q with
  | nil => rfl
  | cons f fs ih => simp only [List.cons_append, course, arrive, ih]

/-- At one control value the phase moves by the same drift from edge to edge. -/
theorem course_replicate (q : Int) (n : Nat) (f : UInt32) :
    course c g q (List.replicate n f) = (List.range n).map fun k : Nat => q + (k + 1) * drift c g f := by
  induction n generalizing q with
  | zero => rfl
  | succ n ih =>
    rw [List.replicate_succ, course, ih, List.range_succ_eq_map, List.map_cons, List.map_map]
    congr 1
    · push_cast
      ring
    · refine List.map_congr_left fun k _ => ?_
      simp only [Function.comp_apply]
      push_cast
      ring

end

/-- The sample that a phase gives, with the sign convention applied. -/
def measure (p : Polarity) (q : Int) : Int64 := p.apply (Int32.ofInt q)

theorem toInt_measure (p : Polarity) {q : Int} (h : Readable q) : (measure p q).toInt = p.sign.toInt * q := by
  rw [measure, toInt_apply, Int32.toInt_ofInt_of_le h.1 (by have := h.2; omega)]

theorem measure_bounds (p : Polarity) {q : Int} (h : Readable q) :
    -2147483648 ≤ (measure p q).toInt ∧ (measure p q).toInt ≤ 2147483648 := by
  obtain ⟨h1, h2⟩ := h
  rw [toInt_measure p ⟨h1, h2⟩]
  cases p with
  | normal =>
    rw [show (Polarity.sign .normal).toInt = 1 from rfl]
    omega
  | opposite =>
    rw [show (Polarity.sign .opposite).toInt = -1 from rfl]
    omega

/-- The rows of a calibration that begins at a phase, with this many samples at each control value. -/
def rows (c g : Int) (p : Polarity) (n : Nat) : Int → List UInt32 → List (List Int64)
  | _, [] => []
  | q, point :: points =>
    (course c g q (List.replicate n point)).map (measure p) ::
      rows c g p n (arrive c g q (List.replicate n point)) points

/-! ## (2) A calibration -/

theorem sampleOf_intCast {q : Int} (h : Readable q) : sampleOf (q : Rat) = some (Int32.ofInt q) := by
  have hc : Scalar.clamp? (Scalar.ofInt (-2147483648) : Rat) (Scalar.ofInt 2147483647) (q : Rat) = some (q : Rat) := by
    have := Exact.clamp?_intCast (show (-2147483648 : Int) ≤ 2147483647 by decide) q
    rwa [if_neg (not_lt.mpr h.1), if_neg (not_lt.mpr h.2)] at this
  rw [sampleOf, Exact.round_intCast, hc, Option.map_some, Exact.toInt32_intCast h.1 h.2]

/-- Simulation, oscillator and engine. -/
structure Circuit where
  sim : Sim Rat
  dummy : Dummy
  pid : Pid Rat

/-- The control value without drift. -/
def Circuit.nominal (b : Circuit) : Int := b.sim.params.nominalFine.toNat

/-- The drift for one step is a whole number of nanoseconds, and edges come in time for a calibration. -/
structure Circuit.Paced (b : Circuit) (g : Int) : Prop where
  gain : b.sim.params.nsPerStep = g
  in_time : b.sim.params.period.toNanos ≤ Dummy.edgeTimeout.toNanos

/-- The simulation after an edge at a phase. -/
def Sim.edge (s : Sim Rat) (q : Int) : Sim Rat :=
  { s with phase := (q : Rat), elapsed := s.elapsed + 1, pending := some (Int32.ofInt q) }

/-- The state after some edges: what it was at first, but for the phase and the fine control. -/
structure At (b : Circuit) (fine : UInt32) (q : Int) (s : Circuit) : Prop where
  params : s.sim.params = b.sim.params
  reported : s.sim.pending.isSome = true
  phase : s.sim.phase = q
  fine : s.dummy.fine = fine
  range : s.dummy.range = b.dummy.range
  pid : s.pid = b.pid

section

variable {b s : Circuit} {g q : Int} {f : UInt32}

theorem drifted_of_at (hb : b.Paced g) (hs : At b f q s) :
    s.sim.drifted s.dummy.fine = ((q + drift b.nominal g f : Int) : Rat) := by
  change s.sim.phase + (((s.dummy.fine.toNat : Int) : Rat) - ((s.sim.params.nominalFine.toNat : Int) : Rat)) *
    s.sim.params.nsPerStep = _
  rw [hs.phase, hs.fine, hs.params, hb.gain, drift, Circuit.nominal]
  push_cast
  rfl

theorem wait_of_at (hb : b.Paced g) (hs : At b f q s) (hr : Readable (q + drift b.nominal g f)) {t : Span}
    (ht : b.sim.params.period.toNanos ≤ t.toNanos) :
    s.sim.wait s.dummy.fine t = some (.dataReady, s.sim.edge (q + drift b.nominal g f)) := by
  have hto : ¬t.toNanos < s.sim.params.period.toNanos := by
    rw [hs.params]
    exact not_lt.mpr ht
  simp only [Sim.wait, if_neg hto, if_pos hs.reported, drifted_of_at hb hs, sampleOf_intCast hr]
  rfl

end

section

variable {V : Type}

def simSlot : Slot (Beside Circuit V) (Sim Rat) where
  get w := w.own.sim
  set s w := { w with own := { w.own with sim := s } }

def dummySlot : Slot (Beside Circuit V) Dummy where
  get w := w.own.dummy
  set s w := { w with own := { w.own with dummy := s } }

def pidSlot : Slot (Beside Circuit V) (Pid Rat) where
  get w := w.own.pid
  set s w := { w with own := { w.own with pid := s } }

theorem reaches_aside {S : Circuit → Prop} {x : Act V Unit} (hx : Act.Answers x) :
    Act.Reaches (fun w => S w.own) (Beside.aside x) () (fun w => S w.own) := by
  intro w hw
  obtain ⟨_, v, hv⟩ := hx w.others
  exact ⟨⟨w.own, v⟩, by simp only [Beside.aside, Beside.look, hv], hw⟩

variable [Journal (Act V)]

/-- The simulated device at its pace. -/
def pps (pass : Nat → Act V Unit) (name : String) (period : Span) : EdgeSource (Act (Beside Circuit V)) :=
  paced (fun n => Beside.aside (pass n)) period (source name simSlot.cell dummySlot.cell)

section

variable {pass : Nat → Act V Unit} (hp : ∀ n, Act.Answers (pass n)) (name : String) (period : Span)
  {b : Circuit} {g : Int} (hb : b.Paced g)

include hp hb

theorem reaches_wait {f : UInt32} {q : Int} (hr : Readable (q + drift b.nominal g f)) {t : Span}
    (ht : b.sim.params.period.toNanos ≤ t.toNanos) :
    Act.Reaches (fun w : Beside Circuit V => At b f q w.own) ((pps pass name period).wait t) (.ok .dataReady)
      (fun w => At b f (q + drift b.nominal g f) w.own ∧ w.own.sim.read = .ok (Int32.ofInt (q + drift b.nominal g f))) := by
  refine Act.reaches_bind (reaches_aside (hp _)) fun w hw => ?_
  refine Act.reaches_bind (Act.reaches_get dummySlot w) (Act.reaches_bind (Act.reaches_get simSlot w) ?_) w rfl
  refine Act.reaches_bind (Act.reaches_orPanic (wait_of_at hb hw hr ht)) ?_
  refine Act.reaches_bind (Act.reaches_set simSlot (w.own.sim.edge (q + drift b.nominal g f)) w) ?_
  rintro _ rfl
  exact ⟨_, rfl, ⟨hw.params, rfl, rfl, hw.fine, hw.range, hw.pid⟩, rfl⟩

/-- One edge: the phase has drifted for one second, and is what is read. -/
theorem reaches_nextSample {f : UInt32} {q : Int} (hr : Readable (q + drift b.nominal g f)) :
    Act.Reaches (fun w : Beside Circuit V => At b f q w.own) (Dummy.nextSample (pps pass name period))
      (.ok (some (Int32.ofInt (q + drift b.nominal g f)))) (fun w => At b f (q + drift b.nominal g f) w.own) := by
  refine Act.reaches_bind (reaches_wait hp name period hb hr hb.in_time) fun w hw => ?_
  obtain ⟨hs, hread⟩ := hw
  have hpps : (pps pass name period).read w = .ok (.ok (Int32.ofInt (q + drift b.nominal g f))) w := by
    rw [← hread]
    rfl
  exact ⟨w, (Act.bind_of_ok hpps _).trans rfl, hs⟩

theorem reaches_awaitSample (patience : Nat) {f : UInt32} {q : Int} (hr : Readable (q + drift b.nominal g f)) :
    Act.Reaches (fun w : Beside Circuit V => At b f q w.own)
      (Dummy.awaitSample (pps pass name period) (patience + 1)) (.ok (Int32.ofInt (q + drift b.nominal g f)))
      (fun w => At b f (q + drift b.nominal g f) w.own) :=
  Act.reaches_bind (reaches_nextSample hp name period hb hr) (Act.reaches_pure _)

/-- One row: as many edges at one control value. -/
theorem reaches_takeRow (p : Polarity) (patience : Nat) {f : UInt32} {q : Int} (n : Nat) (row : List Int64)
    (hr : ∀ x ∈ course b.nominal g q (List.replicate n f), Readable x) :
    Act.Reaches (fun w : Beside Circuit V => At b f q w.own)
      (Dummy.takeRow (pps pass name period) p (patience + 1) n row)
      (.ok (row.reverse ++ (course b.nominal g q (List.replicate n f)).map (measure p)))
      (fun w => At b f (arrive b.nominal g q (List.replicate n f)) w.own) := by
  -- The samples that are wanted go down, those of the row so far come first in reverse.
  induction n generalizing q row with
  | zero =>
    simp only [List.replicate_zero, course, arrive, List.map_nil, List.append_nil]
    exact Act.reaches_pure _
  | succ n ih =>
    rw [List.replicate_succ, course] at hr
    refine Act.reaches_bind (reaches_awaitSample hp name period hb patience (hr _ List.mem_cons_self)) ?_
    have h := ih (measure p (q + drift b.nominal g f) :: row) fun x hx => hr x (List.mem_cons_of_mem _ hx)
    rw [List.reverse_cons, List.append_assoc] at h
    exact h

variable (hn : ∀ e, Act.Answers (Journal.note e : Act V Unit))

include hn

/-- All rows of a calibration at control values of the range. -/
theorem reaches_takeRows (p : Polarity) (patience : Nat) (samples : UInt32) {f : UInt32} {q : Int}
    (points : List UInt32) (before : List (List Int64)) (hin : ∀ x ∈ points, b.dummy.range.clamp x = x)
    (hr : ∀ x ∈ course b.nominal g q (points.flatMap (List.replicate samples.toNat)), Readable x) :
    Act.Reaches (fun w : Beside Circuit V => At b f q w.own)
      (Dummy.takeRows dummySlot.cell (pps pass name period) p (patience + 1) samples points before)
      (.ok ⟨before.reverse ++ rows b.nominal g p samples.toNat q points⟩)
      (fun w => ∃ f q, At b f q w.own) := by
  induction points generalizing f q before with
  | nil =>
    rw [rows, List.append_nil]
    exact fun w hw => ⟨w, rfl, f, q, hw⟩
  | cons point points ih =>
    rw [List.flatMap_cons, course_append] at hr
    -- The phase stays where the row before it ended; only the control value is new.
    have hset : Act.Reaches (fun w : Beside Circuit V => At b f q w.own) (dummySlot.cell.modify (·.setFine point)) ()
        (fun w => At b point q w.own) := by
      intro w hw
      refine ⟨_, rfl, hw.params, hw.reported, hw.phase, ?_, hw.range, hw.pid⟩
      exact (congrArg (·.clamp point) hw.range).trans (hin point List.mem_cons_self)
    refine Act.reaches_bind hset (Act.reaches_bind (reaches_aside (hn _)) ?_)
    refine Act.reaches_bind (reaches_takeRow hp name period hb p patience samples.toNat []
      fun x hx => hr x (List.mem_append_left _ hx)) ?_
    have h := ih (f := point) ((course b.nominal g q (List.replicate samples.toNat point)).map (measure p) :: before)
      (fun x hx => hin x (List.mem_cons_of_mem _ hx)) fun x hx => hr x (List.mem_append_right _ hx)
    rw [List.reverse_cons, List.append_assoc] at h
    exact h

/-- A calibration answers the rows and leaves the engine as it was. -/
theorem reaches_calibrate (p : Polarity) (patience : Nat) {plan : Calibration.Plan} {f : UInt32} {q : Int}
    (hin : ∀ x ∈ plan.points, b.dummy.range.clamp x = x)
    (hr : ∀ x ∈ course b.nominal g q (plan.points.flatMap (List.replicate plan.samples.toNat)), Readable x) :
    Act.Reaches (fun w : Beside Circuit V => At b f q w.own)
      (Dummy.calibrate dummySlot.cell (patience + 1) plan (pps pass name period) p)
      (some ⟨rows b.nominal g p plan.samples.toNat q plan.points⟩) (fun w => w.own.pid = b.pid) := by
  intro w hw
  refine Act.reaches_bind (a := w.own.dummy) (P := fun v => v = w) (Q := fun v => At b f q v.own) ?_ ?_ w rfl
  · rintro _ rfl
    exact ⟨_, rfl, hw⟩
  refine Act.reaches_bind (reaches_aside (hn _)) ?_
  refine Act.reaches_bind (reaches_takeRows hp name period hb hn p patience plan.samples plan.points [] hin hr) ?_
  rintro v ⟨f', q', hv⟩
  exact ⟨_, rfl, hv.pid⟩

end

end

end ClockDiscipline.Bench
