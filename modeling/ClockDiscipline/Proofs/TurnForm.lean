/-
  ClockDiscipline.Proofs.TurnForm — which calls a turn makes, and what it answers.

  The calls of a turn have one of three forms: a wait alone; a wait and a read; or a wait
  and a read with a good sample, the readout, the engine and the correction that it asks
  for. Each form ends right after the first call that fails, and the failure is the
  answer of the turn. Each part of what the engine is handed is tied to an answer of the
  same turn (`Handed`), so that there is one such input and no other.

  Proved: (1) the form of what readout, correction and turn do, one statement for each
  (`reading_of_path`, `correcting_of_path`, `fits_of_path`), and which input it hands over
  (`handed_build`, `Handed.eq_build`); (2) the calls of every turn, on every rig and in
  every world, fit exactly one form (`calls_fit_one_form`).
-/

import ClockDiscipline.Proofs.PhaseParts
import ClockDiscipline.Proofs.TurnTalk
import ClockDiscipline.Rehearsal.Stage

namespace ClockDiscipline

/-! ## (1) The calls of readout, correction and turn -/

/-- The calls that read oscillator and receiver, and what comes of them. -/
inductive Reading : List Call → Except Error Readout → Prop where
  | temperatureFails (e : String) : Reading [⟨.temperature, .error e⟩] (.error (.driver "oscillator temperature" e))
  | pollFails (t : Option UInt16) (e : String) :
      Reading [⟨.temperature, .ok t⟩, ⟨.poll, .error e⟩] (.error (.driver "polling receiver data" e))
  | controlsFail (t : Option UInt16) (f : Fix) (q : Int32) (e : String) :
      Reading [⟨.temperature, .ok t⟩, ⟨.poll, .ok f⟩, ⟨.qerr, q⟩, ⟨.controls, .error e⟩]
        (.error (.driver "oscillator controls" e))
  /-- A model without a sensor counts as 0 degrees, and any fix but a valid one as none. -/
  | complete (t : Option UInt16) (f : Fix) (q : Int32) (c : Controls) :
      Reading [⟨.temperature, .ok t⟩, ⟨.poll, .ok f⟩, ⟨.qerr, q⟩, ⟨.controls, .ok c⟩]
        (.ok ⟨c, t.getD 0, decide (f = .valid), q⟩)

/-- The calls that carry out an output, and whether the next sample is to be ignored. -/
inductive Correcting (p : Polarity) (o : ControlOutput) : List Call → Except Error Bool → Prop where
  | jumpFails (h : o.action = .phaseJump) (e : IoError) :
      Correcting p o [⟨.shift (-o.phaseShift), .error e⟩] (.error (.io "apply phase offset" e))
  | jumps (h : o.action = .phaseJump) : Correcting p o [⟨.shift (-o.phaseShift), .ok ()⟩] (.ok true)
  | planMissing (h : o.action = .calibrate) :
      Correcting p o [⟨.plan, none⟩] (.error (.outOfMemory "calibration parameters"))
  | resultsMissing (h : o.action = .calibrate) (plan : Calibration.Plan) :
      Correcting p o [⟨.plan, some plan⟩, ⟨.calibrate plan p, none⟩] (.error (.outOfMemory "oscillator calibration"))
  | calibrates (h : o.action = .calibrate) (plan : Calibration.Plan) (results : Calibration.Results) :
      Correcting p o [⟨.plan, some plan⟩, ⟨.calibrate plan p, some results⟩, ⟨.submit plan results, ()⟩] (.ok false)
  | applyFails (h1 : o.action ≠ .phaseJump) (h2 : o.action ≠ .calibrate) (e : String) :
      Correcting p o [⟨.apply o, .error e⟩] (.error (.driver "apply output" e))
  | applies (h1 : o.action ≠ .phaseJump) (h2 : o.action ≠ .calibrate) : Correcting p o [⟨.apply o, .ok ()⟩] (.ok false)

/-- What an engine is handed about a sample `n`, by the sample and by what oscillator and receiver answered. -/
structure Handed (p : Polarity) (n : Int32) (reads : List Call) (i : ControlInput) : Prop where
  /-- Whole seconds, and less than a second on the same side of zero. -/
  split : i.phase.Split
  total : i.phase.sum = match p with
    | .normal => n.toInt
    | .opposite => -n.toInt
  /-- A model without a sensor counts as 0 degrees. -/
  temperature : ∃ t : Option UInt16, ⟨.temperature, .ok t⟩ ∈ reads ∧ i.temperature = t.getD 0
  /-- Any fix but a valid one counts as none. -/
  valid : ∃ f : Fix, ⟨.poll, .ok f⟩ ∈ reads ∧ (i.valid = true ↔ f = .valid)
  qerr : ⟨.qerr, i.qerr⟩ ∈ reads
  controls : ⟨.controls, .ok ⟨i.fine, i.coarse, i.lock⟩⟩ ∈ reads

/-- The calls after a good sample `n` that is not ignored, and the answer of the turn. -/
inductive Acting (settings : Settings) (s : LoopState) (n : Int32) :
    List Call → Except Error (Turn × LoopState) → Prop where
  | unread {calls : List Call} {e : Error} (h : Reading calls (.error e)) : Acting settings s n calls (.error e)
  | undecided {calls : List Call} {r : Readout} {i : ControlInput} (h : Reading calls (.ok r))
      (e : String) (hi : Handed settings.polarity n calls i) :
      Acting settings s n (calls ++ [⟨.process i, .error e⟩]) (.error (.driver "decision engine" e))
  | failed {calls more : List Call} {r : Readout} {i : ControlInput} {o : ControlOutput} {e : Error}
      (h : Reading calls (.ok r)) (h' : Correcting settings.polarity o more (.error e))
      (hi : Handed settings.polarity n calls i) :
      Acting settings s n (calls ++ ⟨.process i, .ok o⟩ :: more) (.error e)
  | acted {calls more : List Call} {r : Readout} {i : ControlInput} {o : ControlOutput} {ignore : Bool}
      (h : Reading calls (.ok r)) (h' : Correcting settings.polarity o more (.ok ignore))
      (hi : Handed settings.polarity n calls i) :
      Acting settings s n (calls ++ ⟨.process i, .ok o⟩ :: more)
        (.ok (.acted o.action, if ignore then s.ignoring else s))

section

variable {p : Polarity} {n : Int32} {calls : List Call} {q : Readout} {i : ControlInput}

theorem handed_build (h : Reading calls (.ok q)) : Handed p n calls (.build n p q) := by
  have hs : (PhaseError.ofSample n p).sum = p.sign.toInt * n.toInt := total_ofSample p n
  cases h with
  | complete t f q c =>
  refine ⟨PhaseError.split_ofNs _, ?_, ⟨t, by simp, rfl⟩, ⟨f, by simp, by simp [ControlInput.build]⟩, ?_, ?_⟩
  · cases p with
    | normal => exact hs.trans (Int.one_mul _)
    | opposite => exact hs.trans (Int.neg_one_mul _)
  · simp [ControlInput.build]
  · simp [ControlInput.build]

theorem Handed.phase_eq (h : Handed p n calls i) : i.phase = .ofSample n p := by
  have ht : i.phase.sum = (p.apply n).toInt := by
    rw [h.total, toInt_apply]
    cases p with
    | normal => exact (Int.one_mul _).symm
    | opposite => exact (Int.neg_one_mul _).symm
  have hn : i.phase.asNs? = some (p.apply n) := by rw [PhaseError.asNs?_of_split h.split, ht, int64?_toInt]
  exact (PhaseError.ofNs_of_split h.split hn).symm

/-- Each of them was read once, so that there is one such input. -/
theorem Handed.eq_build (h : Handed p n calls i) (hq : Reading calls (.ok q)) : i = .build n p q := by
  have hphase := h.phase_eq
  obtain ⟨-, -, ⟨t', ht, htemperature⟩, ⟨f', hf, hvalid⟩, hqerr, hcontrols⟩ := h
  cases hq with
  | complete t f q c =>
  obtain rfl : t' = t := by simpa using ht
  obtain rfl : f' = f := by simpa using hf
  obtain rfl : i.qerr = q := by simpa using hqerr
  obtain rfl : ⟨i.fine, i.coarse, i.lock⟩ = c := by simpa using hcontrols
  have hvalid : i.valid = decide (f' = .valid) := by
    rw [← Bool.coe_iff_coe, hvalid, decide_eq_true_iff]
  obtain ⟨phase, valid, lock, temperature, qerr, fine, coarse⟩ := i
  rw [ControlInput.build, ControlInput.mk.injEq]
  exact ⟨hphase, hvalid, rfl, htemperature, rfl, rfl, rfl⟩

/-- More calls beside them change nothing. -/
theorem Handed.mono {more : List Call} (h : Handed p n calls i) (hs : ∀ c ∈ calls, c ∈ more) : Handed p n more i where
  split := h.split
  total := h.total
  temperature := h.temperature.imp fun _ ht => ⟨hs _ ht.1, ht.2⟩
  valid := h.valid.imp fun _ hf => ⟨hs _ hf.1, hf.2⟩
  qerr := hs _ h.qerr
  controls := hs _ h.controls

end

theorem run_bind_path {α β : Type} {t : ExceptT Error Talk α} {f : α → ExceptT Error Talk β} {calls : List Call}
    {r : Except Error β} (h : (t >>= f).run.Path calls r) :
    (∃ e, t.run.Path calls (.error e) ∧ r = .error e) ∨
      ∃ a before after, calls = before ++ after ∧ t.run.Path before (.ok a) ∧ (f a).run.Path after r := by
  obtain ⟨a, before, after, rfl, hb, ha⟩ := Talk.path_bind h
  cases a with
  | error e =>
    obtain ⟨rfl, rfl⟩ := ha
    exact Or.inl ⟨e, by rwa [List.append_nil], rfl⟩
  | ok a => exact Or.inr ⟨a, before, after, rfl, hb, ha⟩

section

variable {m : Type → Type} (rig : Rig m) {calls : List Call}

theorem validity_of_path {r : Except Error Bool} (h : (Readout.validity rig.script.receiver).run.Path calls r) :
    (∃ e, calls = [⟨.poll, .error e⟩] ∧ r = .error (.driver "polling receiver data" e)) ∨
      ∃ f, calls = [⟨.poll, .ok f⟩] ∧ r = .ok (decide (f = .valid)) := by
  obtain ⟨f, calls, rfl, h⟩ := h
  cases f with
  | error e => obtain ⟨rfl, rfl⟩ := h; exact Or.inl ⟨e, rfl, rfl⟩
  | ok f =>
    -- A fix that cannot be trusted is told about, which is no call.
    cases f <;> obtain ⟨rfl, rfl⟩ := h <;> exact Or.inr ⟨_, rfl, rfl⟩

theorem reading_of_path {r : Except Error Readout}
    (h : (Readout.take rig.script.oscillator rig.script.receiver).run.Path calls r) : Reading calls r := by
  obtain ⟨t, calls, rfl, h⟩ := h
  cases t with
  | error e => obtain ⟨rfl, rfl⟩ := h; exact .temperatureFails e
  | ok t =>
  rcases run_bind_path (t := Readout.validity rig.script.receiver) h with
    ⟨e, hv, rfl⟩ | ⟨valid, poll, rest, rfl, hv, hq⟩
  · rcases validity_of_path rig hv with ⟨e, rfl, he⟩ | ⟨f, -, hf⟩
    · cases he
      exact .pollFails t e
    · cases hf
  rcases validity_of_path rig hv with ⟨e, -, he⟩ | ⟨f, rfl, hf⟩
  · cases he
  cases hf
  obtain ⟨q, calls, rfl, c, calls, rfl, hc⟩ := hq
  cases c with
  | error e => obtain ⟨rfl, rfl⟩ := hc; exact .controlsFail t f q e
  | ok c => obtain ⟨rfl, rfl⟩ := hc; exact .complete t f q c

theorem correcting_of_path {p : Polarity} {o : ControlOutput} {r : Except Error Bool}
    (h : (Correction.carryOut rig.script p o).run.Path calls r) : Correcting p o calls r := by
  obtain ⟨action, setpoint, ns⟩ := o
  cases action with
  | phaseJump =>
    obtain ⟨a, calls, rfl, h⟩ := h
    cases a with
    | error e => obtain ⟨rfl, rfl⟩ := h; exact .jumpFails rfl e
    | ok a => obtain ⟨rfl, rfl⟩ := h; exact .jumps rfl
  | calibrate =>
    obtain ⟨plan, calls, rfl, h⟩ := h
    cases plan with
    | none => obtain ⟨rfl, rfl⟩ := h; exact .planMissing rfl
    | some plan =>
    obtain ⟨results, calls, rfl, h⟩ := h
    cases results with
    | none => obtain ⟨rfl, rfl⟩ := h; exact .resultsMissing rfl plan
    | some results =>
    obtain ⟨a, calls, rfl, rfl, rfl⟩ := h
    exact .calibrates rfl plan results
  | _ =>
    obtain ⟨a, calls, rfl, h⟩ := h
    cases a with
    | error e => obtain ⟨rfl, rfl⟩ := h; exact .applyFails (by simp) (by simp) e
    | ok a => obtain ⟨rfl, rfl⟩ := h; exact .applies (by simp) (by simp)

theorem acting_of_path {settings : Settings} {s : LoopState} {n : Int32} {r : Except Error (Turn × LoopState)}
    (h : (Turn.act rig.script settings s n).run.Path calls r) : Acting settings s n calls r := by
  rcases run_bind_path (t := Readout.take rig.script.oscillator rig.script.receiver) h with
    ⟨e, hr, rfl⟩ | ⟨readout, reads, rest, rfl, hr, ho⟩
  · exact .unread (reading_of_path rig hr)
  have hr := reading_of_path rig hr
  obtain ⟨o, more, rfl, ho⟩ := ho
  cases o with
  | error e => obtain ⟨rfl, rfl⟩ := ho; exact .undecided hr e (handed_build hr)
  | ok o =>
  rcases run_bind_path (t := Correction.carryOut rig.script settings.polarity o) ho with
    ⟨e, hc, rfl⟩ | ⟨ignore, more, rest, rfl, hc, he⟩
  · exact .failed hr (correcting_of_path rig hc) (handed_build hr)
  obtain ⟨rfl, rfl⟩ := he
  rw [List.append_nil]
  exact .acted hr (correcting_of_path rig hc) (handed_build hr)

end

/-! ## (2) The form of a turn -/

namespace Turn

/-- How a turn ends that waited and had nothing to read. -/
def afterWait (s : LoopState) : Except IoError EdgeEvent → Option (Except Error (Turn × LoopState))
  | .error e => some (.error (.io "waiting for PPS event" e))
  | .ok .timeout => some (.error .ppsTimeout)
  | .ok .interrupted => some (.ok (.interrupted, s))
  | .ok .dataReady => none

/-- How a turn ends that read and had nothing to act on. -/
def afterRead (s : LoopState) : Except IoError Int32 → Option (Except Error (Turn × LoopState))
  | .error e =>
    if e.kindOf = .wouldBlock ∨ e.kindOf = .interrupted then some (.ok (.notReady, s))
    else some (.error (.io "reading phase error" e))
  | .ok _ => if s.ignoreNext then some (.ok (.skipped, { s with ignoreNext := false })) else none

inductive Form where
  /-- A wait alone. -/
  | waited
  /-- A wait and a read. -/
  | sampled
  /-- A wait, a read, and what follows a good sample that is not ignored. -/
  | carried
  deriving DecidableEq, Repr

/-- Whether calls have a form, and an answer is the one they lead to. -/
def Form.Fits (settings : Settings) (s : LoopState) (calls : List Call) (r : Except Error (Turn × LoopState)) :
    Form → Prop
  | .waited => ∃ a, calls = [⟨.wait settings.ppsTimeout, a⟩] ∧ afterWait s a = some r
  | .sampled =>
    ∃ a, calls = [⟨.wait settings.ppsTimeout, .ok .dataReady⟩, ⟨.read, a⟩] ∧ afterRead s a = some r
  | .carried =>
    ∃ n rest, calls = ⟨.wait settings.ppsTimeout, .ok .dataReady⟩ :: ⟨.read, .ok n⟩ :: rest ∧ s.ignoreNext = false ∧
      Acting settings s n rest r

end Turn

section

variable {calls : List Call} {q : Except Error Readout} {p : Polarity} {o : ControlOutput} {b : Except Error Bool}
  {settings : Settings} {s : LoopState} {n : Int32} {r : Except Error (Turn × LoopState)} {i : ControlInput}
  {a : Except String ControlOutput} {c : Call}

theorem length_pos_of_reading (h : Reading calls q) : 0 < calls.length := by
  cases h <;> simp

theorem not_process_of_reading (h : Reading calls q) (i : ControlInput) (a : Except String ControlOutput) :
    (⟨.process i, a⟩ : Call) ∉ calls := by
  cases h <;> simp

theorem not_process_of_correcting (h : Correcting p o calls b) (i : ControlInput) (a : Except String ControlOutput) :
    (⟨.process i, a⟩ : Call) ∉ calls := by
  cases h <;> simp

/-- A turn asks its engine once. -/
theorem eq_of_process_mem {before more : List Call} {j : ControlInput} {b : Except String ControlOutput}
    (hb : (⟨.process j, b⟩ : Call) ∉ before) (hm : (⟨.process j, b⟩ : Call) ∉ more)
    (h : ⟨.process j, b⟩ ∈ before ++ ⟨.process i, a⟩ :: more) : j = i ∧ b = a := by
  rcases List.mem_append.mp h with h | h
  · exact absurd h hb
  rcases List.mem_cons.mp h with h | h
  · cases h
    exact ⟨rfl, rfl⟩
  · exact absurd h hm

/-- The engine is handed the sample and what was read in the same turn. -/
theorem handed_of_acting (h : Acting settings s n calls r) (hi : ⟨.process i, a⟩ ∈ calls) :
    Handed settings.polarity n calls i := by
  cases h with
  | unread h => exact absurd hi (not_process_of_reading h i a)
  | undecided h e hj =>
    obtain ⟨rfl, -⟩ := eq_of_process_mem (not_process_of_reading h i a) List.not_mem_nil hi
    exact hj.mono fun c hc => List.mem_append_left _ hc
  | failed h h' hj | acted h h' hj =>
    obtain ⟨rfl, -⟩ := eq_of_process_mem (not_process_of_reading h i a) (not_process_of_correcting h' i a) hi
    exact hj.mono fun c hc => List.mem_append_left _ hc

theorem inTurn_of_reading (h : Reading calls q) (hc : c ∈ calls) : c.ask.InTurn := by
  cases h <;> simp only [List.mem_cons, List.not_mem_nil, or_false] at hc <;>
    rcases hc with rfl | rfl | rfl | rfl <;> trivial

theorem inTurn_of_correcting (h : Correcting p o calls b) (hc : c ∈ calls) : c.ask.InTurn := by
  cases h <;> simp only [List.mem_cons, List.not_mem_nil, or_false] at hc <;>
    rcases hc with rfl | rfl | rfl <;> trivial

theorem inTurn_of_acting (h : Acting settings s n calls r) (hc : c ∈ calls) : c.ask.InTurn := by
  cases h with
  | unread h => exact inTurn_of_reading h hc
  | undecided h e =>
    rcases List.mem_append.mp hc with hc | hc
    · exact inTurn_of_reading h hc
    · rw [List.mem_singleton.mp hc]
      trivial
  | failed h h' | acted h h' =>
    rcases List.mem_append.mp hc with hc | hc
    · exact inTurn_of_reading h hc
    rcases List.mem_cons.mp hc with rfl | hc
    · trivial
    · exact inTurn_of_correcting h' hc

theorem length_pos_of_acting (h : Acting settings s n calls r) : 0 < calls.length := by
  cases h with
  | unread h => exact length_pos_of_reading h
  | _ => simp only [List.length_append, List.length_cons]; omega

end

namespace Turn

section

variable {settings : Settings} {s : LoopState} {calls : List Call} {r : Except Error (Turn × LoopState)}

theorem Form.unique {f g : Form} (hf : f.Fits settings s calls r) (hg : g.Fits settings s calls r) : f = g := by
  -- The forms differ in how many calls they have: one, two, or more.
  have h : ∀ f : Form, f.Fits settings s calls r →
      (f = .waited ∧ calls.length = 1) ∨ (f = .sampled ∧ calls.length = 2) ∨ (f = .carried ∧ 2 < calls.length) := by
    rintro (_ | _ | _) hf
    · obtain ⟨a, rfl, -⟩ := hf
      exact Or.inl ⟨rfl, rfl⟩
    · obtain ⟨a, rfl, -⟩ := hf
      exact Or.inr (Or.inl ⟨rfl, rfl⟩)
    · obtain ⟨n, rest, rfl, -, ha⟩ := hf
      have := length_pos_of_acting ha
      exact Or.inr (Or.inr ⟨rfl, by simp only [List.length_cons]; omega⟩)
  rcases h f hf with ⟨rfl, h1⟩ | ⟨rfl, h1⟩ | ⟨rfl, h1⟩ <;> rcases h g hg with ⟨rfl, h2⟩ | ⟨rfl, h2⟩ | ⟨rfl, h2⟩ <;>
    first | rfl | omega

theorem fits_of_path {m : Type → Type} (rig : Rig m) (h : (Turn.take rig.script settings s).run.Path calls r) :
    ∃ f : Form, f.Fits settings s calls r := by
  obtain ⟨a, calls, rfl, h⟩ := h
  cases a with
  | error e => obtain ⟨rfl, rfl⟩ := h; exact ⟨.waited, _, rfl, rfl⟩
  | ok event =>
  cases event with
  | timeout => obtain ⟨rfl, rfl⟩ := h; exact ⟨.waited, _, rfl, rfl⟩
  | interrupted => obtain ⟨rfl, rfl⟩ := h; exact ⟨.waited, _, rfl, rfl⟩
  | dataReady =>
  obtain ⟨a, calls, rfl, h⟩ := h
  cases a with
  | error e =>
    have h : (if e.isTransient then (do
          Journal.debug .loop ("Phase error not readable yet: " ++ e.message)
          return (.notReady, s))
        else throw (.io "reading phase error" e) : ExceptT Error Talk (Turn × LoopState)).run.Path calls r := h
    by_cases ht : e.isTransient = true
    · rw [if_pos ht] at h
      obtain ⟨rfl, rfl⟩ := h
      exact ⟨.sampled, _, rfl, if_pos (e.isTransient_iff.mp ht)⟩
    · rw [if_neg ht] at h
      obtain ⟨rfl, rfl⟩ := h
      exact ⟨.sampled, _, rfl, if_neg (mt e.isTransient_iff.mpr ht)⟩
  | ok n =>
    obtain ⟨turns, ignore, released⟩ := s
    cases ignore with
    | true => obtain ⟨rfl, rfl⟩ := h; exact ⟨.sampled, _, rfl, rfl⟩
    | false =>
      exact ⟨.carried, n, calls, rfl, rfl, acting_of_path rig (s := ⟨turns, false, released⟩) h⟩

/-- Any call but a wait and a read is made for a sample that is acted on. -/
theorem Form.acting_of_mem {f : Form} (hf : f.Fits settings s calls r) {c : Call} (hc : c ∈ calls)
    (hw : ∀ t, c.ask ≠ .wait t) (hr : c.ask ≠ .read) : ∃ n rest,
      calls = ⟨.wait settings.ppsTimeout, .ok .dataReady⟩ :: ⟨.read, .ok n⟩ :: rest ∧
        Acting settings s n rest r ∧ c ∈ rest := by
  cases f with
  | waited =>
    obtain ⟨a, rfl, -⟩ := hf
    cases List.mem_singleton.mp hc
    exact absurd rfl (hw _)
  | sampled =>
    obtain ⟨a, rfl, -⟩ := hf
    rcases List.mem_cons.mp hc with rfl | hc
    · exact absurd rfl (hw _)
    · cases List.mem_singleton.mp hc
      exact absurd rfl hr
  | carried =>
    obtain ⟨n, rest, rfl, -, ha⟩ := hf
    rcases List.mem_cons.mp hc with rfl | hc
    · exact absurd rfl (hw _)
    rcases List.mem_cons.mp hc with rfl | hc
    · exact absurd rfl hr
    exact ⟨n, rest, rfl, ha, hc⟩

/-- A turn neither moves the bounds of the oscillator nor gives a handle back. -/
theorem inTurn_of_path {m : Type → Type} (rig : Rig m) (h : (Turn.take rig.script settings s).run.Path calls r)
    {c : Call} (hc : c ∈ calls) : c.ask.InTurn := by
  obtain ⟨f, hf⟩ := fits_of_path rig h
  by_cases hw : (∃ t, c.ask = .wait t) ∨ c.ask = .read
  · rcases hw with ⟨t, hw⟩ | hw <;> rw [hw] <;> trivial
  · obtain ⟨n, rest, -, ha, hc⟩ := Form.acting_of_mem hf hc (fun t h => hw (Or.inl ⟨t, h⟩)) fun h => hw (Or.inr h)
    exact inTurn_of_acting ha hc

theorem fits_of_ok {W : Type} [Journal (Act W)] (rig : Rig (Act W)) {w v : W}
    (h : (Turn.take rig settings s).run w = .ok r v) :
    ∃ f : Form, f.Fits settings s (callsMade rig settings s w) r := by
  rw [← performs_take rig settings s] at h
  rw [callsMade_eq]
  exact fits_of_path rig (Talk.path_of_ok rig h)

/-- One form fits, and no other. -/
def HasOneForm (settings : Settings) (s : LoopState) (calls : List Call) (r : Except Error (Turn × LoopState)) : Prop :=
  ∃ f : Form, f.Fits settings s calls r ∧ ∀ g : Form, g.Fits settings s calls r → g = f

theorem hasOneForm_of_path {m : Type → Type} (rig : Rig m) (h : (Turn.take rig.script settings s).run.Path calls r) :
    HasOneForm settings s calls r := by
  obtain ⟨f, hf⟩ := fits_of_path rig h
  exact ⟨f, hf, fun _ hg => Form.unique hg hf⟩

end

/-- Whatever the collaborators do, the calls of a turn have exactly one form, its answer is the one that they lead
    to, and its engine is handed what was read in it. If a collaborator halts, the calls before it begin such a form. -/
theorem calls_fit_one_form {W : Type} [Journal (Act W)] (rig : Rig (Act W)) (settings : Settings) (s : LoopState)
    (w : W) :
    match (Turn.take rig.logged settings s).run ⟨w, []⟩ with
    | .ok r l => (Turn.take rig settings s).run w = .ok r l.world ∧ HasOneForm settings s l.calls r
    | .error e l =>
      (Turn.take rig settings s).run w = .error e l.world ∧ ∃ more r, HasOneForm settings s (l.calls ++ more) r := by
  have ht : (Turn.take rig.script settings s).run.perform rig = (Turn.take rig settings s).run :=
    performs_take rig settings s
  rw [take_logged]
  cases hr : (Turn.take rig settings s).run w with
  | ok r v =>
    rw [← ht] at hr
    exact ⟨rfl, hasOneForm_of_path rig (Talk.path_of_ok rig hr)⟩
  | error e v =>
    rw [← ht] at hr
    obtain ⟨more, r, h⟩ := Talk.path_of_halt rig hr
    exact ⟨rfl, more, r, hasOneForm_of_path rig h⟩

/-- Every part plays back what a stage holds for it. -/
def rehearsedRig : Rig (Act Rehearsal.Stage) where
  pps := Rehearsal.Script.source "pps" Rehearsal.Stage.scriptSlot.cell Rehearsal.Stage.raise
  oscillator := Rehearsal.Understudy.oscillator "understudy" Rehearsal.Stage.understudySlot.cell
  receiver := Rehearsal.playedReceiver (-7) Rehearsal.Stage.fixesSlot.cell
  engine := Rehearsal.playedEngine 0 65535 none Rehearsal.Stage.outputsSlot.cell

def oppositeSettings : Settings := { Settings.standard with polarity := .opposite }

/-- The least sample, with something to read from every part, and a device that refuses to be shifted. -/
def leastSample : Rehearsal.Stage :=
  { Rehearsal.Stage.empty with
    script := ⟨[.sample Int32.minValue], none, [some (.kind .invalidInput)]⟩
    understudy := ⟨[.ok ⟨1200, 9, true⟩], [.ok (some 41)], [], []⟩
    fixes := [.ok .valid]
    outputs := [.ok ⟨.phaseJump, 1300, 2147483647⟩] }

/-- The opposite of the least sample takes more than 32 bits, and the engine is handed all of it beside what was
    read. The device refuses the shift, which is the last call and the answer. -/
theorem calls_for_the_least_sample :
    HasOneForm oppositeSettings (.start 3) [
      ⟨.wait (.ofSecs 4), .ok .dataReady⟩, ⟨.read, .ok (-2147483648)⟩, ⟨.temperature, .ok (some 41)⟩,
      ⟨.poll, .ok .valid⟩, ⟨.qerr, -7⟩, ⟨.controls, .ok ⟨1200, 9, true⟩⟩,
      ⟨.process ⟨⟨2, 147483648⟩, true, true, 41, -7, 1200, 9⟩, .ok ⟨.phaseJump, 1300, 2147483647⟩⟩,
      ⟨.shift (-2147483647), .error (.kind .invalidInput)⟩]
      (.error (.io "apply phase offset" (.kind .invalidInput))) :=
  (calls_fit_one_form rehearsedRig oppositeSettings (.start 3) leastSample).2

end Turn

end ClockDiscipline
