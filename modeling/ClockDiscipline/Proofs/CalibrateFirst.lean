/-
  ClockDiscipline.Proofs.CalibrateFirst — when the built-in engine calibrates.

  The engine can be configured to calibrate before it does anything else. The calibration
  is due until results were submitted, whether or not they were of use, and while it is
  due a valid fix leads to nothing else. Results are submitted once: nothing makes a
  calibration due again.

  Invariant: a calibration is due exactly if one was configured and no turn polled a valid
  fix yet, as long as no turn fails.

  Proved: (1) an engine is set as its configuration says, and what is due at first is
  (`configured_of_ofConfig`), and it begins without a past (`start_of_ofConfig`); (2) what turns do to what is due (`pending_of_linked`), and
  that none is made up (`countP_calibrated_le`); (3) a calibration that fails leaves the
  engine as it was (`failure_of_acting`); (4) over every row of turns, with whatever
  collaborators, the engine calibrates at the first valid fix if it is to, and never else
  (`calibrates_at_the_first_valid_fix`).
-/

import ClockDiscipline.Number.Exact
import ClockDiscipline.Proofs.PidTurn
import ClockDiscipline.Rehearsal.Stage

namespace ClockDiscipline

/-! ## (1) The configuration -/

theorem bind_eq_ok {ε α β : Type} {x : Except ε α} {f : α → Except ε β} {b : β} :
    (x >>= f) = .ok b ↔ ∃ a, x = .ok a ∧ f a = .ok b := by
  cases x with
  | error e =>
    refine iff_of_false (fun h => ?_) fun h => ?_
    · cases h
    · obtain ⟨a, h, -⟩ := h
      cases h
  | ok a =>
    constructor
    · intro h
      exact ⟨a, rfl, h⟩
    · rintro ⟨b, hb, h⟩
      cases hb
      exact h

/-- What the settings of an engine are, as a configuration says it. -/
structure Pid.Configured {R : Type} [Numeral R] (c : Config) (e : Pid R) : Prop where
  dacMin : c.valueD "dac-min" (0 : UInt32) = .ok e.tuning.range.min
  dacMax : c.valueD "dac-max" (65535 : UInt32) = .ok e.tuning.range.max
  points : (c.list? UInt32 "calibration-points").map (·.getD (quartiles e.tuning.range)) = .ok e.tuning.points
  gain : c.valueD "ns-per-step" ((Scalar.ofInt 1 : R) / Scalar.ofInt 10) = .ok e.gain
  usable : Scalar.isNormal e.gain = true
  kp : c.valueD "kp" ((Scalar.ofInt 1 : R) / Scalar.ofInt 10) = .ok e.tuning.kp
  ki : c.valueD "ki" ((Scalar.ofInt 1 : R) / Scalar.ofInt 100) = .ok e.tuning.ki
  maxIntegral : c.valueD "max-integral" (Scalar.ofInt 1000000 : R) = .ok e.tuning.maxIntegral
  jumpThreshold : c.valueD "phase-jump-threshold-ns" (1000 : Int64) = .ok e.tuning.jumpThreshold
  samples : c.valueD "calibration-samples" (4 : UInt32) = .ok e.tuning.samples
  pending : c.valueD "calibrate-first" false = .ok e.pending

theorem Pid.configured_of_ofConfig {R : Type} [Numeral R] {c : Config} {e : Pid R} (h : Pid.ofConfig R c = .ok e) :
    Configured c e := by
  unfold Pid.ofConfig at h
  obtain ⟨dacMin, hmin, h⟩ := bind_eq_ok.mp h
  obtain ⟨dacMax, hmax, h⟩ := bind_eq_ok.mp h
  split at h
  · obtain ⟨points, hpoints, h⟩ := bind_eq_ok.mp h
    obtain ⟨gain, hgain, h⟩ := bind_eq_ok.mp h
    split at h
    · obtain ⟨kp, hkp, h⟩ := bind_eq_ok.mp h
      obtain ⟨ki, hki, h⟩ := bind_eq_ok.mp h
      obtain ⟨maxIntegral, hmaxIntegral, h⟩ := bind_eq_ok.mp h
      obtain ⟨threshold, hthreshold, h⟩ := bind_eq_ok.mp h
      obtain ⟨samples, hsamples, h⟩ := bind_eq_ok.mp h
      obtain ⟨pending, hpending, h⟩ := bind_eq_ok.mp h
      cases h
      exact ⟨hmin, hmax, by rw [hpoints]; rfl, hgain, ‹_›, hkp, hki, hmaxIntegral, hthreshold, hsamples, hpending⟩
    · cases h
  · cases h

/-- An engine begins without a past. -/
theorem Pid.start_of_ofConfig {R : Type} [Numeral R] {c : Config} {e : Pid R} (h : Pid.ofConfig R c = .ok e) :
    e.center = none ∧ e.integral = Scalar.ofInt 0 ∧ e.window = .zero := by
  unfold Pid.ofConfig at h
  obtain ⟨_, -, h⟩ := bind_eq_ok.mp h
  obtain ⟨_, -, h⟩ := bind_eq_ok.mp h
  split at h
  · obtain ⟨_, -, h⟩ := bind_eq_ok.mp h
    obtain ⟨_, -, h⟩ := bind_eq_ok.mp h
    split at h
    · iterate 6 obtain ⟨_, -, h⟩ := bind_eq_ok.mp h
      cases h
      exact ⟨rfl, rfl, rfl⟩
    · cases h
  · cases h

/-! ## (2) What is due -/

namespace Turn.Record

def failed (q : Record) : Bool :=
  match q.answer with
  | .error _ => true
  | .ok _ => false

/-- Whether a calibration was carried out. -/
def calibrated (q : Record) : Bool :=
  match q.answer with
  | .ok (.acted .calibrate) => true
  | _ => false

/-- Whether the phase was shifted or the fine control adjusted. -/
def corrected (q : Record) : Bool :=
  match q.answer with
  | .ok (.acted .phaseJump) | .ok (.acted .adjustFine) => true
  | _ => false

theorem calibrated_iff {q : Record} : q.calibrated = true ↔ q.answer = .ok (.acted .calibrate) := by
  unfold calibrated
  split <;> simp_all

end Turn.Record

namespace Pid

section

variable {R : Type} {e e' : Pid R} {q : Turn.Record} {rs : List Turn.Record}

theorem pending_of_turned (h : Turned e q e') (hq : q.failed = false) :
    e'.pending = true ↔ e.pending = true ∧ ¬q.Trusted := by
  cases h with
  | held hv ha => simp [hv]
  | calibrated hv hp hp' ha => simp [hv, hp']
  | uncalibrated hv hp ha => simp [Turn.Record.failed, ha] at hq
  | steered hv hp hp' ha => simp [hp, hp']

/-- A calibration is carried out where one is due and a valid fix is polled. -/
theorem calibrated_of_turned (h : Turned e q e') (hq : q.failed = false) :
    q.calibrated = true ↔ e.pending = true ∧ q.Trusted := by
  rw [Turn.Record.calibrated_iff]
  cases h with
  | held hv ha =>
    refine iff_of_false (fun h => ?_) fun h => hv h.2
    cases ha _ h
  | calibrated hv hp hp' ha => exact iff_of_true ha ⟨hp, hv⟩
  | uncalibrated hv hp ha => simp [Turn.Record.failed, ha] at hq
  | steered hv hp hp' ha =>
    refine iff_of_false (fun h => ?_) fun h => by simp [hp] at h
    rcases ha _ h with h | h <;> cases h

/-- The phase is shifted or the control adjusted only where no calibration is due. -/
theorem settled_of_corrected (h : Turned e q e') (hc : q.corrected = true) : e.pending = false := by
  cases h with
  | held hv ha =>
    unfold Turn.Record.corrected at hc
    split at hc
    · rename_i hq
      cases ha _ hq
    · rename_i hq
      cases ha _ hq
    · cases hc
  | calibrated hv hp hp' ha => simp [Turn.Record.corrected, ha] at hc
  | uncalibrated hv hp ha => simp [Turn.Record.corrected, ha] at hc
  | steered hv hp hp' ha => exact hp

theorem pending_of_linked (h : Linked Turned e rs e') (hq : ∀ q ∈ rs, q.failed = false) :
    e'.pending = true ↔ e.pending = true ∧ ∀ q ∈ rs, ¬q.Trusted := by
  induction h with
  | nil e => simp
  | @cons e e₁ e' q rs h h' ih =>
    rw [ih fun p hp => hq p (List.mem_cons_of_mem q hp), pending_of_turned h (hq q List.mem_cons_self),
      List.forall_mem_cons, and_assoc]

/-- What was due and is not any more was carried out. -/
theorem calibrated_of_linked (h : Linked Turned e rs e') (hq : ∀ q ∈ rs, q.failed = false) (hp : e.pending = true)
    (hp' : e'.pending = false) : ∃ q ∈ rs, q.calibrated = true := by
  induction h with
  | nil e => rw [hp] at hp'; cases hp'
  | @cons e e₁ e' q rs h h' ih =>
    by_cases hv : q.Trusted
    · exact ⟨q, List.mem_cons_self, (calibrated_of_turned h (hq q List.mem_cons_self)).mpr ⟨hp, hv⟩⟩
    · have hp₁ : e₁.pending = true := (pending_of_turned h (hq q List.mem_cons_self)).mpr ⟨hp, hv⟩
      obtain ⟨p, hp, hc⟩ := ih (fun p hp => hq p (List.mem_cons_of_mem q hp)) hp₁ hp'
      exact ⟨p, List.mem_cons_of_mem q hp, hc⟩

/-- At most what is due is carried out. -/
theorem countP_calibrated_le (h : Linked Turned e rs e') (hq : ∀ q ∈ rs, q.failed = false) :
    rs.countP Turn.Record.calibrated ≤ e.pending.toNat := by
  induction h with
  | nil e => simp
  | @cons e e₁ e' q rs h h' ih =>
    have ih := ih fun p hp => hq p (List.mem_cons_of_mem q hp)
    have hp := pending_of_turned h (hq q List.mem_cons_self)
    rw [List.countP_cons]
    by_cases hc : q.calibrated = true
    · obtain ⟨hd, hv⟩ := (calibrated_of_turned h (hq q List.mem_cons_self)).mp hc
      have hp₁ : e₁.pending = false := by simpa [hv] using hp
      rw [hp₁] at ih
      rw [if_pos hc, hd]
      simpa using ih
    · have hle : e₁.pending.toNat ≤ e.pending.toNat := by
        cases h₁ : e₁.pending with
        | false => simp
        | true => simp [(hp.mp h₁).1]
      rw [if_neg hc]
      omega

/-! ## (3) A calibration that fails -/

variable {settings : Settings} {s : LoopState} {n : Int32} {calls more : List Call} {i : ControlInput}
  {o : ControlOutput} {p : Polarity} {x : Error}

/-- Either half of a calibration can be missing. -/
def Missing (p : Polarity) (calls : List Call) : Prop :=
  ⟨.plan, none⟩ ∈ calls ∨ ∃ plan, ⟨.calibrate plan p, none⟩ ∈ calls

theorem missing_of_correcting (h : Correcting p o more (.error x)) (ho : o.action = .calibrate) : Missing p more := by
  cases h with
  | jumpFails hj => rw [hj] at ho; cases ho
  | planMissing => exact Or.inl List.mem_cons_self
  | resultsMissing _ plan => exact Or.inr ⟨plan, List.mem_cons_of_mem _ List.mem_cons_self⟩
  | applyFails _ hc => exact absurd ho hc

end

section

variable {R : Type} [Scalar R] {e e' : Pid R} {settings : Settings} {s : LoopState} {n : Int32} {calls : List Call}
  {i : ControlInput} {o : ControlOutput} {x : Error}

theorem pending_of_process {a : Except String ControlOutput} (h : e.process i = some (a, e')) (ha : a = .ok o)
    (ho : o.action = .calibrate) : e.pending = true ∧ e' = e := by
  rcases process_cases h with ⟨-, hh, -⟩ | ⟨-, hp, -, he⟩ | ⟨-, -, -, hs⟩
  · rw [ha] at hh
    cases hh
    cases ho
  · exact ⟨hp, he⟩
  · rcases hs o ha with hs | hs <;> rw [ho] at hs <;> cases hs

theorem failure_of_acting (h : Acting settings s n calls (.error x)) (hl : Linked Does e calls e')
    (hi : ⟨.process i, .ok o⟩ ∈ calls) (ho : o.action = .calibrate) :
    e' = e ∧ e.pending = true ∧ Missing settings.polarity calls := by
  cases h with
  | unread h => exact absurd hi (not_process_of_reading h _ _)
  | undecided h y => cases (eq_of_process_mem (not_process_of_reading h _ _) List.not_mem_nil hi).2
  | failed h h' =>
    obtain ⟨rfl, ha⟩ := eq_of_process_mem (not_process_of_reading h _ _) (not_process_of_correcting h' _ _) hi
    cases ha
    obtain ⟨e₁, hp, he⟩ := process_of_linked h hl
    obtain ⟨hd, rfl⟩ := pending_of_process hp rfl ho
    refine ⟨eq_of_failed h' he, hd, ?_⟩
    rcases missing_of_correcting h' ho with hm | ⟨plan, hm⟩
    · exact Or.inl (List.mem_append_right _ (List.mem_cons_of_mem _ hm))
    · exact Or.inr ⟨plan, List.mem_append_right _ (List.mem_cons_of_mem _ hm)⟩

end

/-! ## (4) Rows of turns -/

/-- When a row of turns calibrates, by whether the engine is to calibrate first. -/
structure CalibratesFirst (first : Bool) (rs : List Turn.Record) : Prop where
  at_most_once : rs.countP Turn.Record.calibrated ≤ 1
  /-- It does at the first valid fix, if it is to at all, whatever the phase error. -/
  calibrated_iff : ∀ before q after, rs = before ++ q :: after →
    (q.calibrated = true ↔ first = true ∧ q.Trusted ∧ ∀ p ∈ before, ¬p.Trusted)
  /-- Nothing is corrected before it. -/
  calibrated_of_corrected : first = true → ∀ before q after, rs = before ++ q :: after → q.corrected = true →
    ∃ p ∈ before, p.calibrated = true

theorem calibratesFirst_of_linked {R : Type} {e e' : Pid R} {rs : List Turn.Record} (h : Linked Turned e rs e')
    (hq : ∀ q ∈ rs, q.failed = false) : CalibratesFirst e.pending rs where
  at_most_once := by
    have hc := countP_calibrated_le h hq
    have hp : e.pending.toNat ≤ 1 := Bool.toNat_le e.pending
    omega
  calibrated_iff before q after hrs := by
    subst hrs
    obtain ⟨e₁, h1, h2⟩ := linked_append.mp h
    obtain ⟨e₂, h2, -⟩ := linked_cons.mp h2
    have hb : ∀ p ∈ before, p.failed = false := fun p hp => hq p (List.mem_append_left _ hp)
    have hf : q.failed = false := hq q (List.mem_append_right _ List.mem_cons_self)
    rw [calibrated_of_turned h2 hf, pending_of_linked h1 hb, and_assoc]
    exact and_congr_right fun _ => and_comm
  calibrated_of_corrected hfirst before q after hrs hc := by
    subst hrs
    obtain ⟨e₁, h1, h2⟩ := linked_append.mp h
    obtain ⟨e₂, h2, -⟩ := linked_cons.mp h2
    have hb : ∀ p ∈ before, p.failed = false := fun p hp => hq p (List.mem_append_left _ hp)
    exact calibrated_of_linked h1 hb hfirst (settled_of_corrected h2 hc)

section

variable {V R : Type} [Journal (Act V)] [Numeral R] {range : DacRange} {pps : EdgeSource (Act V)}
  {oscillator : Oscillator (Act V)} {receiver : Receiver (Act V)} {settings : Settings} {s : LoopState}

theorem failure_of_take {w v : Beside (Pid R) V} {x : Error} {i : ControlInput} {o : ControlOutput}
    (h : (Turn.take (rig range pps oscillator receiver) settings s).run w = .ok (.error x) v)
    (hi : ⟨.process i, .ok o⟩ ∈ Turn.callsMade (rig range pps oscillator receiver) settings s w)
    (ho : o.action = .calibrate) : v.own = w.own ∧ w.own.pending = true ∧
      Missing settings.polarity (Turn.callsMade (rig range pps oscillator receiver) settings s w) := by
  have hl := linked_of_take h
  obtain ⟨f, hf⟩ := Turn.fits_of_ok _ h
  obtain ⟨n, rest, hc, ha, hi⟩ := Turn.Form.acting_of_mem hf hi (fun _ h => by cases h) (fun h => by cases h)
  rw [hc] at hl ⊢
  obtain ⟨e₁, h1, hl⟩ := linked_cons.mp hl
  obtain ⟨e₂, h2, hl⟩ := linked_cons.mp hl
  have h1 : e₁ = w.own := h1
  have h2 : e₂ = e₁ := h2
  rw [h2, h1] at hl
  obtain ⟨he, hp, hm⟩ := failure_of_acting ha hl hi ho
  refine ⟨he, hp, ?_⟩
  rcases hm with hm | ⟨plan, hm⟩
  · exact Or.inl (List.mem_cons_of_mem _ (List.mem_cons_of_mem _ hm))
  · exact Or.inr ⟨plan, List.mem_cons_of_mem _ (List.mem_cons_of_mem _ hm)⟩

/-- Whatever the collaborators are, an engine that is to calibrate first does so at the first valid fix, before it
    corrects anything, and not again; one that is not never does. A calibration that fails is as due as before. -/
theorem calibrates_at_the_first_valid_fix {c : Config} {e : Pid R} (he : ofConfig R c = .ok e)
    (pps : EdgeSource (Act V)) (oscillator : Oscillator (Act V)) (receiver : Receiver (Act V)) (settings : Settings) :
    let rig := rig e.tuning.range pps oscillator receiver
    c.valueD "calibrate-first" false = .ok e.pending ∧
      (∀ n s v, (∀ q ∈ Turn.records rig settings n s ⟨e, v⟩, q.failed = false) →
        CalibratesFirst e.pending (Turn.records rig settings n s ⟨e, v⟩)) ∧
      ∀ s w v x i o, (Turn.take rig settings s).run w = .ok (.error x) v →
        ⟨.process i, .ok o⟩ ∈ Turn.callsMade rig settings s w → o.action = .calibrate →
        v.own = w.own ∧ (∀ j, j.valid = true → v.own.process j = some (.ok ⟨.calibrate, j.fine, 0⟩, v.own)) ∧
          Missing settings.polarity (Turn.callsMade rig settings s w) := by
  intro rig
  refine ⟨(configured_of_ofConfig he).pending, fun n s v hq => ?_, fun s w v x i o h hi ho => ?_⟩
  · obtain ⟨u, hu⟩ := Turn.linked_records Beside.own (fun s w v r h => turned_of_take h) n s ⟨e, v⟩
    exact calibratesFirst_of_linked hu hq
  · obtain ⟨hv, hp, hm⟩ := failure_of_take h hi ho
    rw [hv]
    exact ⟨rfl, fun j hj => process_of_pending hp hj, hm⟩

end

/-- The built-in settings with a calibration first. -/
def firstConfig : Config := ⟨"", [("calibrate-first", "true")]⟩

def firstPid : Pid Rat :=
  ⟨⟨⟨0, 65535, by decide⟩, Scalar.ofInt 1 / Scalar.ofInt 10, Scalar.ofInt 1 / Scalar.ofInt 100, Scalar.ofInt 1000000, 1000,
    [16383, 32767, 49149], 4⟩, Scalar.ofInt 1 / Scalar.ofInt 10, none, Scalar.ofInt 0, .zero, true⟩

theorem ofConfig_first : ofConfig Rat firstConfig = .ok firstPid := by
  have hg : Scalar.isNormal ((Scalar.ofInt 1 : Rat) / Scalar.ofInt 10) = true := by decide +kernel
  have h : ofConfig Rat firstConfig =
      if Scalar.isNormal ((Scalar.ofInt 1 : Rat) / Scalar.ofInt 10) then .ok firstPid
      else .error (.invalidValue "ns-per-step" (Numeral.text ((Scalar.ofInt 1 : Rat) / Scalar.ofInt 10))) := rfl
  rw [h, if_pos hg]

/-- Three samples to come, with these fixes and results. -/
def threeSamples (fixes : List (Except String Fix)) (calibrations : List (Option Calibration.Results)) :
    Rehearsal.Stage :=
  { Rehearsal.Stage.empty with
    script := ⟨[.sample 100, .sample 100, .sample 100], none, []⟩
    understudy := ⟨[], [], [], calibrations⟩
    fixes }

def stagedRig : Rig (Act (Beside (Pid Rat) Rehearsal.Stage)) :=
  rig firstPid.tuning.range (Rehearsal.Script.source "pps" Rehearsal.Stage.scriptSlot.cell Rehearsal.Stage.raise)
    (Rehearsal.Understudy.oscillator "understudy" Rehearsal.Stage.understudySlot.cell)
    (Rehearsal.playedReceiver 0 Rehearsal.Stage.fixesSlot.cell)

/-- A turn without a fix, the calibration, and an adjustment; with results missing, nothing but the failure. -/
theorem staged_engine_calibrates_first :
    let rs := Turn.records stagedRig .standard 3 (.start 0) ⟨firstPid, threeSamples [.ok .waiting] []⟩
    let w : Beside (Pid Rat) Rehearsal.Stage := ⟨firstPid, threeSamples [] [none]⟩
    rs.map Turn.Record.answer = [.ok (.acted .none), .ok (.acted .calibrate), .ok (.acted .adjustFine)] ∧
      CalibratesFirst true rs ∧
      ∃ x v, (Turn.take stagedRig .standard (.start 0)).run w = .ok (.error x) v ∧ v.own = firstPid ∧
        Missing .normal (Turn.callsMade stagedRig .standard (.start 0) w) := by
  intro rs w
  obtain ⟨-, hrow, hfail⟩ := calibrates_at_the_first_valid_fix ofConfig_first
    (Rehearsal.Script.source "pps" Rehearsal.Stage.scriptSlot.cell Rehearsal.Stage.raise)
    (Rehearsal.Understudy.oscillator "understudy" Rehearsal.Stage.understudySlot.cell)
    (Rehearsal.playedReceiver 0 Rehearsal.Stage.fixesSlot.cell) .standard
  have ha : rs.map Turn.Record.answer = [.ok (.acted .none), .ok (.acted .calibrate), .ok (.acted .adjustFine)] := rfl
  refine ⟨ha, hrow 3 (.start 0) (threeSamples [.ok .waiting] []) fun q hq => ?_, ?_⟩
  · have hf : rs.map Turn.Record.failed = [false, false, false] := rfl
    have hm : q.failed ∈ rs.map Turn.Record.failed := List.mem_map_of_mem hq
    rw [hf] at hm
    simpa using hm
  · have hp : ⟨.process (.build 100 .normal ⟨⟨1000, 10, true⟩, 0, true, 0⟩), .ok ⟨.calibrate, 1000, 0⟩⟩ ∈
        Turn.callsMade stagedRig .standard (.start 0) w := by
      have hc : Turn.callsMade stagedRig .standard (.start 0) w = [
        ⟨.wait Settings.standard.ppsTimeout, .ok .dataReady⟩, ⟨.read, .ok 100⟩, ⟨.temperature, .ok none⟩,
        ⟨.poll, .ok .valid⟩, ⟨.qerr, 0⟩, ⟨.controls, .ok ⟨1000, 10, true⟩⟩,
        ⟨.process (.build 100 .normal ⟨⟨1000, 10, true⟩, 0, true, 0⟩), .ok ⟨.calibrate, 1000, 0⟩⟩,
        ⟨.plan, some ⟨[16383, 32767, 49149], 4⟩⟩, ⟨.calibrate ⟨[16383, 32767, 49149], 4⟩ .normal, none⟩] := rfl
      rw [hc]
      simp
    obtain ⟨hv, -, hm⟩ := hfail (.start 0) w _ _ _ _ rfl hp rfl
    exact ⟨_, _, rfl, hv, hm⟩

end Pid

end ClockDiscipline
