/-
  ClockDiscipline.Proofs.PidTurn — what a turn does to the built-in engine.

  The engine keeps its state beside a PPS source, an oscillator and a receiver that may
  be anything. Three calls of a turn are made to it, and no other moves it. A turn whose
  receiver has no valid fix asks it for nothing but to hold.

  Proved: (1) each call does to the engine what its answer says (`does_of_answer`);
  (2) what a turn does to it, by whether a valid fix was polled and whether a
  calibration was pending (`turned_of_take`).
-/

import ClockDiscipline.Proofs.Beside
import ClockDiscipline.Proofs.Linked
import ClockDiscipline.Proofs.PidAnswers

namespace ClockDiscipline

namespace Pid

/-! ## (1) Calls -/

/-- What a call and its answer say about the engine before and after. -/
def Does {R : Type} [Scalar R] (e : Pid R) (c : Call) (e' : Pid R) : Prop :=
  match c with
  | ⟨.process i, a⟩ => e.process i = some (a, e')
  | ⟨.plan, a⟩ => a = e.plan ∧ e' = e
  | ⟨.submit p r, _⟩ => ∃ a, e.submit p r = some (a, e')
  | _ => e' = e

section

variable {V R : Type} [Journal (Act V)] [Numeral R]

/-- The engine beside its collaborators. -/
def rig (range : DacRange) (pps : EdgeSource (Act V)) (oscillator : Oscillator (Act V)) (receiver : Receiver (Act V)) :
    Rig (Act (Beside (Pid R) V)) where
  pps := pps.mapped Beside.aside
  oscillator := oscillator.aside
  receiver := receiver.mapped Beside.aside
  engine := engine range Beside.slot.cell

theorem does_of_answer (range : DacRange) (pps : EdgeSource (Act V)) (oscillator : Oscillator (Act V))
    (receiver : Receiver (Act V)) (c : Ask) (a : c.Answer) (w v : Beside (Pid R) V)
    (h : (rig range pps oscillator receiver).answer c w = .ok a v) : Does w.own ⟨c, a⟩ v.own := by
  cases c with
  | process i =>
    obtain ⟨e, hp, rfl⟩ := process_of_engine h
    exact hp
  | plan =>
    cases h
    exact ⟨rfl, rfl⟩
  | submit p r =>
    obtain ⟨adoption, e, hp, x, hx⟩ := submit_of_engine h
    have hv : v.own = e := Beside.own_of_note hx
    rw [hv]
    exact ⟨adoption, hp⟩
  | releaseEngine =>
    cases h
    rfl
  | _ => exact Beside.own_of_aside h

end

/-! ## (2) Turns -/

end Pid

/-- Whether the receiver had a valid fix. -/
def Turn.Record.Trusted (q : Turn.Record) : Prop := ⟨.poll, .ok .valid⟩ ∈ q.calls

namespace Pid

/-- What a turn does to the engine. -/
inductive Turned {R : Type} (e : Pid R) (q : Turn.Record) : Pid R → Prop where
  /-- Without a valid fix nothing is asked of the oscillator but to hold. -/
  | held (hv : ¬q.Trusted) (ha : ∀ a, q.answer = .ok (.acted a) → a = .none) : Turned e q e
  /-- A calibration that is due is the only thing done, and settles it. -/
  | calibrated {e' : Pid R} (hv : q.Trusted) (hp : e.pending = true) (hp' : e'.pending = false)
      (ha : q.answer = .ok (.acted .calibrate)) : Turned e q e'
  /-- Where it fails, or the turn before it, it is still due. -/
  | uncalibrated (hv : q.Trusted) (hp : e.pending = true) {x : Error} (ha : q.answer = .error x) : Turned e q e
  /-- With none due the sample is jumped over or adjusted to. -/
  | steered {e' : Pid R} (hv : q.Trusted) (hp : e.pending = false) (hp' : e'.pending = false)
      (ha : ∀ a, q.answer = .ok (.acted a) → a = .phaseJump ∨ a = .adjustFine) : Turned e q e'

section

variable {R : Type} [Scalar R] {e e' : Pid R} {calls more : List Call} {p : Polarity} {o : ControlOutput}
  {b : Except Error Bool}

theorem eq_of_reading {r : Except Error Readout} (h : Reading calls r) (hl : Linked Does e calls e') : e' = e := by
  refine eq_of_linked hl fun c hc s t hs => ?_
  cases h <;> simp only [List.mem_cons, List.not_mem_nil, or_false] at hc <;>
    rcases hc with rfl | rfl | rfl | rfl <;> exact hs

/-- Up to the decision nothing moves the engine. -/
theorem process_of_linked {reads : List Call} {q : Readout} {i : ControlInput} {a : Except String ControlOutput}
    (h : Reading reads (.ok q)) (hl : Linked Does e (reads ++ ⟨.process i, a⟩ :: more) e') :
    ∃ e₁, e.process i = some (a, e₁) ∧ Linked Does e₁ more e' := by
  obtain ⟨e₁, h1, h2⟩ := linked_append.mp hl
  obtain rfl := eq_of_reading h h1
  exact linked_cons.mp h2

/-- After it only a calibration that is carried out does. -/
theorem linked_correcting (h : Correcting p o more b) (hl : Linked Does e more e') :
    (e' = e ∧ ∀ ignore, b = .ok ignore → o.action ≠ .calibrate) ∨
      (o.action = .calibrate ∧ b = .ok false ∧ e'.pending = false) := by
  cases h with
  | jumpFails | applyFails =>
    simp only [linked_cons, linked_nil, Does] at hl
    obtain ⟨_, rfl, rfl⟩ := hl
    exact Or.inl ⟨rfl, fun _ hb => by cases hb⟩
  | jumps ho =>
    simp only [linked_cons, linked_nil, Does] at hl
    obtain ⟨_, rfl, rfl⟩ := hl
    exact Or.inl ⟨rfl, fun _ _ hc => by rw [ho] at hc; cases hc⟩
  | applies _ ho =>
    simp only [linked_cons, linked_nil, Does] at hl
    obtain ⟨_, rfl, rfl⟩ := hl
    exact Or.inl ⟨rfl, fun _ _ => ho⟩
  | planMissing =>
    simp only [linked_cons, linked_nil, Does] at hl
    obtain ⟨_, ⟨-, rfl⟩, rfl⟩ := hl
    exact Or.inl ⟨rfl, fun _ hb => by cases hb⟩
  | resultsMissing =>
    simp only [linked_cons, linked_nil, Does] at hl
    obtain ⟨_, ⟨-, rfl⟩, _, rfl, rfl⟩ := hl
    exact Or.inl ⟨rfl, fun _ hb => by cases hb⟩
  | calibrates ho plan results =>
    simp only [linked_cons, linked_nil, Does] at hl
    obtain ⟨_, ⟨-, rfl⟩, _, rfl, _, ⟨a, hs⟩, rfl⟩ := hl
    exact Or.inr ⟨ho, rfl, pending_of_submit hs⟩

theorem eq_of_failed {x : Error} (h : Correcting p o more (.error x)) (hl : Linked Does e more e') : e' = e := by
  rcases linked_correcting h hl with ⟨he, -⟩ | ⟨-, hb, -⟩
  · exact he
  · cases hb

theorem eq_of_other (h : Correcting p o more b) (hl : Linked Does e more e') (ho : o.action ≠ .calibrate) : e' = e := by
  rcases linked_correcting h hl with ⟨he, -⟩ | ⟨hc, -, -⟩
  · exact he
  · exact absurd hc ho

theorem pending_of_calibration {ignore : Bool} (h : Correcting p o more (.ok ignore)) (hl : Linked Does e more e')
    (ho : o.action = .calibrate) : e'.pending = false := by
  rcases linked_correcting h hl with ⟨-, hc⟩ | ⟨-, -, hp⟩
  · exact absurd ho (hc ignore rfl)
  · exact hp

theorem not_poll_of_correcting (h : Correcting p o calls b) (a : Except String Fix) : (⟨.poll, a⟩ : Call) ∉ calls := by
  cases h <;> simp

/-- The fix is polled while oscillator and receiver are read, and not again. -/
theorem trusted_iff {reads : List Call} {q : Readout} (h : Reading reads (.ok q)) {t : Span} {n : Int32}
    {i : ControlInput} (hi : i = .build n p q) {a : Except String ControlOutput}
    (hm : ∀ f, (⟨.poll, f⟩ : Call) ∉ more) {answer : Except Error Turn} :
    Turn.Record.Trusted ⟨⟨.wait t, .ok .dataReady⟩ :: ⟨.read, .ok n⟩ :: (reads ++ ⟨.process i, a⟩ :: more), answer⟩ ↔
      i.valid = true := by
  subst hi
  cases h with
  | complete t f q c => cases f <;> simp [Turn.Record.Trusted, ControlInput.build, hm]

/-- The engine meets the sample of a turn in one of three ways. -/
theorem process_cases {i : ControlInput} {a : Except String ControlOutput} (h : e.process i = some (a, e')) :
    (i.valid = false ∧ a = .ok (.hold i.fine) ∧ e' = e) ∨
    (i.valid = true ∧ e.pending = true ∧ a = .ok ⟨.calibrate, i.fine, 0⟩ ∧ e' = e) ∨
    (i.valid = true ∧ e.pending = false ∧ e'.pending = false ∧
      ∀ o, a = .ok o → o.action = .phaseJump ∨ o.action = .adjustFine) := by
  cases decided_of_process h with
  | held hv => exact Or.inl ⟨hv, rfl, rfl⟩
  | asked hv hp => exact Or.inr (Or.inl ⟨hv, hp, rfl, rfl⟩)
  | refused hv hp => exact Or.inr (Or.inr ⟨hv, hp, hp, nofun⟩)
  | jumped hv hp =>
    refine Or.inr (Or.inr ⟨hv, hp, hp, fun o ho => ?_⟩)
    cases ho
    exact Or.inl rfl
  | steered hv hp _ _ hs =>
    refine Or.inr (Or.inr ⟨hv, hp, ?_, fun o ho => ?_⟩)
    · rw [hs.state]
      exact hp
    · cases ho
      exact Or.inr (action_of_steered hs)

section

variable {q : Turn.Record} {i : ControlInput} (ht : q.Trusted ↔ i.valid = true)

include ht

/-- A turn that fails at the decision or after it. -/
theorem turned_of_error {a : Except String ControlOutput} {x : Error} (hp : e.process i = some (a, e'))
    (hq : q.answer = .error x) : Turned e q e' := by
  have hn : ∀ a, q.answer ≠ .ok (.acted a) := fun a ha => by rw [hq] at ha; cases ha
  rcases process_cases hp with ⟨hv, -, rfl⟩ | ⟨hv, hd, -, rfl⟩ | ⟨hv, hd, hd', -⟩
  · exact .held (by simp [ht, hv]) fun a ha => absurd ha (hn a)
  · exact .uncalibrated (ht.mpr hv) hd hq
  · exact .steered (ht.mpr hv) hd hd' fun a ha => absurd ha (hn a)

/-- A turn that carries the decision out. -/
theorem turned_of_acted {e₁ : Pid R} {ignore : Bool} (hp : e.process i = some (.ok o, e₁))
    (h : Correcting p o more (.ok ignore)) (hl : Linked Does e₁ more e') (hq : q.answer = .ok (.acted o.action)) :
    Turned e q e' := by
  have hn : ∀ a, q.answer = .ok (.acted a) → a = o.action := fun a ha => by rw [hq] at ha; cases ha; rfl
  rcases process_cases hp with ⟨hv, ho, rfl⟩ | ⟨hv, hd, ho, rfl⟩ | ⟨hv, hd, hd', ho⟩
  · cases ho
    obtain rfl := eq_of_other h hl fun hc => by cases hc
    exact .held (by simp [ht, hv]) hn
  · cases ho
    exact .calibrated (ht.mpr hv) hd (pending_of_calibration h hl rfl) hq
  · have ho := ho o rfl
    obtain rfl := eq_of_other h hl fun hc => by rw [hc] at ho; rcases ho with ho | ho <;> cases ho
    exact .steered (ht.mpr hv) hd hd' fun a ha => by rw [hn a ha]; exact ho

end

variable {settings : Settings} {s : LoopState} {n : Int32} {r : Except Error (Turn × LoopState)}

/-- What follows a good sample that is not ignored. -/
theorem turned_of_acting (h : Acting settings s n calls r) (hl : Linked Does e calls e') :
    Turned e ⟨⟨.wait settings.ppsTimeout, .ok .dataReady⟩ :: ⟨.read, .ok n⟩ :: calls, (Turn.settle s r).1⟩ e' := by
  cases h with
  | @unread calls x h =>
    obtain rfl := eq_of_reading h hl
    by_cases hv : Turn.Record.Trusted ⟨⟨.wait settings.ppsTimeout, .ok .dataReady⟩ :: ⟨.read, .ok n⟩ :: calls, .error x⟩
    · cases hp : e'.pending with
      | true => exact .uncalibrated hv hp rfl
      | false => exact .steered hv hp hp fun a ha => by cases ha
    · exact .held hv fun a ha => by cases ha
  | undecided h x hi =>
    obtain ⟨e₁, hp, he⟩ := process_of_linked h hl
    obtain rfl := linked_nil.mp he
    exact turned_of_error (trusted_iff h (hi.eq_build h) fun _ => List.not_mem_nil) hp rfl
  | failed h h' hi =>
    obtain ⟨e₁, hp, he⟩ := process_of_linked h hl
    obtain rfl := eq_of_failed h' he
    exact turned_of_error (trusted_iff h (hi.eq_build h) (not_poll_of_correcting h')) hp rfl
  | acted h h' hi =>
    obtain ⟨e₁, hp, he⟩ := process_of_linked h hl
    exact turned_of_acted (trusted_iff h (hi.eq_build h) (not_poll_of_correcting h')) hp h' he rfl

theorem turned_of_fits {f : Turn.Form} (h : f.Fits settings s calls r) (hl : Linked Does e calls e') :
    Turned e ⟨calls, (Turn.settle s r).1⟩ e' := by
  cases f with
  | waited =>
    obtain ⟨a, rfl, h⟩ := h
    simp only [linked_cons, linked_nil, Does] at hl
    obtain ⟨_, rfl, rfl⟩ := hl
    refine .held (by simp [Turn.Record.Trusted]) fun b hb => ?_
    rcases a with x | (_ | _ | _) <;> cases h <;> cases hb
  | sampled =>
    obtain ⟨a, rfl, h⟩ := h
    simp only [linked_cons, linked_nil, Does] at hl
    obtain ⟨_, rfl, _, rfl, rfl⟩ := hl
    refine .held (by simp [Turn.Record.Trusted]) fun b hb => ?_
    cases a <;> simp only [Turn.afterRead] at h <;> split at h <;> cases h <;> cases hb
  | carried =>
    obtain ⟨n, rest, rfl, -, h⟩ := h
    simp only [linked_cons, Does] at hl
    obtain ⟨_, rfl, _, rfl, hl⟩ := hl
    exact turned_of_acting h hl

end

section

variable {V R : Type} [Journal (Act V)] [Numeral R] {range : DacRange} {pps : EdgeSource (Act V)}
  {oscillator : Oscillator (Act V)} {receiver : Receiver (Act V)} {settings : Settings} {s : LoopState}
  {w v : Beside (Pid R) V} {r : Except Error (Turn × LoopState)}
  (h : (Turn.take (rig range pps oscillator receiver) settings s).run w = .ok r v)

include h

theorem linked_of_take :
    Linked Does w.own (Turn.callsMade (rig range pps oscillator receiver) settings s w) v.own :=
  Turn.linked_callsMade Beside.own (fun _ _ _ hn => Beside.own_of_note hn)
    (fun c a w v _ ha => does_of_answer range pps oscillator receiver c a w v ha) h

/-- Whatever its collaborators do, a turn does one of four things to the engine. -/
theorem turned_of_take :
    Turned w.own ⟨Turn.callsMade (rig range pps oscillator receiver) settings s w, (Turn.settle s r).1⟩ v.own := by
  obtain ⟨f, hf⟩ := Turn.fits_of_ok _ h
  exact turned_of_fits hf (linked_of_take h)

end

end Pid

end ClockDiscipline
