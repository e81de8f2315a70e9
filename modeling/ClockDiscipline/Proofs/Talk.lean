/-
  ClockDiscipline.Proofs.Talk — computations as the calls that they make.

  The loop is written over any monad. Taken over `Talk` it makes no call: it is the tree
  of its calls, branching on their answers, with what it tells on the way. Followed
  through a world with a rig, the tree gives back the computation (`perform`) and the
  calls made on the way, each with its answer (`calls`). A call inside another, such as a
  wait that a calibration makes, belongs to the collaborator that makes it and is no call
  of the tree.

  Proved:
  (1) Performing goes along with sequencing (`perform_bind`).
  (2) What a performance does is along a path of the tree: with an answer the calls made
      are a whole path to it (`path_of_ok`), with a halt they begin one (`path_of_halt`).
      Each call was answered by the rig (`answered_of_mem_calls`). The answers alone say
      which path it is (`ask_eq_of_path`, `eq_of_path`).
  (3) What every note and the calls on every path keep, a performance keeps, however it
      ends (`keeps_perform`).
-/

import ClockDiscipline.Journal
import ClockDiscipline.Proofs.Kept
import ClockDiscipline.Rig

namespace ClockDiscipline

/-- What the loop can ask of its collaborators. -/
inductive Ask where
  | wait (timeout : Span)
  | read
  | shift (ns : Int32)
  | releasePps
  | controls
  | temperature
  | apply (o : ControlOutput)
  | calibrate (p : Calibration.Plan) (polarity : Polarity)
  | bound (lo hi : UInt32)
  | releaseOscillator
  | poll
  | qerr
  | process (i : ControlInput)
  | plan
  | submit (p : Calibration.Plan) (r : Calibration.Results)
  | releaseEngine

abbrev Ask.Answer : Ask → Type
  | .wait _ => Except IoError EdgeEvent
  | .read => Except IoError Int32
  | .shift _ => Except IoError Unit
  | .controls => Except String Controls
  | .temperature => Except String (Option UInt16)
  | .apply _ => Except String Unit
  | .calibrate _ _ => Option Calibration.Results
  | .poll => Except String Fix
  | .qerr => Int32
  | .process _ => Except String ControlOutput
  | .plan => Option Calibration.Plan
  | .submit _ _ | .bound _ _ | .releasePps | .releaseOscillator | .releaseEngine => Unit

instance (c : Ask) : Inhabited c.Answer := by
  cases c <;> exact ⟨default⟩

/-- Whether a turn may ask for it: neither the bounds nor the handles are its business. -/
def Ask.InTurn : Ask → Prop
  | .bound _ _ | .releasePps | .releaseOscillator | .releaseEngine => False
  | _ => True

/-- A call with its answer. -/
structure Call where
  ask : Ask
  answer : ask.Answer

/-- A tree of calls, each with what follows for each answer. -/
inductive Talk (α : Type) where
  | done (a : α)
  | note (e : Entry) (next : Talk α)
  | ask (c : Ask) (next : c.Answer → Talk α)

namespace Talk

def bind {α β : Type} (f : α → Talk β) : Talk α → Talk β
  | .done a => f a
  | .note e t => .note e (t.bind f)
  | .ask c next => .ask c fun a => (next a).bind f

instance : Monad Talk where
  pure := .done
  bind t f := t.bind f

instance : Journal Talk where
  note e := .note e (.done ())

end Talk

namespace Rig

variable {m : Type → Type}

/-- The computation behind a call. -/
def answer (rig : Rig m) : (c : Ask) → m c.Answer
  | .wait t => rig.pps.wait t
  | .read => rig.pps.read
  | .shift ns => rig.pps.shift ns
  | .releasePps => rig.pps.release
  | .controls => rig.oscillator.controls
  | .temperature => rig.oscillator.temperature
  | .apply o => rig.oscillator.apply o
  | .calibrate p polarity => rig.oscillator.calibrate p rig.pps polarity
  | .bound lo hi => rig.oscillator.bound lo hi
  | .releaseOscillator => rig.oscillator.release
  | .poll => rig.receiver.poll
  | .qerr => rig.receiver.qerr
  | .process i => rig.engine.process i
  | .plan => rig.engine.plan
  | .submit p r => rig.engine.submit p r
  | .releaseEngine => rig.engine.release

/-- A rig by the same names and bounds whose every call is left open. -/
def script (rig : Rig m) : Rig Talk where
  pps := {
    name := rig.pps.name
    wait t := .ask (.wait t) .done
    read := .ask .read .done
    shift ns := .ask (.shift ns) .done
    release := .ask .releasePps .done }
  oscillator := {
    model := rig.oscillator.model
    controls := .ask .controls .done
    temperature := .ask .temperature .done
    apply o := .ask (.apply o) .done
    calibrate p _ polarity := .ask (.calibrate p polarity) .done
    bound lo hi := .ask (.bound lo hi) .done
    release := .ask .releaseOscillator .done }
  receiver := { poll := .ask .poll .done, qerr := .ask .qerr .done }
  engine := {
    dacMin := rig.engine.dacMin
    dacMax := rig.engine.dacMax
    process i := .ask (.process i) .done
    plan := .ask .plan .done
    submit p r := .ask (.submit p r) .done
    release := .ask .releaseEngine .done }

end Rig

/-! ## (1) Performing -/

namespace Talk

section

variable {m : Type → Type} [Monad m] [Journal m] {α β : Type}

/-- Make the calls on a rig. -/
def perform (rig : Rig m) : Talk α → m α
  | .done a => pure a
  | .note e t => do
    Journal.note e
    t.perform rig
  | .ask c next => do (next (← rig.answer c)).perform rig

theorem perform_bind [LawfulMonad m] (rig : Rig m) (t : Talk α) (f : α → Talk β) :
    (t >>= f).perform rig = t.perform rig >>= fun a => (f a).perform rig := by
  change (t.bind f).perform rig = _
  induction t with
  | done a => simp [bind, perform]
  | note e t ih => simp [bind, perform, ih]
  | ask c next ih => simp [bind, perform, ih]

theorem perform_ask [LawfulMonad m] (rig : Rig m) (c : Ask) : (ask c .done).perform rig = rig.answer c := by
  simp [perform]

end

/-! ## (2) Paths -/

/-- The calls that can be made on the way to an end. -/
def Path {α : Type} : Talk α → List Call → α → Prop
  | .done a, calls, r => calls = [] ∧ a = r
  | .note _ t, calls, r => t.Path calls r
  | .ask c next, calls, r => ∃ a rest, calls = ⟨c, a⟩ :: rest ∧ (next a).Path rest r

theorem path_bind {α β : Type} {t : Talk α} {f : α → Talk β} {calls : List Call} {r : β} (h : (t >>= f).Path calls r) :
    ∃ a before after, calls = before ++ after ∧ t.Path before a ∧ (f a).Path after r := by
  change (t.bind f).Path calls r at h
  induction t generalizing calls with
  | done a => exact ⟨a, [], calls, rfl, ⟨rfl, rfl⟩, h⟩
  | note e t ih => exact ih h
  | ask c next ih =>
    obtain ⟨b, rest, rfl, h⟩ := h
    obtain ⟨a, before, after, rfl, hb, ha⟩ := ih b h
    exact ⟨a, ⟨c, b⟩ :: before, after, rfl, ⟨b, before, rfl, hb⟩, ha⟩

/-- Every tree can be walked to an end. -/
theorem exists_path {α : Type} (t : Talk α) : ∃ calls r, t.Path calls r := by
  induction t with
  | done a => exact ⟨[], a, rfl, rfl⟩
  | note e t ih => exact ih
  | ask c next ih =>
    obtain ⟨calls, r, h⟩ := ih default
    exact ⟨⟨c, default⟩ :: calls, r, default, calls, rfl, h⟩

/-- What is asked next depends on the answers so far alone. -/
theorem ask_eq_of_path {α : Type} {t : Talk α} {before rest rest' : List Call} {c c' : Call} {r r' : α}
    (h : t.Path (before ++ c :: rest) r) (h' : t.Path (before ++ c' :: rest') r') : c'.ask = c.ask := by
  induction t generalizing before with
  | done a => cases (List.append_eq_nil_iff.mp h.1).2
  | note e t ih => exact ih h h'
  | ask q next ih =>
    obtain ⟨a, more, hc, h⟩ := h
    obtain ⟨a', more', hc', h'⟩ := h'
    cases before with
    | nil =>
      cases hc
      cases hc'
      rfl
    | cons d before =>
      cases hc
      cases hc'
      exact ih _ h h'

/-- Of two walks through a tree neither is cut short, and the same calls lead to the same end. -/
theorem eq_of_path {α : Type} {t : Talk α} {calls more : List Call} {r r' : α} (h : t.Path calls r)
    (h' : t.Path (calls ++ more) r') : more = [] ∧ r' = r := by
  induction t generalizing calls with
  | done a =>
    obtain ⟨rfl, rfl⟩ := h
    exact ⟨h'.1, h'.2.symm⟩
  | note e t ih => exact ih h h'
  | ask q next ih =>
    obtain ⟨a, rest, rfl, h⟩ := h
    obtain ⟨a', rest', hc, h'⟩ := h'
    cases hc
    exact ih _ h h'

section

variable {W : Type} [Journal (Act W)] {α : Type}

/-- The calls that a performance makes in a world, in their order. One that halts gave no answer and is left
    out. -/
def calls (rig : Rig (Act W)) : Talk α → W → List Call
  | .done _, _ => []
  | .note e t, w =>
    match (Journal.note e : Act W Unit) w with
    | .ok () w => t.calls rig w
    | .error _ _ => []
  | .ask c next, w =>
    match rig.answer c w with
    | .ok a w => ⟨c, a⟩ :: (next a).calls rig w
    | .error _ _ => []

variable (rig : Rig (Act W))

theorem perform_note_ok {e : Entry} {t : Talk α} {w v : W} (h : (Journal.note e : Act W Unit) w = .ok () v) :
    (note e t).perform rig w = t.perform rig v := by
  simp only [perform, Bind.bind, EStateM.bind, h]

theorem perform_note_error {e : Entry} {t : Talk α} {w v : W} {x : Halt}
    (h : (Journal.note e : Act W Unit) w = .error x v) : (note e t).perform rig w = .error x v := by
  simp only [perform, Bind.bind, EStateM.bind, h]

theorem perform_ask_ok {c : Ask} {a : c.Answer} {next : c.Answer → Talk α} {w v : W} (h : rig.answer c w = .ok a v) :
    (ask c next).perform rig w = (next a).perform rig v := by
  simp only [perform, Bind.bind, EStateM.bind, h]

theorem perform_ask_error {c : Ask} {next : c.Answer → Talk α} {w v : W} {x : Halt}
    (h : rig.answer c w = .error x v) : (ask c next).perform rig w = .error x v := by
  simp only [perform, Bind.bind, EStateM.bind, h]

theorem calls_note_ok {e : Entry} {t : Talk α} {w v : W} (h : (Journal.note e : Act W Unit) w = .ok () v) :
    (note e t).calls rig w = t.calls rig v := by
  simp only [calls, h]

theorem calls_ask_ok {c : Ask} {a : c.Answer} {next : c.Answer → Talk α} {w v : W} (h : rig.answer c w = .ok a v) :
    (ask c next).calls rig w = ⟨c, a⟩ :: (next a).calls rig v := by
  simp only [calls, h]

theorem path_of_ok {t : Talk α} {w v : W} {r : α} (h : t.perform rig w = .ok r v) : t.Path (t.calls rig w) r := by
  induction t generalizing w with
  | done a =>
    cases h
    exact ⟨rfl, rfl⟩
  | note e t ih =>
    cases hn : (Journal.note e : Act W Unit) w with
    | ok u w1 =>
      rw [perform_note_ok rig hn] at h
      simp only [calls, hn]
      exact ih h
    | error x w1 => rw [perform_note_error rig hn] at h; cases h
  | ask c next ih =>
    cases ha : rig.answer c w with
    | ok a w1 =>
      rw [perform_ask_ok rig ha] at h
      exact ⟨a, (next a).calls rig w1, by simp only [calls, ha], ih a h⟩
    | error x w1 => rw [perform_ask_error rig ha] at h; cases h

theorem path_of_halt {t : Talk α} {w v : W} {x : Halt} (h : t.perform rig w = .error x v) :
    ∃ more r, t.Path (t.calls rig w ++ more) r := by
  induction t generalizing w with
  | done a => cases h
  | note e t ih =>
    cases hn : (Journal.note e : Act W Unit) w with
    | ok u w1 =>
      rw [perform_note_ok rig hn] at h
      simp only [calls, hn]
      exact ih h
    | error y w1 =>
      simp only [calls, hn, List.nil_append]
      exact exists_path t
  | ask c next ih =>
    cases ha : rig.answer c w with
    | ok a w1 =>
      rw [perform_ask_ok rig ha] at h
      obtain ⟨more, r, hp⟩ := ih a h
      exact ⟨more, r, a, _, by simp only [calls, ha, List.cons_append], hp⟩
    | error y w1 =>
      simp only [calls, ha, List.nil_append]
      exact exists_path (ask c next)

/-- However a performance ends, its calls begin a path. -/
theorem path_of_calls (t : Talk α) (w : W) : ∃ more r, t.Path (t.calls rig w ++ more) r := by
  cases h : t.perform rig w with
  | ok r v => exact ⟨[], r, by rw [List.append_nil]; exact path_of_ok rig h⟩
  | error x v => exact path_of_halt rig h

theorem answered_of_mem_calls {t : Talk α} {w : W} {c : Call} (h : c ∈ t.calls rig w) :
    ∃ w₁ w₂, rig.answer c.ask w₁ = .ok c.answer w₂ := by
  induction t generalizing w with
  | done a => cases h
  | note e t ih =>
    cases hn : (Journal.note e : Act W Unit) w with
    | ok u w1 => simp only [calls, hn] at h; exact ih h
    | error x w1 => simp only [calls, hn] at h; cases h
  | ask q next ih =>
    cases ha : rig.answer q w with
    | ok a w1 =>
      simp only [calls, ha] at h
      rcases List.mem_cons.mp h with rfl | h
      · exact ⟨w, w1, ha⟩
      · exact ih a h
    | error x w1 => simp only [calls, ha] at h; cases h

/-! ## (3) What a performance keeps -/

theorem keeps_perform {P : W → Prop} (hn : ∀ e, Act.Keeps P (Journal.note e : Act W Unit)) (t : Talk α)
    (ha : ∀ calls r, t.Path calls r → ∀ c ∈ calls, Act.Keeps P (rig.answer c.ask)) : Act.Keeps P (t.perform rig) := by
  induction t with
  | done a => exact Act.keeps_pure a
  | note e t ih => exact Act.keeps_bind (hn e) fun _ => ih ha
  | ask c next ih =>
    refine Act.keeps_bind ?_ fun a => ih a fun calls r hp d hd => ?_
    · -- Some path goes on after the call, so that the call is on one.
      obtain ⟨calls, r, hp⟩ := exists_path (next default)
      exact ha _ r ⟨default, calls, rfl, hp⟩ _ List.mem_cons_self
    · exact ha _ r ⟨a, calls, rfl, hp⟩ d (List.mem_cons_of_mem _ hd)

end

end Talk

end ClockDiscipline
