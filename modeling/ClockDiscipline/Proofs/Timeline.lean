/-
  ClockDiscipline.Proofs.Timeline — what a controller does, moment by moment.

  The timeline of a controller stands beside its world. It has the start and the end of
  everything that takes time: each call of a turn, each look at the stop flag, each slice
  of a rest; at each of these moments it keeps the world as it is then. What halts has a
  start and no end. Telling, the cause of a stop and a request for one pass it by.

  Proved:
  (1) Keeping a timeline changes no answer and no world, and what it has is a word of what
      the computation may do, or begins one where the computation halts: the rules of
      `Follows` for sequences.
  (2) A turn's part of it is the calls on a path through its tree (`follows_take`), a
      rest's is looks and slices of rest (`follows_restFor`).
-/

import ClockDiscipline.Loop.Run
import ClockDiscipline.Proofs.Beside
import ClockDiscipline.Proofs.TurnTalk

namespace ClockDiscipline

/-- A rig of the same names and bounds whose every call goes through a function. -/
def Rig.through {m n : Type → Type} (rig : Rig m) (f : (c : Ask) → n c.Answer) : Rig n where
  pps := {
    name := rig.pps.name
    wait t := f (.wait t)
    read := f .read
    shift ns := f (.shift ns)
    release := f .releasePps }
  oscillator := {
    model := rig.oscillator.model
    controls := f .controls
    temperature := f .temperature
    apply o := f (.apply o)
    calibrate p _ polarity := f (.calibrate p polarity)
    bound lo hi := f (.bound lo hi)
    release := f .releaseOscillator }
  receiver := { poll := f .poll, qerr := f .qerr }
  engine := {
    dacMin := rig.engine.dacMin
    dacMax := rig.engine.dacMax
    process i := f (.process i)
    plan := f .plan
    submit p r := f (.submit p r)
    release := f .releaseEngine }

theorem Rig.answer_through {m n : Type → Type} (rig : Rig m) (f : (c : Ask) → n c.Answer) (c : Ask) :
    (rig.through f).answer c = f c := by
  cases c <;> rfl

theorem Rig.script_through {m n : Type → Type} (rig : Rig m) (f : (c : Ask) → n c.Answer) :
    (rig.through f).script = rig.script := rfl

namespace Timeline

/-- Starts and ends. -/
inductive Event where
  | asked (q : Ask)
  | answered (c : Call)
  | looking
  /-- The stop flag was seen so. -/
  | looked (stopped : Bool)
  | resting (nanos : Nat)
  | rested

structure Moment (W : Type) where
  event : Event
  /-- The world at the moment. -/
  world : W

abbrev World (W : Type) : Type := Beside (List (Moment W)) W

section

variable {W α : Type}

def events (w : World W) : List Event := w.own.map Moment.event

/-- Keep the moments at which a computation starts and ends. -/
def timed (first : Event) (last : α → Event) (x : Act W α) : Act (World W) α := fun w =>
  match x w.others with
  | .ok a v => .ok a ⟨w.own ++ [⟨first, w.others⟩, ⟨last a, v⟩], v⟩
  | .error e v => .error e ⟨w.own ++ [⟨first, w.others⟩], v⟩

theorem timed_of_ok {first : Event} {last : α → Event} {x : Act W α} {w : World W} {a : α} {v : W}
    (h : x w.others = .ok a v) :
    timed first last x w = .ok a ⟨w.own ++ [⟨first, w.others⟩, ⟨last a, v⟩], v⟩ := by
  simp only [timed, h]

theorem timed_of_error {first : Event} {last : α → Event} {x : Act W α} {w : World W} {e : Halt} {v : W}
    (h : x w.others = .error e v) : timed first last x w = .error e ⟨w.own ++ [⟨first, w.others⟩], v⟩ := by
  simp only [timed, h]

def call (rig : Rig (Act W)) (c : Ask) : Act (World W) c.Answer :=
  timed (.asked c) (fun a => .answered ⟨c, a⟩) (rig.answer c)

def controller (c : Controller (Act W)) : Controller (Act (World W)) where
  settings := c.settings
  rig := c.rig.through (call c.rig)
  stop := {
    requested := timed .looking .looked c.stop.requested
    cause := Beside.aside c.stop.cause
    request := Beside.aside c.stop.request }
  rest n := timed (.resting n) (fun _ => .rested) (c.rest n)

end

/-! ## (1) Words -/

section

variable {W α β : Type}

/-- What a sequence may do of which the first part may do the words of `P`, and the second those of `Q`. -/
def Then (P : List Event → α → Prop) (Q : α → List Event → β → Prop) (es : List Event) (b : β) : Prop :=
  ∃ a first second, es = first ++ second ∧ P first a ∧ Q a second b

/-- A computation with a timeline does what the plain one does, and of the words that it may do it has one, or the
    beginning of one where it halts. -/
structure Follows (timed : Act (World W) α) (plain : Act W α) (words : List Event → α → Prop) : Prop where
  some_word : ∃ es a, words es a
  ok {w v : World W} {a : α} : timed w = .ok a v →
    plain w.others = .ok a v.others ∧ ∃ es, events v = events w ++ es ∧ words es a
  halt {w v : World W} {e : Halt} : timed w = .error e v →
    plain w.others = .error e v.others ∧ ∃ es more a, events v = events w ++ es ∧ words (es ++ more) a

/-- An outcome without its timeline. -/
def forget : EStateM.Result Halt (World W) α → EStateM.Result Halt W α
  | .ok a v => .ok a v.others
  | .error e v => .error e v.others

namespace Follows

variable {x' : Act (World W) α} {x : Act W α} {P : List Event → α → Prop}

theorem eq_forget (h : Follows x' x P) (w : World W) : x w.others = forget (x' w) := by
  cases hx : x' w with
  | ok a v => exact (h.ok hx).1
  | error e v => exact (h.halt hx).1

theorem pure (a : α) : Follows (W := W) (Pure.pure a) (Pure.pure a) (fun es b => es = [] ∧ b = a) where
  some_word := ⟨[], a, rfl, rfl⟩
  ok h := by
    cases h
    exact ⟨rfl, [], (List.append_nil _).symm, rfl, rfl⟩
  halt h := by cases h

theorem weaken {Q : List Event → α → Prop} (h : Follows x' x P) (hq : ∀ es a, P es a → Q es a) : Follows x' x Q where
  some_word := by
    obtain ⟨es, a, hw⟩ := h.some_word
    exact ⟨es, a, hq es a hw⟩
  ok hv := by
    obtain ⟨hx, es, he, hw⟩ := h.ok hv
    exact ⟨hx, es, he, hq es _ hw⟩
  halt hv := by
    obtain ⟨hx, es, more, a, he, hw⟩ := h.halt hv
    exact ⟨hx, es, more, a, he, hq _ a hw⟩

theorem throw (e : Halt) (h : ∃ es a, P es a) : Follows (W := W) (MonadExcept.throw e) (MonadExcept.throw e) P where
  some_word := h
  ok h := by cases h
  halt hv := by
    obtain ⟨es, a, hw⟩ := h
    cases hv
    exact ⟨rfl, [], es, a, (List.append_nil _).symm, hw⟩

theorem aside [Inhabited α] (x : Act W α) : Follows (Beside.aside x) x (fun es _ => es = []) where
  some_word := ⟨[], default, rfl⟩
  ok {w v a} h := by
    simp only [Beside.aside, Beside.look] at h
    cases hx : x w.others with
    | ok b u =>
      rw [hx] at h
      cases h
      exact ⟨rfl, [], (List.append_nil _).symm, rfl⟩
    | error e u =>
      rw [hx] at h
      cases h
  halt {w v e} h := by
    simp only [Beside.aside, Beside.look] at h
    cases hx : x w.others with
    | ok b u =>
      rw [hx] at h
      cases h
    | error e u =>
      rw [hx] at h
      cases h
      exact ⟨rfl, [], [], default, (List.append_nil _).symm, rfl⟩

theorem timed [Inhabited α] (first : Event) (last : α → Event) (x : Act W α) :
    Follows (timed first last x) x (fun es a => es = [first, last a]) where
  some_word := ⟨_, default, rfl⟩
  ok {w v a} h := by
    cases hx : x w.others with
    | ok b u =>
      rw [timed_of_ok hx] at h
      cases h
      exact ⟨rfl, _, by simp [events], rfl⟩
    | error e u =>
      rw [timed_of_error hx] at h
      cases h
  halt {w v e} h := by
    cases hx : x w.others with
    | ok b u =>
      rw [timed_of_ok hx] at h
      cases h
    | error e u =>
      rw [timed_of_error hx] at h
      cases h
      exact ⟨rfl, [first], [last default], default, by simp [events], rfl⟩

theorem bind {f' : α → Act (World W) β} {f : α → Act W β} {Q : α → List Event → β → Prop} (hx : Follows x' x P)
    (hf : ∀ a, Follows (f' a) (f a) (Q a)) : Follows (x' >>= f') (x >>= f) (Then P Q) where
  some_word := by
    obtain ⟨es, a, hp⟩ := hx.some_word
    obtain ⟨es', b, hq⟩ := (hf a).some_word
    exact ⟨_, b, a, es, es', rfl, hp, hq⟩
  ok hv := by
    obtain ⟨a, u, hu, hv⟩ := Act.bind_ok hv
    obtain ⟨hx, es, he, hp⟩ := hx.ok hu
    obtain ⟨hf, es', he', hq⟩ := (hf a).ok hv
    refine ⟨?_, es ++ es', ?_, a, es, es', rfl, hp, hq⟩
    · simp only [Bind.bind, EStateM.bind, hx, hf]
    · rw [he', he, List.append_assoc]
  halt {w v e} hv := by
    rcases Act.bind_error hv with hv | ⟨a, u, hu, hv⟩
    · obtain ⟨hx, es, more, a, he, hp⟩ := hx.halt hv
      -- The word of the first part goes on with any word of the second.
      obtain ⟨es', b, hq⟩ := (hf a).some_word
      refine ⟨?_, es, more ++ es', b, he, a, es ++ more, es', (List.append_assoc ..).symm, hp, hq⟩
      simp only [Bind.bind, EStateM.bind, hx]
    · obtain ⟨hx, es, he, hp⟩ := hx.ok hu
      obtain ⟨hf, es', more, b, he', hq⟩ := (hf a).halt hv
      refine ⟨?_, es ++ es', more, b, ?_, a, es, es' ++ more, List.append_assoc .., hp, hq⟩
      · simp only [Bind.bind, EStateM.bind, hx, hf]
      · rw [he', he, List.append_assoc]

end Follows

end

/-! ## (2) Turns and rests -/

/-- The moments of a call that was answered. -/
def ends (c : Call) : List Event := [.asked c.ask, .answered c]

/-- Whether it is a look or a slice of rest. -/
def Event.IsRest : Event → Prop
  | .asked _ | .answered _ => False
  | _ => True

section

variable {W α : Type} [Journal (Act W)]

theorem follows_perform (rig : Rig (Act W)) (t : Talk α) :
    Follows (t.perform (rig.through (call rig))) (t.perform rig)
      (fun es a => ∃ calls, t.Path calls a ∧ es = calls.flatMap ends) := by
  induction t with
  | done a =>
    refine (Follows.pure a).weaken fun es b h => ?_
    obtain ⟨rfl, rfl⟩ := h
    exact ⟨[], ⟨rfl, rfl⟩, rfl⟩
  | note e t ih =>
    refine (Follows.bind (Follows.aside (Journal.note e)) fun _ => ih).weaken fun es b h => ?_
    obtain ⟨-, first, second, rfl, rfl, h⟩ := h
    exact h
  | ask c next ih =>
    have hc : Follows ((rig.through (call rig)).answer c) (rig.answer c)
        (fun es a => es = [.asked c, .answered ⟨c, a⟩]) := by
      rw [Rig.answer_through]
      exact Follows.timed _ _ _
    refine (Follows.bind hc ih).weaken fun es b h => ?_
    obtain ⟨a, first, second, rfl, rfl, calls, hp, rfl⟩ := h
    exact ⟨⟨c, a⟩ :: calls, ⟨a, calls, rfl, hp⟩, rfl⟩

theorem follows_take (rig : Rig (Act W)) (settings : Settings) (s : LoopState) :
    Follows (Turn.take (rig.through (call rig)) settings s).run (Turn.take rig settings s).run
      (fun es r => ∃ calls, (Turn.take rig.script settings s).run.Path calls r ∧ es = calls.flatMap ends) := by
  rw [← performs_take (rig.through (call rig)) settings s, ← performs_take rig settings s, Rig.script_through]
  exact follows_perform rig _

end

section

variable {W : Type} (c : Controller (Act W))

theorem follows_requested :
    Follows (controller c).stop.requested c.stop.requested (fun es b => es = [.looking, .looked b]) :=
  Follows.timed _ _ _

theorem follows_restFor (left : Nat) :
    Follows ((controller c).restFor left) (c.restFor left) (fun es _ => ∀ e ∈ es, e.IsRest) := by
  induction left using Nat.strongRecOn with
  | ind left ih =>
    unfold Controller.restFor
    -- A look, and then nothing or a slice with the rest that is left.
    refine (Follows.bind (follows_requested c) (Q := fun _ es _ => ∀ e ∈ es, e.IsRest) fun stopped => ?_).weaken
      fun es _ h => ?_
    · have hdone : Follows (W := W) (pure ()) (pure ()) (fun es _ => ∀ e ∈ es, e.IsRest) := by
        refine (Follows.pure ()).weaken fun es _ h => ?_
        obtain ⟨rfl, -⟩ := h
        exact fun e he => absurd he List.not_mem_nil
      by_cases h1 : stopped = true
      · simp only [h1, if_true]
        exact hdone
      by_cases h2 : left = 0
      · simp only [h1, h2, if_true]
        exact hdone
      simp only [h1, h2]
      have hslice : Follows ((controller c).rest (min left Controller.restSlice)) (c.rest (min left Controller.restSlice))
          (fun es _ => es = [.resting (min left Controller.restSlice), .rested]) := Follows.timed _ _ _
      refine (Follows.bind hslice fun _ => ih _ (by simp only [Controller.restSlice]; omega)).weaken fun es _ h => ?_
      obtain ⟨-, first, second, rfl, rfl, h⟩ := h
      simpa [Event.IsRest] using h
    · obtain ⟨stopped, first, second, rfl, rfl, h⟩ := h
      simpa [Event.IsRest] using h

theorem follows_keepsRunning (s : LoopState) :
    Follows ((controller c).keepsRunning s) (c.keepsRunning s)
      (fun es b => ∃ stopped, es = [.looking, .looked stopped] ∧ b = (!stopped && !s.exhausted)) := by
  refine (Follows.bind (follows_requested c) fun _ => Follows.pure _).weaken fun es b h => ?_
  obtain ⟨stopped, first, second, rfl, rfl, rfl, rfl⟩ := h
  exact ⟨stopped, rfl, rfl⟩

end

end Timeline

end ClockDiscipline
