/-
  ClockDiscipline.Proofs.Answering — computations that answer wherever they are begun.

  A collaborator may halt, and with it the loop. Where everything that the loop calls on
  answers in every world, so do a lap of the loop, its parts, and its farewell. Nothing is
  left then that could halt a run but its patience.

  Proved: a sequence answers if its parts do (`answers_bind`), and with what they lead to
  (`reaches_bind`); where everything that a controller calls on answers, so do a turn with
  its rest and a look whether another follows (`answers_cycle`, `answers_keepsRunning`),
  and a run answers if its cycles do (`run_answers_iff`).
-/

import ClockDiscipline.Proofs.RunKept
import ClockDiscipline.Rehearsal.Stage

namespace ClockDiscipline

namespace Act

variable {W α β : Type}

def Answers (x : Act W α) : Prop := ∀ w, ∃ a v, x w = .ok a v

theorem answers_pure (a : α) : Answers (pure a : Act W α) := fun w => ⟨a, w, rfl⟩

/-- The second part may count on what every answer of the first is. -/
theorem answers_bind_of_yields {Q : α → Prop} {x : Act W α} {f : α → Act W β} (hx : Answers x) (hq : Yields Q x)
    (hf : ∀ a, Q a → Answers (f a)) : Answers (x >>= f) := by
  intro w
  obtain ⟨a, u, ha⟩ := hx w
  obtain ⟨b, v, hb⟩ := hf a (hq w a u ha) u
  exact ⟨b, v, (bind_of_ok ha f).trans hb⟩

theorem answers_bind {x : Act W α} {f : α → Act W β} (hx : Answers x) (hf : ∀ a, Answers (f a)) : Answers (x >>= f) :=
  answers_bind_of_yields hx (fun _ _ _ _ => trivial) fun a (_ : True) => hf a

/-- From every world of the first kind a computation gives this answer and leaves a world of the second kind. -/
def Reaches (P : W → Prop) (x : Act W α) (a : α) (Q : W → Prop) : Prop := ∀ w, P w → ∃ v, x w = .ok a v ∧ Q v

section

variable {P Q R : W → Prop} {x : Act W α} {f : α → Act W β} {a : α} {b : β}

theorem reaches_pure (a : α) : Reaches P (pure a : Act W α) a P := fun w hw => ⟨w, rfl, hw⟩

theorem reaches_bind (hx : Reaches P x a Q) (hf : Reaches Q (f a) b R) : Reaches P (x >>= f) b R := by
  intro w hw
  obtain ⟨u, hu, hq⟩ := hx w hw
  obtain ⟨v, hv, hr⟩ := hf u hq
  exact ⟨v, (bind_of_ok hu f).trans hv, hr⟩

/-- A step that may fail, where it does not. -/
theorem reaches_attempt {ε : Type} {x : ExceptT ε (Act W) α} {f : α → ExceptT ε (Act W) β} {b : Except ε β}
    (hx : Reaches P x.run (.ok a) Q) (hf : Reaches Q (f a).run b R) : Reaches P (x >>= f).run b R :=
  reaches_bind (f := ExceptT.bindCont f) hx hf

theorem reaches_lift {ε : Type} (hx : Reaches P x a Q) : Reaches P (ExceptT.lift x : ExceptT ε (Act W) α).run (.ok a) Q := by
  rw [ExceptT.run_lift, ← bind_pure_comp]
  exact reaches_bind hx (reaches_pure _)

theorem reaches_get {S : Type} (k : Slot W S) (w : W) : Reaches (· = w) k.cell.get (k.get w) (· = w) := by
  rintro _ rfl
  exact ⟨_, rfl, rfl⟩

theorem reaches_set {S : Type} (k : Slot W S) (s : S) (w : W) : Reaches (· = w) (k.cell.set s) () (· = k.set s w) := by
  rintro _ rfl
  exact ⟨_, rfl, rfl⟩

/-- What fits its type is no panic. -/
theorem reaches_orPanic {o : Option α} (h : o = some a) : Reaches P (orPanic o : Act W α) a P := by
  subst h
  exact reaches_pure a

end

end Act

/-- Notes and calls that answer make a tree answer. -/
theorem Talk.answers_perform {W α : Type} [Journal (Act W)] {rig : Rig (Act W)}
    (hn : ∀ e, Act.Answers (Journal.note e : Act W Unit)) (t : Talk α)
    (ha : ∀ calls r, t.Path calls r → ∀ c ∈ calls, Act.Answers (rig.answer c.ask)) : Act.Answers (t.perform rig) := by
  induction t with
  | done a => exact Act.answers_pure a
  | note e t ih => exact Act.answers_bind (hn e) fun _ => ih ha
  | ask c next ih =>
    refine Act.answers_bind ?_ fun a => ih a fun calls r hp d hd => ?_
    · obtain ⟨calls, r, hp⟩ := exists_path (next default)
      exact ha _ r ⟨default, calls, rfl, hp⟩ _ List.mem_cons_self
    · exact ha _ r ⟨a, calls, rfl, hp⟩ d (List.mem_cons_of_mem _ hd)

namespace Controller

/-- Everything that the loop calls on answers. -/
structure Responds {W : Type} [Journal (Act W)] (c : Controller (Act W)) : Prop where
  note : ∀ e, Act.Answers (Journal.note e : Act W Unit)
  call : ∀ q : Ask, q.InTurn → Act.Answers (c.rig.answer q)
  look : Act.Answers c.stop.requested
  cause : Act.Answers c.stop.cause
  rest : ∀ n, Act.Answers (c.rest n)

variable {W : Type} [Journal (Act W)] {c : Controller (Act W)} (hc : c.Responds)

include hc

theorem answers_take (s : LoopState) : Act.Answers (Turn.take c.rig c.settings s).run := by
  rw [← performs_take c.rig c.settings s]
  exact Talk.answers_perform hc.note _ fun _ _ hp q hq => hc.call q.ask (Turn.inTurn_of_path c.rig hp hq)

theorem answers_restFor (left : Nat) : Act.Answers (c.restFor left) := by
  induction left using Nat.strongRecOn with
  | ind left ih =>
    rw [restFor]
    refine Act.answers_bind hc.look fun stopped => ?_
    by_cases h1 : stopped = true
    · simp only [h1, if_true]
      exact Act.answers_pure ()
    by_cases h2 : left = 0
    · simp only [h1, h2, if_true]
      exact Act.answers_pure ()
    simp only [h1, h2]
    exact Act.answers_bind (hc.rest _) fun _ => ih _ (by simp only [restSlice]; omega)

theorem answers_cycle (s : LoopState) : Act.Answers (c.cycle s) := by
  refine Act.answers_bind (answers_take hc _) fun r => ?_
  rcases r with e | ⟨t, s'⟩
  · exact Act.answers_pure _
  · cases t with
    | acted a => exact Act.answers_bind (answers_restFor hc _) fun _ => Act.answers_pure _
    | _ => exact Act.answers_pure _

theorem answers_keepsRunning (s : LoopState) : Act.Answers (c.keepsRunning s) :=
  Act.answers_bind hc.look fun _ => Act.answers_pure _

theorem answers_farewell : Act.Answers c.farewell := by
  refine Act.answers_bind hc.look fun stopped => ?_
  by_cases h : stopped = true
  · simp only [h, if_true]
    refine Act.answers_bind hc.cause fun cause => ?_
    cases cause <;> exact hc.note _
  · simp only [h]
    exact hc.note _

/-- A run is what it tells first and its cycles, and answers where they do. -/
theorem run_answers_iff {patience : Nat} {s : LoopState} {w u : W}
    (hn : (Journal.info .loop "Starting main loop" : Act W Unit) w = .ok () u) :
    (∃ r v, c.run patience s w = .ok r v) ↔ ∃ r v, c.cycles patience s u = .ok r v := by
  have hr : c.run patience s w = _ := Act.bind_of_ok hn _
  rw [hr]
  constructor
  · rintro ⟨r, v, h⟩
    obtain ⟨o, u', ho, -⟩ := Act.bind_ok h
    exact ⟨o, u', ho⟩
  · rintro ⟨o, v, h⟩
    rw [Act.bind_of_ok h]
    rcases o with ⟨e | _, s'⟩
    · exact ⟨_, _, rfl⟩
    · exact Act.answers_bind (answers_farewell hc) (fun _ => Act.answers_pure _) v

end Controller

/-- Scripted collaborators and a flag of their own, which a signal raises. Rests take no time. -/
def playedController (settings : Settings) : Controller (Act Rehearsal.Stage) where
  settings
  rig := ⟨Rehearsal.Script.source "pps" Rehearsal.Stage.scriptSlot.cell fun _ => Rehearsal.Stage.detached.request,
    Rehearsal.Understudy.oscillator "understudy" Rehearsal.Stage.understudySlot.cell,
    Rehearsal.playedReceiver 0 Rehearsal.Stage.fixesSlot.cell,
    Rehearsal.playedEngine 0 100 none Rehearsal.Stage.outputsSlot.cell⟩
  stop := Rehearsal.Stage.detached
  rest _ := pure ()

theorem responds_played (settings : Settings) : (playedController settings).Responds where
  note _ _ := ⟨_, _, rfl⟩
  call q _ := by
    cases q with
    | wait t =>
      refine Act.answers_bind (fun _ => ⟨_, _, rfl⟩) fun script => Act.answers_bind (fun _ => ⟨_, _, rfl⟩) fun event => ?_
      split <;> exact fun _ => ⟨_, _, rfl⟩
    | _ => exact fun _ => ⟨_, _, rfl⟩
  look _ := ⟨_, _, rfl⟩
  cause _ := ⟨_, _, rfl⟩
  rest _ _ := ⟨_, _, rfl⟩

end ClockDiscipline
