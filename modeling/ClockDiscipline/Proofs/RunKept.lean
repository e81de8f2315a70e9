/-
  ClockDiscipline.Proofs.RunKept — what a run of the loop keeps.

  A run is turns, rests between them, and looks at the stop flag. What all of these keep
  of the world, the run keeps. Of what the loop carries on, turns and runs leave alone
  whether the handles were given back.

  Proved: (1) what turns, rests and looks keep, a run keeps (`keeps_run`); (2) a turn
  changes nothing of what is carried on but whether the next sample is to be ignored
  (`Turn.state_of_fits`), and neither a turn nor a run gives the handles back
  (`released_step`, `released_run`).
-/

import ClockDiscipline.Loop.Run
import ClockDiscipline.Proofs.TurnRow

namespace ClockDiscipline

/-! ## (1) The world -/

namespace Controller

theorem keeps_restFor {W : Type} {P : W → Prop} {c : Controller (Act W)} (hs : Act.Keeps P c.stop.requested)
    (hr : ∀ n, Act.Keeps P (c.rest n)) (left : Nat) : Act.Keeps P (c.restFor left) := by
  induction left using Nat.strongRecOn with
  | ind left ih =>
    rw [restFor]
    refine Act.keeps_bind hs fun stopped => ?_
    by_cases h1 : stopped = true
    · simp only [h1, if_true]
      exact Act.keeps_pure ()
    by_cases h2 : left = 0
    · simp only [h1, h2, if_true]
      exact Act.keeps_pure ()
    simp only [h1, h2]
    exact Act.keeps_bind (hr _) fun _ => ih _ (by simp only [restSlice]; omega)

section

variable {W : Type} [Journal (Act W)] {P : W → Prop} {c : Controller (Act W)}
  (hn : ∀ e, Act.Keeps P (Journal.note e : Act W Unit)) (ha : ∀ q : Ask, q.InTurn → Act.Keeps P (c.rig.answer q))
  (hs : Act.Keeps P c.stop.requested) (hc : Act.Keeps P c.stop.cause) (hr : ∀ n, Act.Keeps P (c.rest n))

include hn ha hs hr

theorem keeps_cycle (s : LoopState) : Act.Keeps P (c.cycle s) := by
  refine Act.keeps_bind (Turn.keeps_take hn ha c.settings _) fun r => ?_
  rcases r with e | ⟨t, s'⟩
  · exact Act.keeps_pure _
  · cases t with
    | acted a => exact Act.keeps_bind (keeps_restFor hs hr _) fun _ => Act.keeps_pure _
    | _ => exact Act.keeps_pure _

theorem keeps_cycles (patience : Nat) (s : LoopState) : Act.Keeps P (c.cycles patience s) := by
  induction patience generalizing s with
  | zero => exact Act.keeps_throw _
  | succ patience ih =>
    refine Act.keeps_bind (keeps_cycle hn ha hs hr s) fun r => ?_
    rcases r with ⟨e | t, s'⟩
    · exact Act.keeps_pure _
    · refine Act.keeps_bind (Act.keeps_bind hs fun _ => Act.keeps_pure _) fun b => ?_
      by_cases hb : b = true
      · simp only [hb, if_true]
        exact ih s'
      · simp only [hb]
        exact Act.keeps_pure _

include hc

theorem keeps_run (patience : Nat) (s : LoopState) : Act.Keeps P (c.run patience s) := by
  refine Act.keeps_bind (hn _) fun _ => ?_
  refine Act.keeps_bind (keeps_cycles hn ha hs hr patience s) fun r => ?_
  rcases r with ⟨e | t, s'⟩
  · exact Act.keeps_pure _
  · refine Act.keeps_bind ?_ fun _ => Act.keeps_pure _
    refine Act.keeps_bind hs fun stopped => ?_
    by_cases h : stopped = true
    · simp only [h, if_true]
      refine Act.keeps_bind hc fun cause => ?_
      cases cause <;> exact hn _
    · simp only [h]
      exact hn _

end

end Controller

/-! ## (2) The state of the loop -/

/-- A turn changes nothing of the state but whether the next sample is to be ignored. -/
theorem Turn.state_of_fits {settings : Settings} {s s' : LoopState} {calls : List Call} {t : Turn} {f : Turn.Form}
    (h : f.Fits settings s calls (.ok (t, s'))) : ∃ ignore, s' = { s with ignoreNext := ignore } := by
  cases f with
  | waited =>
    obtain ⟨a, -, h⟩ := h
    rcases a with e | (_ | _ | _) <;> cases h
    exact ⟨_, rfl⟩
  | sampled =>
    obtain ⟨a, -, h⟩ := h
    cases a <;> simp only [Turn.afterRead] at h <;> split at h <;> cases h <;> exact ⟨_, rfl⟩
  | carried =>
    obtain ⟨n, rest, -, -, h⟩ := h
    cases h with
    | @acted _ _ _ _ _ ignore _ _ _ => cases ignore <;> exact ⟨_, rfl⟩

section

variable {W : Type} [Journal (Act W)] (rig : Rig (Act W)) (settings : Settings)

theorem Turn.state_take (s : LoopState) :
    Act.Yields (fun r => ∀ t s', r = .ok (t, s') → ∃ ignore, s' = { s with ignoreNext := ignore })
      (Turn.take rig settings s).run := by
  intro w r v hr t s' h
  subst h
  obtain ⟨f, hf⟩ := Turn.fits_of_ok rig hr
  exact Turn.state_of_fits hf

theorem Turn.released_step (s : LoopState) :
    Act.Yields (fun r => r.2.released = s.released) (Turn.step rig settings s) := by
  refine Act.yields_bind (Turn.state_take rig settings s) fun r hr => Act.yields_pure ?_
  rcases r with e | ⟨t, s'⟩
  · rfl
  · obtain ⟨ignore, rfl⟩ := hr t s' rfl
    rfl

end

namespace Controller

variable {W : Type} [Journal (Act W)] (c : Controller (Act W))

/-- A cycle takes one off the count of turns, and like a turn it changes nothing else for good. -/
theorem state_cycle (s : LoopState) :
    Act.Yields (fun r => ∃ ignore, r.2 = { s.beginTurn with ignoreNext := ignore }) (c.cycle s) := by
  refine Act.yields_bind (Turn.state_take c.rig c.settings s.beginTurn) fun r hr => ?_
  rcases r with e | ⟨t, s'⟩
  · exact Act.yields_pure ⟨s.ignoreNext, rfl⟩
  · have h := hr t s' rfl
    cases t with
    | acted a => exact Act.yields_of_next fun _ => Act.yields_pure h
    | _ => exact Act.yields_pure h

theorem released_cycle (s : LoopState) : Act.Yields (fun r => r.2.released = s.released) (c.cycle s) := by
  intro w r v h
  obtain ⟨ignore, hr⟩ := state_cycle c s w r v h
  rw [hr]
  rfl

theorem released_cycles (patience : Nat) (s : LoopState) :
    Act.Yields (fun r => r.2.released = s.released) (c.cycles patience s) := by
  induction patience generalizing s with
  | zero => exact Act.yields_throw _
  | succ patience ih =>
    refine Act.yields_bind (released_cycle c s) fun r hr => ?_
    rcases r with ⟨e | t, s'⟩
    · exact Act.yields_pure hr
    · refine Act.yields_of_next fun b => ?_
      by_cases hb : b = true
      · simp only [hb, if_true]
        have h := ih s'
        rwa [hr] at h
      · simp only [hb]
        exact Act.yields_pure hr

theorem released_run (patience : Nat) (s : LoopState) :
    Act.Yields (fun r => r.2.released = s.released) (c.run patience s) := by
  refine Act.yields_of_next fun _ => Act.yields_bind (released_cycles c patience s) fun r hr => ?_
  rcases r with ⟨e | t, s'⟩
  · exact Act.yields_pure hr
  · exact Act.yields_of_next fun _ => Act.yields_pure hr

end Controller

end ClockDiscipline
