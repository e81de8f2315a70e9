/-
  ClockDiscipline.Proofs.Laps — a run of the loop, lap by lap.

  A lap is a turn, counted before it is taken, with the rest that follows an action and
  the look at the stop flag between turns. A lap whose turn fails ends with the turn. Laps
  follow each other for as long as no turn fails, no stop is seen, and turns are left.

  Proved:
  (1) The timeline of every run, on every controller and in every world, is the laps of a
      run and a last look, or begins such a one where something halts (`follows_run`).
  (2) A lap begins with the one wait of its turn (`Lap.Taken.begins_with_wait`), and of
      the laps of a run each but the first comes right after a look that saw no stop
      (`Laps.wait_of_split`).
  (3) A lap takes one off the count of turns (`Lap.Taken.turns_eq`).
-/

import ClockDiscipline.Proofs.RunKept
import ClockDiscipline.Proofs.Timeline

namespace ClockDiscipline.Timeline

/-- A turn and what follows it before the next. -/
structure Lap where
  /-- The state that the turn was taken in. -/
  state : LoopState
  calls : List Call
  outcome : Except Error (Turn × LoopState)
  rest : List Event
  /-- How the stop flag was seen after it. -/
  stopped : Bool

namespace Lap

/-- The look between turns, which a turn that failed is not followed by. -/
def look (l : Lap) : List Event :=
  match l.outcome with
  | .error _ => []
  | .ok _ => [.looking, .looked l.stopped]

def events (l : Lap) : List Event := l.calls.flatMap ends ++ l.rest ++ l.look

def Completed (l : Lap) : Prop := ∃ t s, l.outcome = .ok (t, s)

/-- Whether it can be the lap that begins in a state of the loop. -/
structure Taken {m : Type → Type} (rig : Rig m) (settings : Settings) (s : LoopState) (l : Lap) : Prop where
  state : l.state = s.beginTurn
  path : (Turn.take rig.script settings l.state).run.Path l.calls l.outcome
  rest : ∀ e ∈ l.rest, e.IsRest
  /-- The loop rests after an action only. -/
  rest_nil : (∀ a s, l.outcome ≠ .ok (.acted a, s)) → l.rest = []

end Lap

/-- The laps of a run from a state of the loop, and what the run answers. -/
inductive Laps {m : Type → Type} (rig : Rig m) (settings : Settings) :
    LoopState → List Lap → Except Error Unit × LoopState → Prop where
  | fails {s : LoopState} {l : Lap} {e : Error} (h : l.Taken rig settings s) (ho : l.outcome = .error e) :
      Laps rig settings s [l] (.error e, l.state)
  | leaves {s s' : LoopState} {l : Lap} {t : Turn} (h : l.Taken rig settings s) (ho : l.outcome = .ok (t, s'))
      (hl : l.stopped = true ∨ s'.exhausted = true) : Laps rig settings s [l] (.ok (), s')
  | goesOn {s s' : LoopState} {l : Lap} {t : Turn} {laps : List Lap} {r : Except Error Unit × LoopState}
      (h : l.Taken rig settings s) (ho : l.outcome = .ok (t, s')) (hs : l.stopped = false)
      (hx : s'.exhausted = false) (hr : Laps rig settings s' laps r) : Laps rig settings s (l :: laps) r

/-- What a run looks at after its laps. -/
def Closing : Except Error Unit → List Event → Prop
  | .error _, es => es = []
  | .ok (), es => ∃ stopped, es = [.looking, .looked stopped]

/-! ## (1) The timeline of a run -/

theorem exists_laps {m : Type → Type} (rig : Rig m) (settings : Settings) (s : LoopState) :
    ∃ laps r, Laps rig settings s laps r := by
  obtain ⟨calls, r, h⟩ := Talk.exists_path (Turn.take rig.script settings s.beginTurn).run
  have ht : (⟨s.beginTurn, calls, r, [], true⟩ : Lap).Taken rig settings s :=
    ⟨rfl, h, fun e he => absurd he List.not_mem_nil, fun _ => rfl⟩
  rcases r with e | ⟨t, s'⟩
  · exact ⟨_, _, .fails ht rfl⟩
  · exact ⟨_, _, .leaves ht rfl (Or.inl rfl)⟩

/-- What may come after a turn that ended so, and what the run answers then. -/
def Onward {m : Type → Type} (rig : Rig m) (settings : Settings) :
    Except Error Turn × LoopState → List Event → Except Error Unit × LoopState → Prop
  | (.error e, s), es, r => es = [] ∧ r = (.error e, s)
  | (.ok _, s), es, r => ∃ stopped more, es = [.looking, .looked stopped] ++ more ∧
      if stopped = false ∧ s.exhausted = false then
        ∃ laps, Laps rig settings s laps r ∧ more = laps.flatMap Lap.events
      else more = [] ∧ r = (.ok (), s)

theorem laps_of_onward {m : Type → Type} {rig : Rig m} {settings : Settings} {s : LoopState} {l : Lap}
    {es : List Event} {r : Except Error Unit × LoopState} (hl : l.Taken rig settings s)
    (h : Onward rig settings (Turn.settle l.state l.outcome) es r) :
    ∃ laps, Laps rig settings s laps r ∧ l.calls.flatMap ends ++ l.rest ++ es = laps.flatMap Lap.events := by
  cases ho : l.outcome with
  | error e =>
    rw [ho] at h
    obtain ⟨rfl, rfl⟩ := h
    exact ⟨[l], .fails hl ho, by simp [Lap.events, Lap.look, ho]⟩
  | ok a =>
    obtain ⟨t, s'⟩ := a
    rw [ho] at h
    obtain ⟨stopped, more, rfl, h⟩ := h
    -- The look is part of the lap.
    have hl' : ({ l with stopped } : Lap).Taken rig settings s := ⟨hl.state, hl.path, hl.rest, hl.rest_nil⟩
    have he : ({ l with stopped } : Lap).events = l.calls.flatMap ends ++ l.rest ++ [.looking, .looked stopped] := by
      simp [Lap.events, Lap.look, ho]
    by_cases hg : stopped = false ∧ s'.exhausted = false
    · rw [if_pos hg] at h
      obtain ⟨laps, hr, rfl⟩ := h
      refine ⟨_, .goesOn hl' ho hg.1 hg.2 hr, ?_⟩
      rw [List.flatMap_cons, he]
      simp only [List.append_assoc]
    · rw [if_neg hg] at h
      obtain ⟨rfl, rfl⟩ := h
      refine ⟨[{ l with stopped }], .leaves hl' ho ?_, ?_⟩
      · simpa only [Decidable.not_and_iff_or_not, Bool.not_eq_false] using hg
      · rw [List.flatMap_cons, he]
        simp only [List.flatMap_nil, List.append_nil]

section

variable {W : Type} [Journal (Act W)] (c : Controller (Act W))

theorem follows_cycle (s : LoopState) :
    Follows ((controller c).cycle s) (c.cycle s) (fun es r => ∃ l : Lap, l.Taken c.rig c.settings s ∧
      es = l.calls.flatMap ends ++ l.rest ∧ r = Turn.settle l.state l.outcome) := by
  refine (Follows.bind (follows_take c.rig c.settings s.beginTurn) (Q := fun o es r => (∀ e ∈ es, e.IsRest) ∧
    ((∀ a s, o ≠ .ok (.acted a, s)) → es = []) ∧ r = Turn.settle s.beginTurn o) fun o => ?_).weaken fun es r h => ?_
  · rcases o with e | ⟨t, s'⟩
    · refine (Follows.pure _).weaken fun es r h => ?_
      obtain ⟨rfl, rfl⟩ := h
      exact ⟨fun e he => absurd he List.not_mem_nil, fun _ => rfl, rfl⟩
    · cases t with
      | acted a =>
        refine (Follows.bind (follows_restFor c _) fun _ => Follows.pure _).weaken fun es r h => ?_
        obtain ⟨_, first, second, rfl, h, rfl, rfl⟩ := h
        rw [List.append_nil]
        exact ⟨h, fun hn => absurd rfl (hn a s'), rfl⟩
      | _ =>
        refine (Follows.pure _).weaken fun es r h => ?_
        obtain ⟨rfl, rfl⟩ := h
        exact ⟨fun e he => absurd he List.not_mem_nil, fun _ => rfl, rfl⟩
  · obtain ⟨o, first, rest, rfl, ⟨calls, hp, rfl⟩, hr, hn, rfl⟩ := h
    exact ⟨⟨s.beginTurn, calls, o, rest, false⟩, ⟨rfl, hp, hr, hn⟩, rfl, rfl⟩

theorem follows_cycles (patience : Nat) (s : LoopState) :
    Follows ((controller c).cycles patience s) (c.cycles patience s)
      (fun es r => ∃ laps, Laps c.rig c.settings s laps r ∧ es = laps.flatMap Lap.events) := by
  induction patience generalizing s with
  | zero =>
    obtain ⟨laps, r, h⟩ := exists_laps c.rig c.settings s
    exact Follows.throw _ ⟨_, r, laps, h, rfl⟩
  | succ patience ih =>
    refine (Follows.bind (follows_cycle c s) (Q := Onward c.rig c.settings) fun o => ?_).weaken fun es r h => ?_
    · rcases o with ⟨e | t, s'⟩
      · exact (Follows.pure _).weaken fun es r h => h
      · refine (Follows.bind (follows_keepsRunning c s') (Q := fun b es r =>
          if b = true then ∃ laps, Laps c.rig c.settings s' laps r ∧ es = laps.flatMap Lap.events
          else es = [] ∧ r = (.ok (), s')) fun b => ?_).weaken fun es r h => ?_
        · cases b with
          | true => exact ih s'
          | false => exact Follows.pure _
        · obtain ⟨b, first, second, rfl, ⟨stopped, rfl, rfl⟩, h⟩ := h
          refine ⟨stopped, second, rfl, ?_⟩
          simpa only [Bool.and_eq_true, Bool.not_eq_true'] using h
    · obtain ⟨o, first, second, rfl, ⟨l, hl, rfl, rfl⟩, h⟩ := h
      exact laps_of_onward hl h

theorem follows_farewell :
    Follows (controller c).farewell c.farewell (fun es _ => ∃ stopped, es = [.looking, .looked stopped]) := by
  refine (Follows.bind (follows_requested c) (Q := fun _ es _ => es = []) fun stopped => ?_).weaken fun es _ h => ?_
  · by_cases hs : stopped = true
    · simp only [hs, if_true]
      refine (Follows.bind (Follows.aside c.stop.cause) (Q := fun _ es _ => es = []) fun cause => ?_).weaken
        fun es _ h => ?_
      · cases cause <;> exact Follows.aside _
      · obtain ⟨_, first, second, rfl, rfl, rfl⟩ := h
        rfl
    · simp only [hs]
      exact Follows.aside _
  · obtain ⟨stopped, first, second, rfl, rfl, rfl⟩ := h
    exact ⟨stopped, rfl⟩

theorem follows_run (patience : Nat) (s : LoopState) :
    Follows ((controller c).run patience s) (c.run patience s) (fun es r => ∃ laps closing,
      Laps c.rig c.settings s laps r ∧ Closing r.1 closing ∧ es = laps.flatMap Lap.events ++ closing) := by
  refine (Follows.bind (Follows.aside (Journal.info .loop "Starting main loop")) fun _ =>
    Follows.bind (follows_cycles c patience s) (Q := fun o es r => o = r ∧ Closing r.1 es) fun o => ?_).weaken
    fun es r h => ?_
  · rcases o with ⟨e | _, s'⟩
    · refine (Follows.pure _).weaken fun es r h => ?_
      obtain ⟨rfl, rfl⟩ := h
      exact ⟨rfl, rfl⟩
    · refine (Follows.bind (follows_farewell c) fun _ => Follows.pure _).weaken fun es r h => ?_
      obtain ⟨_, first, second, rfl, h, rfl, rfl⟩ := h
      rw [List.append_nil]
      exact ⟨rfl, h⟩
  · obtain ⟨_, first, second, rfl, rfl, o, third, closing, rfl, ⟨laps, h, rfl⟩, rfl, hc⟩ := h
    exact ⟨laps, closing, h, hc, rfl⟩

variable {c} in
theorem laps_of_run {patience : Nat} {s : LoopState} {w : W} {r : Except Error Unit × LoopState} {v : World W}
    (h : (controller c).run patience s ⟨[], w⟩ = .ok r v) : ∃ laps closing, Laps c.rig c.settings s laps r ∧
      Closing r.1 closing ∧ events v = laps.flatMap Lap.events ++ closing := by
  obtain ⟨-, es, he, laps, closing, hl, hc, rfl⟩ := (follows_run c patience s).ok h
  exact ⟨laps, closing, hl, hc, he⟩

/-- However a run ends, its timeline begins that of a run by laps. -/
theorem laps_after_run (patience : Nat) (s : LoopState) (w : W) : ∃ more laps closing r,
    Laps c.rig c.settings s laps r ∧ Closing r.1 closing ∧
      events (Act.after ((controller c).run patience s) ⟨[], w⟩) ++ more = laps.flatMap Lap.events ++ closing := by
  cases hr : (controller c).run patience s ⟨[], w⟩ with
  | ok r v =>
    obtain ⟨laps, closing, hl, hc, he⟩ := laps_of_run hr
    rw [Act.after_of_ok hr]
    exact ⟨[], laps, closing, r, hl, hc, by rw [List.append_nil, he]⟩
  | error e v =>
    obtain ⟨-, es, more, r, he, laps, closing, hl, hc, hw⟩ := (follows_run c patience s).halt hr
    rw [Act.after_of_error hr]
    refine ⟨more, laps, closing, r, hl, hc, ?_⟩
    rw [he, ← hw]
    rfl

end

/-! ## (2) Waits -/

/-- Whether a turn begins to wait for an edge. -/
def Event.isWait : Event → Bool
  | .asked (.wait _) => true
  | _ => false

theorem isWait_of_isRest {e : Event} (h : e.IsRest) : e.isWait = false := by
  cases e with
  | asked q => exact h.elim
  | _ => rfl

theorem isWait_of_closing {r : Except Error Unit} {es : List Event} (h : Closing r es) : ∀ e ∈ es, e.isWait = false := by
  rcases r with e | _
  · rw [show es = [] from h]
    exact fun e he => absurd he List.not_mem_nil
  · obtain ⟨stopped, rfl⟩ := h
    simp [Event.isWait]

theorem isWait_of_ends {calls : List Call} (h : ∀ c ∈ calls, ∀ t, c.ask ≠ .wait t) :
    ∀ e ∈ calls.flatMap ends, e.isWait = false := by
  intro e he
  obtain ⟨c, hc, he⟩ := List.mem_flatMap.mp he
  rcases List.mem_cons.mp he with rfl | he
  · cases hq : c.ask with
    | wait t => exact absurd hq (h c hc t)
    | _ => rfl
  · rw [List.mem_singleton.mp he]
    rfl

theorem not_wait_of_reading {calls : List Call} {q : Except Error Readout} (h : Reading calls q) :
    ∀ c ∈ calls, ∀ t, c.ask ≠ .wait t := by
  cases h <;> simp

theorem not_wait_of_correcting {p : Polarity} {o : ControlOutput} {calls : List Call} {b : Except Error Bool}
    (h : Correcting p o calls b) : ∀ c ∈ calls, ∀ t, c.ask ≠ .wait t := by
  cases h <;> simp

theorem not_wait_of_acting {settings : Settings} {s : LoopState} {n : Int32} {calls : List Call}
    {r : Except Error (Turn × LoopState)} (h : Acting settings s n calls r) : ∀ c ∈ calls, ∀ t, c.ask ≠ .wait t := by
  cases h with
  | unread h => exact not_wait_of_reading h
  | undecided h y =>
    rw [List.forall_mem_append, List.forall_mem_singleton]
    exact ⟨not_wait_of_reading h, fun t ht => (by cases ht)⟩
  | failed h h' | acted h h' =>
    rw [List.forall_mem_append, List.forall_mem_cons]
    exact ⟨not_wait_of_reading h, fun t ht => (by cases ht), not_wait_of_correcting h'⟩

/-- A turn waits first, and not again. -/
theorem wait_of_path {m : Type → Type} {rig : Rig m} {settings : Settings} {s : LoopState} {calls : List Call}
    {r : Except Error (Turn × LoopState)} (h : (Turn.take rig.script settings s).run.Path calls r) : ∃ a more,
    calls = ⟨.wait settings.ppsTimeout, a⟩ :: more ∧ ∀ c ∈ more, ∀ t, c.ask ≠ .wait t := by
  obtain ⟨f, hf⟩ := Turn.fits_of_path rig h
  cases f with
  | waited =>
    obtain ⟨a, hc, -⟩ := hf
    exact ⟨a, [], hc, by simp⟩
  | sampled =>
    obtain ⟨a, hc, -⟩ := hf
    exact ⟨_, _, hc, by simp⟩
  | carried =>
    obtain ⟨n, more, hc, -, ha⟩ := hf
    refine ⟨_, _, hc, ?_⟩
    rw [List.forall_mem_cons]
    exact ⟨fun t ht => (by cases ht), not_wait_of_acting ha⟩

section

variable {m : Type → Type} {rig : Rig m} {settings : Settings} {s : LoopState} {laps : List Lap}
  {r : Except Error Unit × LoopState}

/-- A run answers what its last turn did. -/
theorem Laps.answer_eq (h : Laps rig settings s laps r) :
    ∃ l, laps.getLast? = some l ∧ r.1 = l.outcome.map fun _ => () := by
  induction h with
  | fails _ ho | leaves _ ho => exact ⟨_, List.getLast?_singleton, by rw [ho]; rfl⟩
  | goesOn _ _ _ _ _ ih =>
    obtain ⟨last, hlast, hr⟩ := ih
    exact ⟨last, by rw [List.getLast?_cons, hlast]; rfl, hr⟩

theorem Lap.Taken.begins_with_wait {l : Lap} (h : l.Taken rig settings s) : ∃ rest,
    l.events = .asked (.wait settings.ppsTimeout) :: rest ∧ ∀ e ∈ rest, e.isWait = false := by
  have hlook : ∀ e ∈ l.look, e.isWait = false := by
    unfold Lap.look
    split <;> simp [Event.isWait]
  obtain ⟨a, more, hc, hm⟩ := wait_of_path h.path
  refine ⟨.answered ⟨.wait settings.ppsTimeout, a⟩ :: (more.flatMap ends ++ l.rest ++ l.look), ?_, fun e he => ?_⟩
  · rw [Lap.events, hc]
    rfl
  · rcases List.mem_cons.mp he with rfl | he
    · rfl
    rcases List.mem_append.mp he with he | he
    · rcases List.mem_append.mp he with he | he
      · exact isWait_of_ends hm e he
      · exact isWait_of_isRest (h.rest e he)
    · exact hlook e he

/-- A lap waits once. -/
theorem Lap.Taken.countP_isWait {l : Lap} (h : l.Taken rig settings s) : l.events.countP Event.isWait = 1 := by
  obtain ⟨rest, he, hr⟩ := h.begins_with_wait
  have hn : rest.countP Event.isWait = 0 := List.countP_eq_zero.mpr fun e he => by simp [hr e he]
  rw [he, List.countP_cons_of_pos rfl, hn]

theorem Laps.countP_isWait (h : Laps rig settings s laps r) :
    (laps.flatMap Lap.events).countP Event.isWait = laps.length := by
  induction h with
  | fails h | leaves h => rw [List.flatMap_singleton, h.countP_isWait]; rfl
  | goesOn h _ _ _ _ ih => rw [List.flatMap_cons, List.countP_append, h.countP_isWait, ih, List.length_cons, Nat.add_comm]

/-- Where a wait is found among the events of a lap and what follows it. -/
theorem Lap.Taken.wait_of_split {l : Lap} (h : l.Taken rig settings s) {more before after : List Event} {t : Span}
    (hs : l.events ++ more = before ++ .asked (.wait t) :: after) :
    before = [] ∨ ∃ between, before = l.events ++ between ∧ more = between ++ .asked (.wait t) :: after := by
  obtain ⟨rest, he, hr⟩ := h.begins_with_wait
  rcases List.append_eq_append_iff.mp hs with ⟨between, hb, hm⟩ | ⟨between, hl, hm⟩
  · exact Or.inr ⟨between, hb, hm⟩
  cases between with
  | nil => exact Or.inr ⟨[], by simpa using hl.symm, hm.symm⟩
  | cons e between =>
    cases hm
    cases before with
    | nil => exact Or.inl rfl
    | cons x before =>
      -- The lap has no second wait.
      rw [he, List.cons_append] at hl
      cases hl
      have := hr (.asked (.wait t)) (List.mem_append_right _ List.mem_cons_self)
      cases this

theorem Laps.wait_of_split (h : Laps rig settings s laps r) {closing before after : List Event} {t : Span}
    (hc : ∀ e ∈ closing, e.isWait = false)
    (hs : laps.flatMap Lap.events ++ closing = before ++ .asked (.wait t) :: after) :
    before = [] ∨ ∃ earlier, before = earlier ++ [.looking, .looked false] := by
  induction h generalizing before with
  | fails h | leaves h =>
    rw [List.flatMap_singleton] at hs
    rcases h.wait_of_split hs with hb | ⟨between, -, hm⟩
    · exact Or.inl hb
    · have := hc (.asked (.wait t)) (hm ▸ List.mem_append_right _ List.mem_cons_self)
      cases this
  | @goesOn s s' l t' laps r h ho hl hx hr ih =>
    rw [List.flatMap_cons, List.append_assoc] at hs
    rcases h.wait_of_split hs with hb | ⟨between, rfl, hm⟩
    · exact Or.inl hb
    have he : l.events = l.calls.flatMap ends ++ l.rest ++ [.looking, .looked false] := by
      simp [Lap.events, Lap.look, ho, hl]
    rcases ih hm with rfl | ⟨earlier, rfl⟩
    · exact Or.inr ⟨_, by rw [List.append_nil, he]⟩
    · exact Or.inr ⟨l.events ++ earlier, (List.append_assoc ..).symm⟩

end

/-! ## (3) The count of turns -/

/-- The turn of a lap leaves the count alone. -/
theorem Lap.Taken.turns_eq {m : Type → Type} {rig : Rig m} {settings : Settings} {s s' : LoopState} {l : Lap} {t : Turn}
    (h : l.Taken rig settings s) (ho : l.outcome = .ok (t, s')) : s'.turns = s.turns - 1 := by
  have hp := h.path
  rw [ho] at hp
  obtain ⟨f, hf⟩ := Turn.fits_of_path rig hp
  obtain ⟨ignore, rfl⟩ := Turn.state_of_fits hf
  rw [h.state]
  rfl

end ClockDiscipline.Timeline
