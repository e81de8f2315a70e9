/-
  ClockDiscipline.Proofs.TurnCount — how many turns a bound lets run.

  The count goes down by one before each turn and ends the loop at 1. From `N` that is
  `N - 1` turns, whatever they answer; from 0 and from 1 the count wraps around first. It
  is a word of 32 bits, so that it comes to 1 in the end from wherever it started.

  Proved:
  (1) What the count lets run, and that one turn takes one off it (`allowance_eq`); where
      it is used up after `k` turns (`exhausted_counted_iff`).
  (2) A run makes at most as many laps, ends by its count exactly after that many, and
      ends with the first turn that fails (`Laps.countsDown`). Where everything answers, it
      ends (`answers_cycles`).
  (3) A bound of `N` lets `N - 1` turns run (`a_bound_lets_one_turn_less_run`). From 0 the
      count lets 4294967295 turns run, which is many but not without end
      (`a_count_from_zero_runs_out`, `the_count_from_zero_is_not_endless`).
-/

import ClockDiscipline.Proofs.Answering
import ClockDiscipline.Proofs.Laps

namespace ClockDiscipline

/-! ## (1) The count -/

namespace LoopState

/-- How many turns the count lets run. -/
def allowance (s : LoopState) : Nat := (s.turns - 2).toNat + 1

/-- The state after this many turns were counted. -/
def counted (s : LoopState) (k : Nat) : LoopState := Nat.repeat beginTurn k s

theorem allowance_start {n : UInt32} (h : 2 ≤ n) : (start n).allowance = n.toNat - 1 := by
  rw [UInt32.le_iff_toNat_le] at h
  have hn := n.toNat_lt
  simp only [allowance, start, UInt32.toNat_sub, UInt32.reduceToNat, Nat.reducePow, Nat.reduceSub] at h ⊢
  omega

variable {s s' : LoopState} (h : s'.turns = s.turns - 1)

include h

/-- The last turn is the one that is let run alone. -/
theorem exhausted_iff : s'.exhausted = true ↔ s.allowance = 1 := by
  have hs := s.turns.toNat_lt
  simp only [exhausted, allowance, beq_iff_eq, h, ← UInt32.toNat_inj, UInt32.toNat_sub, UInt32.reduceToNat,
    Nat.reducePow]
  omega

theorem allowance_eq (hx : s'.exhausted = false) : s.allowance = s'.allowance + 1 := by
  have hs := s.turns.toNat_lt
  simp only [exhausted, beq_eq_false_iff_ne, ne_eq, h, ← UInt32.toNat_inj, UInt32.toNat_sub, UInt32.reduceToNat,
    Nat.reducePow] at hx
  simp only [allowance, h, UInt32.toNat_sub, UInt32.reduceToNat, Nat.reducePow]
  omega

omit h

theorem counted_eq (s : LoopState) (k : Nat) : s.counted k = { s with turns := s.turns - UInt32.ofNat k } := by
  induction k with
  | zero => simp [counted, Nat.repeat]
  | succ k ih =>
    have hk : s.counted (k + 1) = (s.counted k).beginTurn := rfl
    have ht : s.turns - UInt32.ofNat k - 1 = s.turns - UInt32.ofNat (k + 1) := by
      rw [UInt32.ofNat_add, ← UInt32.toNat_inj]
      simp only [UInt32.toNat_add, UInt32.toNat_sub, UInt32.toNat_ofNat', UInt32.ofNat_one, UInt32.reduceToNat,
        Nat.reducePow]
      omega
    rw [hk, ih, beginTurn, ht]

/-- A count comes to its end over and over again, once in 4294967296 turns. -/
theorem exhausted_counted_iff (s : LoopState) (k : Nat) :
    (s.counted k).exhausted = true ↔ (k + 1) % 4294967296 = s.turns.toNat := by
  have hs := s.turns.toNat_lt
  rw [counted_eq, exhausted, beq_iff_eq, ← UInt32.toNat_inj, UInt32.toNat_sub]
  simp only [UInt32.toNat_ofNat', UInt32.reduceToNat, Nat.reducePow]
  omega

end LoopState

/-! ## (2) Laps -/

namespace Timeline

/-- What a run makes of a count that lets this many turns run. -/
structure CountsDown (allowed : Nat) (laps : List Lap) (r : Except Error Unit × LoopState) : Prop where
  at_most : laps.length ≤ allowed
  /-- The count ends the run exactly where all of the turns were completed and no stop was seen between two of
      them. -/
  ran_out_iff : r.1 = .ok () ∧ r.2.exhausted = true ↔
    laps.length = allowed ∧ (∀ l ∈ laps, l.Completed) ∧ ∀ l ∈ laps.dropLast, l.stopped = false
  stopped_of_fewer : r.1 = .ok () → laps.length < allowed → ∃ l, laps.getLast? = some l ∧ l.stopped = true
  /-- The first turn that fails is the last one, and its error is the answer. -/
  answer_of_failed : ∀ k l e, laps[k]? = some l → l.outcome = .error e → r.1 = .error e ∧ laps.length = k + 1
  failed_of_answer : ∀ e, r.1 = .error e → ∃ l, laps.getLast? = some l ∧ l.outcome = .error e

section

variable {m : Type → Type} {rig : Rig m} {settings : Settings} {s : LoopState} {laps : List Lap}
  {r : Except Error Unit × LoopState}

theorem Laps.length_pos (h : Laps rig settings s laps r) : 0 < laps.length := by
  cases h <;> simp

theorem Laps.length_le (h : Laps rig settings s laps r) : laps.length ≤ s.allowance := by
  induction h with
  | fails | leaves => simp [LoopState.allowance]
  | goesOn h ho _ hx _ ih =>
    rw [LoopState.allowance_eq (h.turns_eq ho) hx, List.length_cons]
    omega

theorem Laps.ran_out_iff (h : Laps rig settings s laps r) : r.1 = .ok () ∧ r.2.exhausted = true ↔
    laps.length = s.allowance ∧ (∀ l ∈ laps, l.Completed) ∧ ∀ l ∈ laps.dropLast, l.stopped = false := by
  induction h with
  | @fails s l e h ho =>
    refine iff_of_false (fun h => by cases h.1) fun ⟨_, hc, _⟩ => ?_
    obtain ⟨t, s', hc⟩ := hc l List.mem_cons_self
    rw [ho] at hc
    cases hc
  | @leaves s s' l t h ho hl =>
    have hc : l.Completed := ⟨t, s', ho⟩
    have hx := LoopState.exhausted_iff (h.turns_eq ho)
    constructor
    · rintro ⟨-, hr⟩
      exact ⟨(hx.mp hr).symm, by simpa using hc, by simp⟩
    · rintro ⟨hl, -, -⟩
      exact ⟨rfl, hx.mpr hl.symm⟩
  | @goesOn s s' l t laps r h ho hs hx hr ih =>
    have hc : l.Completed := ⟨t, s', ho⟩
    have hd : (l :: laps).dropLast = l :: laps.dropLast := List.dropLast_cons_of_ne_nil (List.ne_nil_of_length_pos hr.length_pos)
    rw [ih, LoopState.allowance_eq (h.turns_eq ho) hx, hd]
    simp [hc, hs]

theorem Laps.stopped_of_fewer (h : Laps rig settings s laps r) (hr : r.1 = .ok ()) (hl : laps.length < s.allowance) :
    ∃ l, laps.getLast? = some l ∧ l.stopped = true := by
  induction h with
  | fails => cases hr
  | @leaves s s' l t h ho hs =>
    rcases hs with hs | hs
    · exact ⟨l, rfl, hs⟩
    · rw [(LoopState.exhausted_iff (h.turns_eq ho)).mp hs] at hl
      exact absurd hl (Nat.lt_irrefl 1)
  | @goesOn s s' l t laps r h ho hs hx h' ih =>
    rw [LoopState.allowance_eq (h.turns_eq ho) hx, List.length_cons] at hl
    obtain ⟨last, hlast, hstop⟩ := ih hr (by omega)
    exact ⟨last, by rw [List.getLast?_cons, hlast]; rfl, hstop⟩

theorem Laps.answer_of_failed (h : Laps rig settings s laps r) {k : Nat} {l : Lap} {e : Error}
    (hk : laps[k]? = some l) (he : l.outcome = .error e) : r.1 = .error e ∧ laps.length = k + 1 := by
  induction h generalizing k with
  | fails h ho =>
    cases k with
    | zero =>
      cases hk
      rw [ho] at he
      cases he
      exact ⟨rfl, rfl⟩
    | succ k => cases hk
  | leaves h ho =>
    cases k with
    | zero =>
      cases hk
      rw [ho] at he
      cases he
    | succ k => cases hk
  | goesOn h ho _ _ _ ih =>
    cases k with
    | zero =>
      cases hk
      rw [ho] at he
      cases he
    | succ k =>
      obtain ⟨hr, hl⟩ := ih hk
      exact ⟨hr, by rw [List.length_cons, hl]⟩

theorem Laps.failed_of_answer (h : Laps rig settings s laps r) {e : Error} (hr : r.1 = .error e) :
    ∃ l, laps.getLast? = some l ∧ l.outcome = .error e := by
  obtain ⟨l, hl, ho⟩ := h.answer_eq
  refine ⟨l, hl, ?_⟩
  rw [hr] at ho
  cases hlo : l.outcome with
  | error x =>
    rw [hlo] at ho
    cases ho
    rfl
  | ok a =>
    rw [hlo] at ho
    cases ho

theorem Laps.countsDown (h : Laps rig settings s laps r) : CountsDown s.allowance laps r where
  at_most := h.length_le
  ran_out_iff := h.ran_out_iff
  stopped_of_fewer := h.stopped_of_fewer
  answer_of_failed _ _ _ := h.answer_of_failed
  failed_of_answer _ := h.failed_of_answer

end

/-- What the timeline of a run shows of a count that lets this many turns run. A turn starts with its wait, also
    where the run halts. -/
def ShowsCount {W : Type} (c : Controller (Act W)) (s : LoopState) (allowed : Nat) :
    EStateM.Result Halt (World W) (Except Error Unit × LoopState) → Prop
  | .ok r v => ∃ laps closing, Laps c.rig c.settings s laps r ∧ events v = laps.flatMap Lap.events ++ closing ∧
      Closing r.1 closing ∧ (events v).countP Event.isWait = laps.length ∧ CountsDown allowed laps r
  | .error _ v => (events v).countP Event.isWait ≤ allowed

section

variable {W : Type} [Journal (Act W)] (c : Controller (Act W))

theorem showsCount_run (patience : Nat) (s : LoopState) (w : W) :
    ShowsCount c s s.allowance ((controller c).run patience s ⟨[], w⟩) := by
  have hwaits : ∀ {laps : List Lap} {closing : List Event} {r : Except Error Unit × LoopState},
      Laps c.rig c.settings s laps r → Closing r.1 closing →
      (laps.flatMap Lap.events ++ closing).countP Event.isWait = laps.length := by
    intro laps closing r hl hc
    have hn : closing.countP Event.isWait = 0 :=
      List.countP_eq_zero.mpr fun e he => by simp [isWait_of_closing hc e he]
    rw [List.countP_append, hl.countP_isWait, hn, Nat.add_zero]
  cases hr : (controller c).run patience s ⟨[], w⟩ with
  | ok r v =>
    obtain ⟨laps, closing, hl, hc, he⟩ := laps_of_run hr
    exact ⟨laps, closing, hl, he, hc, by rw [he, hwaits hl hc], hl.countsDown⟩
  | error e v =>
    obtain ⟨more, laps, closing, r, hl, hc, he⟩ := laps_after_run c patience s w
    rw [Act.after_of_error hr] at he
    have hle : (events v).countP Event.isWait ≤ laps.length := by
      rw [← hwaits hl hc, ← he, List.countP_append]
      exact Nat.le_add_right _ _
    exact Nat.le_trans hle hl.length_le

end

end Timeline

/-- Where everything answers, as much patience as turns are let run is enough. -/
theorem Controller.answers_cycles {W : Type} [Journal (Act W)] {c : Controller (Act W)} (hc : c.Responds)
    {patience : Nat} {s : LoopState} (hp : s.allowance ≤ patience) : Act.Answers (c.cycles patience s) := by
  induction patience generalizing s with
  | zero => simp [LoopState.allowance] at hp
  | succ patience ih =>
    refine Act.answers_bind_of_yields (answers_cycle hc s) (state_cycle c s) fun r hr => ?_
    rcases r with ⟨e | t, s'⟩
    · exact Act.answers_pure _
    have ht : s'.turns = s.turns - 1 := by
      obtain ⟨ignore, hr⟩ := hr
      exact congrArg LoopState.turns hr
    -- Another lap follows only where the count lets one more turn run.
    have hb : Act.Yields (fun b => b = true → s'.exhausted = false) (c.keepsRunning s') := by
      refine Act.yields_of_next fun stopped => Act.yields_pure fun h => ?_
      simpa using (Bool.and_eq_true_iff.mp h).2
    refine Act.answers_bind_of_yields (answers_keepsRunning hc s') hb fun b hb => ?_
    by_cases h : b = true
    · simp only [h, if_true]
      have := LoopState.allowance_eq ht (hb h)
      exact ih (by omega)
    · simp only [h]
      exact Act.answers_pure _

/-! ## (3) Bounds -/

section

variable {W : Type} [Journal (Act W)] (c : Controller (Act W)) (patience : Nat) (w : W)

/-- Whatever the collaborators do, a bound of `N` never lets an `N`-th turn start; it ends the run after `N - 1`
    turns that were completed, however they ended, if no stop was seen between them. The first turn that fails
    ends the run with its error, and no call follows. Where everything answers, the run ends. -/
theorem a_bound_lets_one_turn_less_run (hn : 2 ≤ c.settings.turns) :
    c.run patience (.start c.settings.turns) w =
        Timeline.forget ((Timeline.controller c).run patience (.start c.settings.turns) ⟨[], w⟩) ∧
      Timeline.ShowsCount c (.start c.settings.turns) (c.settings.turns.toNat - 1)
        ((Timeline.controller c).run patience (.start c.settings.turns) ⟨[], w⟩) ∧
      (c.Responds → c.settings.turns.toNat ≤ patience + 1 →
        ∃ r v, c.run patience (.start c.settings.turns) w = .ok r v) := by
  have ha : (LoopState.start c.settings.turns).allowance = c.settings.turns.toNat - 1 := LoopState.allowance_start hn
  refine ⟨(Timeline.follows_run c patience (.start c.settings.turns)).eq_forget ⟨[], w⟩, ?_, fun hc hp => ?_⟩
  · rw [← ha]
    exact Timeline.showsCount_run c patience (.start c.settings.turns) w
  · obtain ⟨_, u, hu⟩ := hc.note ⟨.info, .loop, "Starting main loop"⟩ w
    exact (Controller.run_answers_iff hc hu).mpr (Controller.answers_cycles hc (by omega) u)

end

/-- A wait cut short, an edge whose sample is not there, and an edge after them. -/
def countedStage : Rehearsal.Stage :=
  { Rehearsal.Stage.empty with script := ⟨[.interrupted, .readFails (.kind .wouldBlock), .sample 7], none, []⟩ }

def countedController : Controller (Act Rehearsal.Stage) := playedController { Settings.standard with turns := 3 }

theorem a_bound_of_three_lets_two_turns_run :
    (∃ r w, countedController.run 2 (.start 3) countedStage = .ok r w) ∧
    ∃ (v : Timeline.World Rehearsal.Stage) (laps : List Timeline.Lap) (closing : List Timeline.Event),
      (Timeline.controller countedController).run 2 (.start 3) ⟨[], countedStage⟩ = .ok (.ok (), ⟨1, false, false⟩) v ∧
      countedController.run 2 (.start 3) countedStage = .ok (.ok (), ⟨1, false, false⟩) v.others ∧
      Timeline.events v = laps.flatMap Timeline.Lap.events ++ closing ∧ laps.length = 2 ∧ (∀ l ∈ laps, l.Completed) ∧
      v.others.script.cues = [.sample 7] := by
  obtain ⟨hrun, hshows, hends⟩ := a_bound_lets_one_turn_less_run countedController 2 countedStage (by decide)
  refine ⟨hends (responds_played _) (by decide), ?_⟩
  have hs : (Timeline.controller countedController).run 2 (.start 3) ⟨[], countedStage⟩ =
      .ok (.ok (), ⟨1, false, false⟩) _ := rfl
  obtain ⟨laps, closing, hl, he, hc, hw, hcount⟩ : Timeline.ShowsCount _ _ _ (.ok _ _) := hs ▸ hshows
  obtain ⟨hlen, hdone, -⟩ := hcount.ran_out_iff.mp ⟨rfl, rfl⟩
  exact ⟨_, laps, closing, hs, hrun.trans (congrArg Timeline.forget hs), he, hlen, hdone, rfl⟩

section

variable {W : Type} [Journal (Act W)] (c : Controller (Act W)) (patience : Nat) (w : W)

/-- From 0 the count comes to its end after 4294967295 turns, and again after each 4294967296 more. It ends a run
    there and not before. -/
theorem a_count_from_zero_runs_out :
    (∀ k, ((LoopState.start 0).counted k).exhausted = true ↔ (k + 1) % 4294967296 = 0) ∧
      Timeline.ShowsCount c (.start 0) 4294967295 ((Timeline.controller c).run patience (.start 0) ⟨[], w⟩) :=
  ⟨LoopState.exhausted_counted_iff (.start 0), Timeline.showsCount_run c patience (.start 0) w⟩

end

/-- One turn before its end a count from 0 is a count from 2. -/
theorem the_count_from_zero_is_not_endless :
    (LoopState.start 0).counted 4294967294 = .start 2 ∧ ((LoopState.start 0).counted 4294967295).exhausted = true ∧
      ¬∀ k, 1 ≤ k → ((LoopState.start 0).counted k).exhausted = false := by
  have hx : ((LoopState.start 0).counted 4294967295).exhausted = true :=
    (LoopState.exhausted_counted_iff _ _).mpr (by decide)
  refine ⟨?_, hx, fun h => ?_⟩
  · rw [LoopState.counted_eq]
    decide
  · have := h 4294967295 (by decide)
    rw [hx] at this
    cases this

end ClockDiscipline
