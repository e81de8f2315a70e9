/-
  ClockDiscipline.Proofs.Handles — every handle that is taken is given back once.

  A life begins with the acquisition, around an oscillator that is there already. Where a
  step fails, what was taken before it is given back in reverse and the life is over. Else
  the controller is asked for turns, runs and to terminate, as often and in what order
  one likes and whatever they answer, and then goes out of use.

  Proved: (1) the whole log of an acquisition, for each step that can fail
  (`log_of_acquire`); (2) the log of a controller's life, but for its reads of the controls
  (`log_of_operate`); (3) what it is to have handled the handles well follows from the log
  (`handled_of_failure`, `handled_of_life`), so that every life does
  (`every_handle_is_given_back_once`).
-/

import ClockDiscipline.Proofs.HandleLog
import ClockDiscipline.Rehearsal.Stage

namespace ClockDiscipline.Handling

/-! ## (1) Acquisitions -/

/-- The handles that are held after these steps, in the order they were taken. -/
def taken (steps : List Step) : List Handle := .oscillator :: steps.filterMap Step.handle?

/-- What is in the log of an acquisition that failed at a step. -/
def failure (before : List Step) (s : Step) : List Event :=
  before.map .did ++ .failed s :: (taken before).reverse.map .released

section

variable {W α β γ ε : Type}

/-- What a computation adds to the log that gives handles back. -/
def Gives (hs : List Handle) (x : Act (World W) Unit) : Prop :=
  ∀ w v, x w = .ok () v → v.own = w.own ++ hs.map .released

theorem gives_releasing (h : Handle) (x : Act W Unit) : Gives [h] (releasing h x) := fun _ _ hv => log_of_releasing hv

theorem gives_bind {hs gs : List Handle} {x y : Act (World W) Unit} (hx : Gives hs x) (hy : Gives gs y) :
    Gives (hs ++ gs) (do x; y) := by
  intro w v h
  obtain ⟨_, u, hu, h⟩ := Act.bind_ok h
  rw [hy u v h, hx w u hu, List.map_append, List.append_assoc]

/-- An acquisition that came upon this log and failed at some step. -/
def Fails (log : List Event) (r : Except Error γ) (v : World W) : Prop :=
  ∃ e before s after, r = .error e ∧ Step.all = before ++ s :: after ∧ v.own = log ++ failure before s

/-- A step fails, and what was taken before it is given back, or the acquisition goes on with one step more done. -/
theorem log_of_orRelease {log : List Event} (before : List Step) {s : Step} (after : List Step)
    (hs : Step.all = before ++ s :: after) {f : α → β} {x : Act (World W) (Except Error β)} (hx : Tries s f x)
    {release : Act (World W) Unit} (hg : Gives (taken before).reverse release)
    {next : β → Act (World W) (Except Error γ)} {w v : World W} {r : Except Error γ}
    (hw : w.own = log ++ before.map .did) (h : Acquisition.orRelease release x next w = .ok r v) :
    Fails log r v ∨ ∃ a u, u.own = log ++ (before ++ [s]).map .did ∧ next (f a) u = .ok r v := by
  obtain ⟨b, u, hb, h⟩ := Act.bind_ok h
  rcases hx w u b hb with ⟨e, rfl, hu⟩ | ⟨a, rfl, hu⟩
  · obtain ⟨_, u', hr, h⟩ := Act.bind_ok h
    cases h
    refine Or.inl ⟨e, before, s, after, rfl, hs, ?_⟩
    rw [hg u v hr, hu, hw]
    simp only [failure, List.append_assoc, List.singleton_append]
  · refine Or.inr ⟨a, u, ?_, h⟩
    rw [hu, hw, List.map_append, List.append_assoc]
    rfl

theorem tries_controls (o : Oscillator (Act W)) :
    Tries .controls id (do return (← (oscillator o).controls).mapError (Error.driver "oscillator controls")) := by
  intro w v r h
  obtain ⟨a, u, ha, h⟩ := Act.bind_ok h
  cases h
  rcases tries_tried .controls id o.controls w v a ha with ⟨e, rfl, hu⟩ | ⟨c, rfl, hu⟩
  · exact Or.inl ⟨_, rfl, hu⟩
  · exact Or.inr ⟨c, rfl, hu⟩

theorem log_of_create {c : Controller (Act W)} {w v : World W} {r : Controller (Act (World W)) × LoopState}
    (h : Controller.create c.settings (controller c).rig (controller c).stop (controller c).rest w = .ok r v) :
    r = (controller c, .start c.settings.turns) ∧
      v.own = w.own ++ [.bound c.rig.engine.dacMin c.rig.engine.dacMax] := by
  obtain ⟨_, u, hb, h⟩ := Act.bind_ok h
  cases h
  obtain ⟨_, u', hl, hb⟩ := Act.bind_ok hb
  rw [Beside.own_of_aside hb, log_of_record hl]
  exact ⟨rfl, rfl⟩

variable [Journal (Act W)]

/-- A step whose failure is told of. -/
theorem tries_told {s : Step} {f : α → β} {x : Act (World W) (Except ε β)}
    {k : Except ε β → Act (World W) (Except ε β)} {told : ε → Entry} (hx : Tries s f x)
    (hok : ∀ b, k (.ok b) = pure (.ok b)) (herror : ∀ e, k (.error e) = do Journal.note (told e); pure (.error e)) :
    Tries s f (x >>= k) := by
  intro w v r h
  obtain ⟨b, u, hb, h⟩ := Act.bind_ok h
  rcases hx w u b hb with ⟨e, rfl, hu⟩ | ⟨a, rfl, hu⟩
  · rw [herror] at h
    obtain ⟨_, u', hn, h⟩ := Act.bind_ok h
    cases h
    exact Or.inl ⟨e, rfl, (Beside.own_of_note hn).trans hu⟩
  · rw [hok] at h
    cases h
    exact Or.inr ⟨a, rfl, hu⟩

/-- Something told on the way, or not. -/
theorem log_of_told {p : Prop} [Decidable p] {e : Entry} {k : Unit → Act (World W) α} {w v : World W} {r : α}
    (h : (if p then Journal.note e >>= k else k ()) w = .ok r v) : ∃ u, u.own = w.own ∧ k () u = .ok r v := by
  by_cases hp : p
  · rw [if_pos hp] at h
    obtain ⟨_, u, hn, h⟩ := Act.bind_ok h
    exact ⟨u, Beside.own_of_note hn, h⟩
  · rw [if_neg hp] at h
    exact ⟨w, rfl, h⟩

variable (a : Acquisition (Act W)) (settings : Settings) (o : Oscillator (Act W))

theorem log_of_acquire {w v : World W} {r : Except Error (Controller (Act (World W)) × LoopState)}
    (h : (acquisition a).acquire settings (oscillator o) w = .ok r v) :
    Fails w.own r v ∨ ∃ c, r = .ok (controller c, .start settings.turns) ∧
      v.own = w.own ++ (Step.all.map .did ++ [.bound c.rig.engine.dacMin c.rig.engine.dacMax]) := by
  obtain ⟨_, u, hn, h⟩ := Act.bind_ok h
  have hu : u.own = w.own ++ [] := by rw [Beside.own_of_note hn, List.append_nil]
  have ho : Gives [.oscillator] (oscillator o).release := gives_releasing _ _
  rcases log_of_orRelease [] _ rfl (tries_controls o) ho hu h with hf | ⟨controls, u₁, h1, h⟩
  · exact Or.inl hf
  obtain ⟨_, u, hn, h⟩ := Act.bind_ok h
  obtain ⟨_, u', hn', h⟩ := Act.bind_ok h
  rw [← Beside.own_of_note hn, ← Beside.own_of_note hn'] at h1
  rcases log_of_orRelease [.controls] _ rfl (tries_tried .pps pps (a.openPps settings)) ho h1 h with
    hf | ⟨p, u₂, h2, h⟩
  · exact Or.inl hf
  have hp : Gives [.pps, .oscillator] (do (pps p).release; (oscillator o).release) :=
    gives_bind (gives_releasing _ _) ho
  rcases log_of_orRelease [.controls, .pps] _ rfl (tries_tried .engine engine (a.newEngine settings)) hp h2 h with
    hf | ⟨e, u₃, h3, h⟩
  · exact Or.inl hf
  have he : Gives [.engine, .pps, .oscillator] (do (engine e).release; (pps p).release; (oscillator o).release) :=
    gives_bind (gives_releasing _ _) hp
  obtain ⟨u, hu, h⟩ := log_of_told h
  dsimp only at h
  rw [← hu] at h3
  rcases log_of_orRelease [.controls, .pps, .engine] _ rfl
    (tries_told (tries_tried .receiver _ a.newReceiver) (by intro _; rfl) (by intro _; rfl)) he h3 h with
    hf | ⟨receiver, u₄, h4, h⟩
  · exact Or.inl hf
  rcases log_of_orRelease [.controls, .pps, .engine, .receiver] _ rfl (tries_tried .stop stop a.install) he h4 h with
    hf | ⟨s, u₅, h5, h⟩
  · exact Or.inl hf
  obtain ⟨_, u, hc, h⟩ := Act.bind_ok h
  cases h
  obtain ⟨rfl, hv⟩ := log_of_create (c := ⟨settings, ⟨p, o, receiver, e⟩, s, a.rest⟩) hc
  refine Or.inr ⟨_, rfl, ?_⟩
  rw [hv, h5, List.append_assoc]
  rfl

end

/-! ## (2) Lives -/

/-- A log but for the reads of the controls. -/
def withoutReads (events : List Event) : List Event := events.filter (!·.isRead)

theorem withoutReads_append (xs ys : List Event) : withoutReads (xs ++ ys) = withoutReads xs ++ withoutReads ys :=
  List.filter_append ..

theorem withoutReads_cons {e : Event} (he : e.isRead = false) (xs : List Event) :
    withoutReads (e :: xs) = e :: withoutReads xs :=
  List.filter_cons_of_pos (by simp [he])

theorem withoutReads_of_readOn {W : Type} {log : List Event} {w : World W} (h : ReadOn log w) :
    ∃ more, w.own = log ++ more ∧ withoutReads more = [] := by
  obtain ⟨more, hw, hm⟩ := h
  refine ⟨more, hw, List.filter_eq_nil_iff.mpr fun e he => ?_⟩
  simp [hm e he]

theorem withoutReads_givenBack (released : Bool) : withoutReads (givenBack released) = givenBack released := by
  cases released <;> rfl

section

variable {W : Type} [Journal (Act W)]

/-- Whatever the operation answers. -/
def Op.perform (c : Controller (Act (World W))) (s : LoopState) : Op → Act (World W) LoopState
  | .turn => do return (← Turn.step c.rig c.settings s).2
  | .run patience => do return (← c.run patience s).2
  | .terminate => c.release s

/-- Use a controller, and give back what is left to give when it goes out of use. -/
def operate (c : Controller (Act (World W))) : List Op → LoopState → Act (World W) Unit
  | [], s => do
    record .dropped
    let _ ← c.release s
  | op :: ops, s => do
    record (.asked op)
    operate c ops (← op.perform c s)

/-- The log of a controller's use, but for the controls that were read. -/
def used (released : Bool) : List Op → List Event
  | [] => .dropped :: givenBack released
  | .terminate :: ops => .asked .terminate :: (givenBack released ++ used true ops)
  | op :: ops => .asked op :: used released ops

variable (c : Controller (Act W))

theorem log_of_perform {op : Op} (ht : op ≠ .terminate) {s s' : LoopState} {w v : World W}
    (h : op.perform (controller c) s w = .ok s' v) : ReadOn w.own v ∧ s'.released = s.released := by
  cases op with
  | terminate => exact absurd rfl ht
  | turn =>
    obtain ⟨r, u, hr, h⟩ := Act.bind_ok h
    cases h
    exact log_of_turn c hr
  | run patience =>
    obtain ⟨r, u, hr, h⟩ := Act.bind_ok h
    cases h
    exact log_of_run c hr

theorem log_of_operate {ops : List Op} {s : LoopState} {w v : World W} (h : operate (controller c) ops s w = .ok () v) :
    ∃ more, v.own = w.own ++ more ∧ withoutReads more = used s.released ops := by
  induction ops generalizing s w with
  | nil =>
    obtain ⟨_, u, hu, h⟩ := Act.bind_ok h
    obtain ⟨s', u', hr, h⟩ := Act.bind_ok h
    cases h
    refine ⟨.dropped :: givenBack s.released, ?_, ?_⟩
    · rw [(log_of_release c hr).1, log_of_record hu, List.append_assoc]
      rfl
    · rw [withoutReads_cons rfl, withoutReads_givenBack]
      rfl
  | cons op ops ih =>
    obtain ⟨_, u, hu, h⟩ := Act.bind_ok h
    obtain ⟨s', u', hp, h⟩ := Act.bind_ok h
    obtain ⟨more, hv, hm⟩ := ih h
    by_cases ht : op = .terminate
    · subst ht
      obtain ⟨hl, hs⟩ := log_of_release c hp
      refine ⟨.asked .terminate :: (givenBack s.released ++ more), ?_, ?_⟩
      · rw [hv, hl, log_of_record hu]
        simp
      · rw [withoutReads_cons rfl, withoutReads_append, withoutReads_givenBack, hm, hs]
        rfl
    · obtain ⟨hl, hs⟩ := log_of_perform c ht hp
      obtain ⟨reads, hl, hr⟩ := withoutReads_of_readOn hl
      refine ⟨.asked op :: (reads ++ more), ?_, ?_⟩
      · rw [hv, hl, log_of_record hu]
        simp
      · rw [withoutReads_cons rfl, withoutReads_append, hr, hm, hs, List.nil_append]
        cases op with
        | terminate => exact absurd rfl ht
        | _ => rfl

/-- Take the handles around an oscillator and use the controller, if there is one. -/
def live (a : Acquisition (Act W)) (settings : Settings) (o : Oscillator (Act W)) (ops : List Op) :
    Act (World W) (Except Error (Controller (Act (World W)))) := do
  match ← (acquisition a).acquire settings (oscillator o) with
  | .error e => return .error e
  | .ok (c, s) =>
    operate c ops s
    return .ok c

end

/-! ## (3) Handles -/

def Event.did? : Event → Option Step
  | .did s => some s
  | _ => none

def Event.released? : Event → Option Handle
  | .released h => some h
  | _ => none

/-- The handles that a log has taken. -/
def held (events : List Event) : List Handle := taken (events.filterMap Event.did?)

/-- The handles that a log has given back, in that order. -/
def given (events : List Event) : List Handle := events.filterMap Event.released?

/-- What is given back of the handles, and when, by how the acquisition ended. -/
structure Handled {m : Type → Type} (r : Except Error (Controller m)) (events : List Event) : Prop where
  /-- What was taken is given back once, and what was not never. -/
  given_once : ∀ h, (given events).count h = if h ∈ held events then 1 else 0
  /-- Where a step fails that is the last one, and nothing follows but the releases, the latest handle first. -/
  of_failure : ∀ e, r = .error e → ∃ before s after, Step.all = before ++ s :: after ∧
    events = before.map .did ++ .failed s :: (taken before).reverse.map .released
  /-- Else the oscillator is bound to the range of the engine, once, and the handles are given back in this order,
      but not before the controller terminates or goes out of use. -/
  of_success : ∀ c, r = .ok c → ∃ more,
    events = Step.all.map .did ++ .bound c.rig.engine.dacMin c.rig.engine.dacMax :: more ∧
    (∀ lo hi, .bound lo hi ∉ more) ∧ given more = [.oscillator, .engine, .pps] ∧
    ∀ before h after, more = before ++ .released h :: after → .asked .terminate ∈ before ∨ .dropped ∈ before

theorem given_append (xs ys : List Event) : given (xs ++ ys) = given xs ++ given ys := List.filterMap_append

theorem given_withoutReads (events : List Event) : given (withoutReads events) = given events := by
  induction events with
  | nil => rfl
  | cons e events ih =>
    cases he : e.isRead with
    | false =>
      rw [withoutReads_cons he]
      show given ([e] ++ withoutReads events) = given ([e] ++ events)
      rw [given_append, given_append, ih]
    | true =>
      have hn : e.released? = none := by
        cases e with
        | released h => cases he
        | _ => rfl
      rw [withoutReads, List.filter_cons_of_neg (by simp [he])]
      show given (withoutReads events) = given (e :: events)
      rw [ih, given, given, List.filterMap_cons_none hn]

theorem given_used (released : Bool) (ops : List Op) : given (used released ops) = given (givenBack released) := by
  induction ops generalizing released with
  | nil => rfl
  | cons op ops ih =>
    cases op with
    | terminate =>
      show given (givenBack released ++ used true ops) = _
      rw [given_append, ih]
      cases released <;> rfl
    | _ => exact ih released

theorem not_bound_of_used (released : Bool) (ops : List Op) (lo hi : UInt32) : .bound lo hi ∉ used released ops := by
  induction ops generalizing released with
  | nil => cases released <;> simp [used, givenBack]
  | cons op ops ih =>
    cases op with
    | terminate => cases released <;> simp [used, givenBack, ih]
    | _ => simp [used, ih]

/-- The first release of a use is after the first chance for it. -/
theorem not_before_of_used {ops : List Op} {before after : List Event} {h : Handle}
    (hu : used false ops = before ++ .released h :: after) : .asked .terminate ∈ before ∨ .dropped ∈ before := by
  induction ops generalizing before with
  | nil =>
    cases before with
    | nil => cases hu
    | cons e before =>
      obtain ⟨rfl, -⟩ := List.cons.inj hu
      exact Or.inr List.mem_cons_self
  | cons op ops ih =>
    cases before with
    | nil => cases op <;> cases hu
    | cons e before =>
      cases op with
      | terminate =>
        obtain ⟨rfl, -⟩ := List.cons.inj hu
        exact Or.inl List.mem_cons_self
      | turn | run =>
        obtain ⟨rfl, ht⟩ := List.cons.inj hu
        rcases ih ht with hm | hm
        · exact Or.inl (List.mem_cons_of_mem _ hm)
        · exact Or.inr (List.mem_cons_of_mem _ hm)

theorem count_taken {before after : List Step} (h : Step.all = before ++ after) (x : Handle) :
    (taken before).count x = if x ∈ taken before then 1 else 0 := by
  have hs : (taken before).Sublist (taken Step.all) := by
    rw [h]
    exact ((List.sublist_append_left before after).filterMap _).cons_cons _
  have hn : (taken before).Nodup := List.Nodup.sublist hs (by decide)
  exact hn.count

theorem handled_of_failure {m : Type → Type} {before after : List Step} {s : Step} {e : Error}
    (h : Step.all = before ++ s :: after) : Handled (m := m) (.error e) (failure before s) where
  given_once x := by
    have hg : given (failure before s) = (taken before).reverse := by
      simp [given, failure, List.filterMap_map, List.filterMap_cons, List.filterMap_reverse, Function.comp_def,
        Event.released?]
    have hd : (failure before s).filterMap Event.did? = before := by
      simp [failure, List.filterMap_map, List.filterMap_cons, List.filterMap_reverse, Function.comp_def, Event.did?]
    rw [hg, held, hd, List.count_reverse]
    exact count_taken h x
  of_failure _ _ := ⟨before, s, after, h, rfl⟩
  of_success c hc := by cases hc

theorem handled_of_life {m : Type → Type} {c : Controller m} {more : List Event} {ops : List Op}
    (h : withoutReads more = used false ops) :
    Handled (.ok c) (Step.all.map .did ++ .bound c.rig.engine.dacMin c.rig.engine.dacMax :: more) := by
  have hg : given more = [.oscillator, .engine, .pps] := by
    rw [← given_withoutReads, h, given_used]
    rfl
  constructor
  case given_once =>
    intro x
    have hx : x ∈ held (Step.all.map .did ++ .bound c.rig.engine.dacMin c.rig.engine.dacMax :: more) := by
      cases x <;> simp [held, taken, Step.all, Step.handle?, Event.did?]
    show (given more).count x = _
    rw [hg, if_pos hx]
    cases x <;> rfl
  case of_failure =>
    intro e he
    cases he
  case of_success =>
    intro d hd
    cases hd
    refine ⟨more, rfl, fun lo hi hm => ?_, hg, fun before x after he => ?_⟩
    · have hm : .bound lo hi ∈ withoutReads more := List.mem_filter.mpr ⟨hm, rfl⟩
      rw [h] at hm
      exact not_bound_of_used false ops lo hi hm
    · rw [he, withoutReads_append, withoutReads_cons rfl] at h
      rcases not_before_of_used h.symm with hb | hb
      · exact Or.inl (List.mem_filter.mp hb).1
      · exact Or.inr (List.mem_filter.mp hb).1

/-- Whatever the steps of the acquisition, the collaborators and the operations answer, each handle that was taken
    is given back once, and no other. -/
theorem every_handle_is_given_back_once {W : Type} [Journal (Act W)] (a : Acquisition (Act W)) (settings : Settings)
    (o : Oscillator (Act W)) (ops : List Op) (w : W) {v : World W} {r : Except Error (Controller (Act (World W)))}
    (h : live a settings o ops ⟨[], w⟩ = .ok r v) : Handled r v.own := by
  obtain ⟨b, u, hb, h⟩ := Act.bind_ok h
  rcases log_of_acquire a settings o hb with ⟨e, before, s, after, rfl, hs, hu⟩ | ⟨c, rfl, hu⟩
  · cases h
    rw [hu]
    exact handled_of_failure hs
  · obtain ⟨_, u', hl, h⟩ := Act.bind_ok h
    cases h
    obtain ⟨more, hv, hm⟩ := log_of_operate c hl
    rw [hv, hu]
    show Handled _ (Step.all.map .did ++ [_] ++ more)
    rw [List.append_assoc]
    exact handled_of_life hm

open Rehearsal

/-- Steps that all succeed. -/
def playedAcquisition : Acquisition (Act Stage) where
  openPps _ := return .ok (Script.source "pps" Stage.scriptSlot.cell Stage.raise)
  newEngine _ := return .ok (playedEngine 10 20 none Stage.outputsSlot.cell)
  newReceiver := return .ok (playedReceiver 0 Stage.fixesSlot.cell)
  install := do return .ok (← Stage.install)
  rest := Stage.rest

/-- A turn, a request to terminate, and a run that fails on what was given back. -/
def playedLife : Act (World Stage) (Except Error (Controller (Act (World Stage)))) :=
  live playedAcquisition .standard (Understudy.oscillator "understudy" Stage.understudySlot.cell)
    [.turn, .terminate, .run 1, .terminate]

def playedStage : Stage := { Stage.empty with script := ⟨[.sample 100], none, []⟩ }

theorem played_handles_are_given_back :
    ∃ r v, playedLife ⟨[], playedStage⟩ = .ok r v ∧ Handled r v.own ∧
      v.own = Step.all.map .did ++ [.bound 10 20, .asked .turn, .did .controls, .asked .terminate, .released .oscillator,
        .released .engine, .released .pps, .asked (.run 1), .asked .terminate, .dropped] := by
  have hok : (match playedLife ⟨[], playedStage⟩ with
      | .ok _ _ => true
      | .error _ _ => false) = true := by decide +kernel
  have hlog : (Act.after playedLife ⟨[], playedStage⟩).own = Step.all.map .did ++ [.bound 10 20, .asked .turn,
      .did .controls, .asked .terminate, .released .oscillator, .released .engine, .released .pps, .asked (.run 1),
      .asked .terminate, .dropped] := by decide +kernel
  cases hl : playedLife ⟨[], playedStage⟩ with
  | ok r v =>
    rw [Act.after_of_ok hl] at hlog
    exact ⟨r, v, rfl, every_handle_is_given_back_once _ _ _ _ _ hl, hlog⟩
  | error e v =>
    rw [hl] at hok
    cases hok

end ClockDiscipline.Handling
