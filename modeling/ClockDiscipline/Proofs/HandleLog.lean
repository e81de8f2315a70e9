/-
  ClockDiscipline.Proofs.HandleLog — a log of how handles are taken and given back.

  The log stands beside the world. It has the steps of the acquisition with how each
  ended, the binding of the oscillator, the releases, and what was asked of the
  controller. Steps, oscillator, engine and PPS source may do anything to the world, and
  nothing to the log but what is logged of them. A read of the controls is logged as the
  step that it is at first, also where a turn makes it.

  Proved: (1) what each logged computation adds to the log (`tries_tried`,
  `log_of_releasing`); (2) giving back adds the three releases in their order, once
  (`log_of_release`); (3) turns and runs add reads of the controls and nothing else
  (`log_of_turn`, `log_of_run`).
-/

import ClockDiscipline.Acquisition
import ClockDiscipline.Proofs.Beside
import ClockDiscipline.Proofs.RunKept

namespace ClockDiscipline.Handling

/-- What has to be given back. -/
inductive Handle where
  | oscillator
  | pps
  | engine
  deriving DecidableEq, Repr

/-- Steps of an acquisition. -/
inductive Step where
  | controls
  | pps
  | engine
  | receiver
  | stop
  deriving DecidableEq, Repr

/-- The steps in their order. -/
def Step.all : List Step := [.controls, .pps, .engine, .receiver, .stop]

/-- The handle that a step takes. -/
def Step.handle? : Step → Option Handle
  | .pps => some .pps
  | .engine => some .engine
  | _ => none

/-- What can be asked of a controller. -/
inductive Op where
  | turn
  | run (patience : Nat)
  | terminate
  deriving DecidableEq, Repr

inductive Event where
  | did (s : Step)
  | failed (s : Step)
  | bound (lo hi : UInt32)
  | released (h : Handle)
  | asked (op : Op)
  /-- The controller goes out of use. -/
  | dropped
  deriving DecidableEq, Repr

/-- Whether the controls were read, which is a turn's business as well. -/
def Event.isRead : Event → Bool
  | .did .controls | .failed .controls => true
  | _ => false

abbrev World (W : Type) : Type := Beside (List Event) W

section

variable {W α β ε : Type}

def record (e : Event) : Act (World W) Unit := Beside.slot.cell.modify (· ++ [e])

/-- Try a step, and go on with what it took. -/
def tried (s : Step) (f : α → β) (x : Act W (Except ε α)) : Act (World W) (Except ε β) := do
  match ← Beside.aside x with
  | .ok a =>
    record (.did s)
    return .ok (f a)
  | .error e =>
    record (.failed s)
    return .error e

def releasing (h : Handle) (x : Act W Unit) : Act (World W) Unit := do
  record (.released h)
  Beside.aside x

/-! ## (1) Collaborators -/

def pps (p : EdgeSource (Act W)) : EdgeSource (Act (World W)) :=
  { p.mapped Beside.aside with release := releasing .pps p.release }

def engine (e : Engine (Act W)) : Engine (Act (World W)) :=
  { e.mapped Beside.aside with release := releasing .engine e.release }

def oscillator (o : Oscillator (Act W)) : Oscillator (Act (World W)) :=
  { o.aside with
    controls := tried .controls id o.controls
    bound lo hi := do
      record (.bound lo hi)
      Beside.aside (o.bound lo hi)
    release := releasing .oscillator o.release }

def stop (s : Stop (Act W)) : Stop (Act (World W)) where
  requested := Beside.aside s.requested
  cause := Beside.aside s.cause
  request := Beside.aside s.request

def controller (c : Controller (Act W)) : Controller (Act (World W)) where
  settings := c.settings
  rig := ⟨pps c.rig.pps, oscillator c.rig.oscillator, c.rig.receiver.mapped Beside.aside, engine c.rig.engine⟩
  stop := stop c.stop
  rest n := Beside.aside (c.rest n)

def acquisition (a : Acquisition (Act W)) : Acquisition (Act (World W)) where
  openPps s := tried .pps pps (a.openPps s)
  newEngine s := tried .engine engine (a.newEngine s)
  newReceiver := tried .receiver (·.mapped Beside.aside) a.newReceiver
  install := tried .stop stop a.install
  rest n := Beside.aside (a.rest n)

theorem log_of_record {e : Event} {w v : World W} (h : record e w = .ok () v) : v.own = w.own ++ [e] := by
  cases h
  rfl

/-- What a computation adds to the log that takes a step. -/
def Tries (s : Step) (f : α → β) (x : Act (World W) (Except ε β)) : Prop :=
  ∀ w v r, x w = .ok r v → (∃ e, r = .error e ∧ v.own = w.own ++ [.failed s]) ∨
    ∃ a, r = .ok (f a) ∧ v.own = w.own ++ [.did s]

theorem tries_tried (s : Step) (f : α → β) (x : Act W (Except ε α)) : Tries s f (tried s f x) := by
  intro w v r h
  obtain ⟨a, u, ha, h⟩ := Act.bind_ok h
  rw [← Beside.own_of_aside ha]
  cases a with
  | ok a =>
    cases h
    exact Or.inr ⟨a, rfl, rfl⟩
  | error e =>
    cases h
    exact Or.inl ⟨e, rfl, rfl⟩

theorem log_of_releasing {h : Handle} {x : Act W Unit} {w v : World W} (hv : releasing h x w = .ok () v) :
    v.own = w.own ++ [.released h] := by
  obtain ⟨_, u, hu, hv⟩ := Act.bind_ok hv
  rw [Beside.own_of_aside hv, log_of_record hu]

end

/-! ## (2) Giving back -/

section

variable {W : Type} [Journal (Act W)] (c : Controller (Act W))

/-- The releases that are still to come. -/
def givenBack (released : Bool) : List Event :=
  if released then [] else [.released .oscillator, .released .engine, .released .pps]

theorem log_of_release {s s' : LoopState} {w v : World W} (h : (controller c).release s w = .ok s' v) :
    v.own = w.own ++ givenBack s.released ∧ s'.released = true := by
  unfold Controller.release at h
  by_cases hs : s.released = true
  · rw [if_pos hs] at h
    cases h
    simp [givenBack, hs]
  · rw [if_neg hs] at h
    obtain ⟨_, u, hn, h⟩ := Act.bind_ok h
    obtain ⟨_, u₁, h1, h⟩ := Act.bind_ok h
    obtain ⟨_, u₂, h2, h⟩ := Act.bind_ok h
    obtain ⟨_, u₃, h3, h⟩ := Act.bind_ok h
    cases h
    rw [log_of_releasing h3, log_of_releasing h2, log_of_releasing h1, Beside.own_of_note hn]
    simp [givenBack, hs]

end

/-! ## (3) Turns and runs -/

section

variable {W α : Type}

/-- The log was this, and only reads of the controls came to it. -/
def ReadOn (log : List Event) (w : World W) : Prop := ∃ more, w.own = log ++ more ∧ ∀ e ∈ more, e.isRead = true

theorem keeps_aside {log : List Event} (x : Act W α) : Act.Keeps (ReadOn log) (Beside.aside x) :=
  Beside.keeps_look (P := fun own => ∃ more, own = log ++ more ∧ ∀ e ∈ more, e.isRead = true) fun _ => x

theorem keeps_record {log : List Event} {e : Event} (he : e.isRead = true) :
    Act.Keeps (ReadOn log) (record e : Act (World W) Unit) := by
  refine Act.keeps_modify Beside.slot fun w hw => ?_
  obtain ⟨more, hw, hm⟩ := hw
  refine ⟨more ++ [e], ?_, fun d hd => ?_⟩
  · show w.own ++ [e] = log ++ (more ++ [e])
    rw [hw, List.append_assoc]
  · rcases List.mem_append.mp hd with hd | hd
    · exact hm d hd
    · rw [List.mem_singleton.mp hd]
      exact he

theorem keeps_answer {log : List Event} (c : Controller (Act W)) (q : Ask) (hq : q.InTurn) :
    Act.Keeps (ReadOn log) ((controller c).rig.answer q) := by
  cases q with
  | controls =>
    refine Act.keeps_bind (keeps_aside _) fun a => ?_
    cases a with
    | ok a => exact Act.keeps_bind (keeps_record rfl) fun _ => Act.keeps_pure _
    | error e => exact Act.keeps_bind (keeps_record rfl) fun _ => Act.keeps_pure _
  | calibrate plan p => exact fun w hw => keeps_aside _ w hw
  | bound | releasePps | releaseOscillator | releaseEngine => exact hq.elim
  | _ => exact keeps_aside _

/-- What leaves reads of the controls alone, for any log it is found with. -/
theorem log_of_keeps {x : Act (World W) α} (hx : ∀ log, Act.Keeps (ReadOn log) x) {w v : World W} {a : α}
    (h : x w = .ok a v) : ReadOn w.own v := by
  have hv := hx w.own w ⟨[], (List.append_nil _).symm, fun e he => by cases he⟩
  rwa [Act.after_of_ok h] at hv

variable [Journal (Act W)] (c : Controller (Act W))

theorem log_of_turn {s : LoopState} {r : Except Error Turn × LoopState} {w v : World W}
    (h : Turn.step (controller c).rig (controller c).settings s w = .ok r v) :
    ReadOn w.own v ∧ r.2.released = s.released :=
  ⟨log_of_keeps (fun _ => Turn.keeps_step (fun _ => keeps_aside _) (keeps_answer c) _ s) h,
    Turn.released_step _ _ s w r v h⟩

theorem log_of_run {patience : Nat} {s : LoopState} {r : Except Error Unit × LoopState} {w v : World W}
    (h : (controller c).run patience s w = .ok r v) : ReadOn w.own v ∧ r.2.released = s.released :=
  ⟨log_of_keeps (fun _ => Controller.keeps_run (fun _ => keeps_aside _) (keeps_answer c) (keeps_aside _) (keeps_aside _)
    (fun _ => keeps_aside _) patience s) h, Controller.released_run _ patience s w r v h⟩

end

end ClockDiscipline.Handling
