/-
  ClockDiscipline.Proofs.Logged — a rig that keeps a log of what it was asked.

  Each call of a logged rig is made on the rig behind it, and added to a log once it was
  answered. What is told passes the log by, and so do the calls that a calibration makes
  of its own. Logging changes no answer and no world, and the log of a tree is the calls
  made on the way through it (`perform_logged`).
-/

import ClockDiscipline.Proofs.Talk

namespace ClockDiscipline

/-- A world, and the calls answered so far. -/
structure Logged (W : Type) where
  world : W
  calls : List Call

namespace Logged

variable {W α : Type}

/-- What leaves the log alone. -/
def quiet (x : Act W α) : Act (Logged W) α := fun l =>
  match x l.world with
  | .ok a w => .ok a ⟨w, l.calls⟩
  | .error e w => .error e ⟨w, l.calls⟩

/-- A call that is logged with its answer. One that halts gave none. -/
def call (c : Ask) (x : Act W c.Answer) : Act (Logged W) c.Answer := fun l =>
  match x l.world with
  | .ok a w => .ok a ⟨w, l.calls ++ [⟨c, a⟩]⟩
  | .error e w => .error e ⟨w, l.calls⟩

instance [Journal (Act W)] : Journal (Act (Logged W)) where
  note e := quiet (Journal.note e)

end Logged

variable {W : Type}

def Rig.logged (rig : Rig (Act W)) : Rig (Act (Logged W)) where
  pps := {
    name := rig.pps.name
    wait t := Logged.call (.wait t) (rig.pps.wait t)
    read := Logged.call .read rig.pps.read
    shift ns := Logged.call (.shift ns) (rig.pps.shift ns)
    release := Logged.call .releasePps rig.pps.release }
  oscillator := {
    model := rig.oscillator.model
    controls := Logged.call .controls rig.oscillator.controls
    temperature := Logged.call .temperature rig.oscillator.temperature
    apply o := Logged.call (.apply o) (rig.oscillator.apply o)
    calibrate p _ polarity := Logged.call (.calibrate p polarity) (rig.oscillator.calibrate p rig.pps polarity)
    bound lo hi := Logged.call (.bound lo hi) (rig.oscillator.bound lo hi)
    release := Logged.call .releaseOscillator rig.oscillator.release }
  receiver := {
    poll := Logged.call .poll rig.receiver.poll
    qerr := Logged.call .qerr rig.receiver.qerr }
  engine := {
    dacMin := rig.engine.dacMin
    dacMax := rig.engine.dacMax
    process i := Logged.call (.process i) (rig.engine.process i)
    plan := Logged.call .plan rig.engine.plan
    submit p r := Logged.call (.submit p r) (rig.engine.submit p r)
    release := Logged.call .releaseEngine rig.engine.release }

theorem answer_logged (rig : Rig (Act W)) (c : Ask) : rig.logged.answer c = Logged.call c (rig.answer c) := by
  cases c <;> rfl

theorem script_logged (rig : Rig (Act W)) : rig.logged.script = rig.script := rfl

/-- The outcome behind a log, with these calls added to it. -/
def Logged.outcome {α : Type} (before calls : List Call) : EStateM.Result Halt W α → EStateM.Result Halt (Logged W) α
  | .ok a w => .ok a ⟨w, before ++ calls⟩
  | .error e w => .error e ⟨w, before ++ calls⟩

theorem quiet_eq {α : Type} (x : Act W α) (w : W) (before : List Call) :
    Logged.quiet x ⟨w, before⟩ = Logged.outcome before [] (x w) := by
  unfold Logged.quiet
  cases x w <;> simp only [Logged.outcome, List.append_nil]

theorem perform_logged [Journal (Act W)] (rig : Rig (Act W)) {α : Type} (t : Talk α) (w : W) (before : List Call) :
    t.perform rig.logged ⟨w, before⟩ = Logged.outcome before (t.calls rig w) (t.perform rig w) := by
  induction t generalizing w before with
  | done a => simp [Talk.perform, Talk.calls, Logged.outcome, pure, EStateM.pure]
  | note e t ih =>
    cases hn : (Journal.note e : Act W Unit) w with
    | ok u v =>
      have h := quiet_eq (Journal.note e) w before
      rw [hn, Logged.outcome, List.append_nil] at h
      rw [Talk.perform_note_ok _ h, Talk.perform_note_ok _ hn, ih]
      simp only [Talk.calls, hn]
    | error x v =>
      have h := quiet_eq (Journal.note e) w before
      rw [hn, Logged.outcome, List.append_nil] at h
      rw [Talk.perform_note_error _ h, Talk.perform_note_error _ hn]
      simp only [Talk.calls, hn, Logged.outcome, List.append_nil]
  | ask c next ih =>
    cases ha : rig.answer c w with
    | ok a v =>
      have h : rig.logged.answer c ⟨w, before⟩ = .ok a ⟨v, before ++ [⟨c, a⟩]⟩ := by
        simp only [answer_logged, Logged.call, ha]
      rw [Talk.perform_ask_ok _ h, Talk.perform_ask_ok _ ha, ih]
      simp only [Talk.calls, ha]
      cases (next a).perform rig v <;> simp only [Logged.outcome, List.append_assoc, List.cons_append, List.nil_append]
    | error x v =>
      have h : rig.logged.answer c ⟨w, before⟩ = .error x ⟨v, before⟩ := by
        simp only [answer_logged, Logged.call, ha]
      rw [Talk.perform_ask_error _ h, Talk.perform_ask_error _ ha]
      simp only [Talk.calls, ha, Logged.outcome, List.append_nil]

end ClockDiscipline
