/-
  ClockDiscipline.Proofs.TurnTalk — a turn as the calls that it makes.

  A turn over the script of a rig is the tree of its calls; performed on the rig it is
  the turn.

  Proved:
  (1) A turn performs its tree, on every rig and over every lawful monad
      (`performs_take`).
  (2) What a log has of a turn are the calls made on the way through its tree
      (`callsMade_eq`).
-/

import ClockDiscipline.Loop.Turn
import ClockDiscipline.Proofs.Logged

namespace ClockDiscipline

/-! ## (1) A turn and its tree -/

section

variable {m : Type → Type} [Monad m] [Journal m] {α β : Type}

/-- A computation that may fail does what a tree says. -/
def Performs (rig : Rig m) (t : ExceptT Error Talk α) (x : ExceptT Error m α) : Prop := t.run.perform rig = x.run

namespace Performs

theorem pure (rig : Rig m) (a : α) : Performs rig (Pure.pure a) (Pure.pure a) := rfl

theorem throw (rig : Rig m) (e : Error) : Performs rig (throw e : ExceptT Error Talk α) (MonadExcept.throw e) := rfl

variable [LawfulMonad m] {rig : Rig m}

theorem bind {t : ExceptT Error Talk α} {x : ExceptT Error m α} {f : α → ExceptT Error Talk β}
    {g : α → ExceptT Error m β} (h : Performs rig t x) (hf : ∀ a, Performs rig (f a) (g a)) :
    Performs rig (t >>= f) (x >>= g) := by
  unfold Performs at h hf ⊢
  rw [ExceptT.run_bind, ExceptT.run_bind, Talk.perform_bind, h]
  refine bind_congr fun r => ?_
  cases r with
  | ok a => exact hf a
  | error e => rfl

theorem lift {t : Talk α} {x : m α} (h : t.perform rig = x) : Performs rig (ExceptT.lift t) (ExceptT.lift x) := by
  have ht : (ExceptT.lift t : ExceptT Error Talk α).run = t >>= fun a => Pure.pure (Except.ok a) := rfl
  unfold Performs
  rw [ht, Talk.perform_bind, h, ExceptT.run_lift]
  exact bind_pure_comp _ _

theorem note (rig : Rig m) (e : Entry) : Performs rig (Journal.note e) (Journal.note e) :=
  lift (bind_pure _)

theorem driverError {t : Talk (Except String α)} {x : m (Except String α)} (operation : String)
    (h : t.perform rig = x) : Performs rig (driverError operation t) (ClockDiscipline.driverError operation x) := by
  change (t >>= fun a => Pure.pure (a.mapError (Error.driver operation))).perform rig = _
  rw [Talk.perform_bind, h]
  rfl

theorem ioError {t : Talk (Except IoError α)} {x : m (Except IoError α)} (operation : String) (h : t.perform rig = x) :
    Performs rig (ioError operation t) (ClockDiscipline.ioError operation x) := by
  change (t >>= fun a => Pure.pure (a.mapError (Error.io operation))).perform rig = _
  rw [Talk.perform_bind, h]
  rfl

theorem expected {t : Talk (Option α)} {x : m (Option α)} (operation : String) (h : t.perform rig = x) :
    Performs rig (Correction.expected operation t) (Correction.expected operation x) :=
  bind (lift h) fun a =>
    match a with
    | some a => pure rig a
    | none => throw rig _

end Performs

variable [LawfulMonad m] (rig : Rig m)

theorem performs_validity : Performs rig (Readout.validity rig.script.receiver) (Readout.validity rig.receiver) := by
  refine Performs.bind (Performs.driverError _ (Talk.perform_ask rig .poll)) fun fix => ?_
  by_cases h : (fix != .valid) = true
  · simp only [h, if_true]
    exact Performs.bind (Performs.note rig _) fun _ => Performs.pure rig _
  · simp only [h]
    exact Performs.pure rig _

theorem performs_readControls :
    Performs rig (Readout.readControls rig.script.oscillator) (Readout.readControls rig.oscillator) :=
  Performs.bind (Performs.driverError _ (Talk.perform_ask rig .controls)) fun _ =>
    Performs.bind (Performs.note rig _) fun _ => Performs.pure rig _

theorem performs_readout :
    Performs rig (Readout.take rig.script.oscillator rig.script.receiver)
      (Readout.take rig.oscillator rig.receiver) := by
  refine Performs.bind (Performs.note rig _) fun _ => ?_
  refine Performs.bind ?_ fun temperature => ?_
  · exact Performs.bind (Performs.driverError _ (Talk.perform_ask rig .temperature)) fun _ => Performs.pure rig _
  refine Performs.bind (Performs.note rig _) fun _ => ?_
  refine Performs.bind (performs_validity rig) fun valid => ?_
  refine Performs.bind (Performs.lift (Talk.perform_ask rig .qerr)) fun qerr => ?_
  exact Performs.bind (performs_readControls rig) fun _ => Performs.pure rig _

theorem performs_shiftPhase (ns : Int32) :
    Performs rig (Correction.shiftPhase rig.script.pps ns) (Correction.shiftPhase rig.pps ns) :=
  Performs.bind (Performs.ioError _ (Talk.perform_ask rig (.shift ns))) fun _ => Performs.note rig _

theorem performs_calibrate (p : Polarity) :
    Performs rig (Correction.calibrate rig.script p) (Correction.calibrate rig p) := by
  refine Performs.bind (Performs.note rig _) fun _ => ?_
  refine Performs.bind (Performs.expected _ (Talk.perform_ask rig .plan)) fun plan => ?_
  refine Performs.bind (Performs.note rig _) fun _ => ?_
  refine Performs.bind (Performs.expected _ (Talk.perform_ask rig (.calibrate plan p))) fun results => ?_
  exact Performs.lift (Talk.perform_ask rig (.submit plan results))

theorem performs_announce (o : ControlOutput) : Performs rig (Correction.announce o) (Correction.announce o) := by
  unfold Correction.announce
  cases o.action with
  | adjustCoarse => exact Performs.note rig _
  | adjustFine => exact Performs.note rig _
  | _ => exact Performs.pure rig ()

theorem performs_carryOut (p : Polarity) (o : ControlOutput) :
    Performs rig (Correction.carryOut rig.script p o) (Correction.carryOut rig p o) := by
  refine Performs.bind (performs_announce rig o) fun _ => ?_
  cases o.action with
  | phaseJump =>
    exact Performs.bind (Performs.note rig _) fun _ =>
      Performs.bind (performs_shiftPhase rig _) fun _ => Performs.pure rig _
  | calibrate =>
    exact Performs.bind (Performs.note rig _) fun _ =>
      Performs.bind (performs_calibrate rig p) fun _ => Performs.pure rig _
  | _ =>
    exact Performs.bind (Performs.note rig _) fun _ =>
      Performs.bind (Performs.driverError _ (Talk.perform_ask rig (.apply o))) fun _ => Performs.pure rig _

theorem performs_act (settings : Settings) (s : LoopState) (sample : Int32) :
    Performs rig (Turn.act rig.script settings s sample) (Turn.act rig settings s sample) := by
  refine Performs.bind (performs_readout rig) fun readout => ?_
  refine Performs.bind (Performs.note rig _) fun _ => ?_
  refine Performs.bind (Performs.driverError _ (Talk.perform_ask rig (.process _))) fun output => ?_
  refine Performs.bind (Performs.note rig _) fun _ => ?_
  exact Performs.bind (performs_carryOut rig _ _) fun _ => Performs.pure rig _

theorem performs_take (settings : Settings) (s : LoopState) :
    Performs rig (Turn.take rig.script settings s) (Turn.take rig settings s) := by
  refine Performs.bind (Performs.note rig _) fun _ => ?_
  refine Performs.bind (Performs.ioError _ (Talk.perform_ask rig (.wait _))) fun event => ?_
  cases event with
  | timeout => exact Performs.throw rig _
  | interrupted => exact Performs.pure rig _
  | dataReady =>
    refine Performs.bind (Performs.lift (Talk.perform_ask rig .read)) fun sample => ?_
    cases sample with
    | error e =>
      by_cases h : e.isTransient = true
      · simp only [h, if_true]
        exact Performs.bind (Performs.note rig _) fun _ => Performs.pure rig _
      · simp only [h]
        exact Performs.throw rig _
    | ok n =>
      by_cases h : s.ignoreNext = true
      · simp only [LoopState.takeIgnored, h, if_true]
        exact Performs.bind (Performs.note rig _) fun _ => Performs.pure rig _
      · simp only [LoopState.takeIgnored, h]
        exact performs_act rig settings _ n

end

/-! ## (2) The calls that a turn makes -/

namespace Turn

variable {W : Type} [Journal (Act W)]

/-- The calls that a turn makes in a world, as a log of the turn has them. -/
def callsMade (rig : Rig (Act W)) (settings : Settings) (s : LoopState) (w : W) : List Call :=
  (Act.after (Turn.take rig.logged settings s).run ⟨w, []⟩).calls

/-- Logging a turn changes nothing about it. -/
theorem take_logged (rig : Rig (Act W)) (settings : Settings) (s : LoopState) (w : W) (before : List Call) :
    (Turn.take rig.logged settings s).run ⟨w, before⟩ =
      Logged.outcome before ((Turn.take rig.script settings s).run.calls rig w) ((Turn.take rig settings s).run w) := by
  rw [← performs_take rig settings s, ← performs_take rig.logged settings s, script_logged]
  exact perform_logged rig _ w before

theorem callsMade_eq (rig : Rig (Act W)) (settings : Settings) (s : LoopState) (w : W) :
    callsMade rig settings s w = (Turn.take rig.script settings s).run.calls rig w := by
  unfold callsMade Act.after
  rw [take_logged]
  cases (Turn.take rig settings s).run w <;> rfl

end Turn

end ClockDiscipline
