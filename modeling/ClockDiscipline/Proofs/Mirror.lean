/-
  ClockDiscipline.Proofs.Mirror — the loop on a source that counts the other way.

  A sample reaches the engine and the measures of a calibration with the sign of the
  polarity. Two runs are taken side by side, the second with the other polarity and on a
  source whose samples have the other sign. What a turn asks for is the same in both but
  for the polarity it hands to a calibration, and what it is answered is the same but for
  the samples. The least sample has no opposite and is left out.

  Proved: (1) the other polarity takes the sign back (`apply_flipped`); (2) so a turn is
  the same tree of calls up to the samples (`mirrored_take`), as far as the collaborators
  answer alike; (3) rows of turns have the same answers and calls up to the samples, and
  lead to related worlds (`mirrored_records`, `matches_series`); (4) a built-in oscillator
  calibrates alike (`matches_calibrate`).
-/

import ClockDiscipline.Oscillator.Dummy
import ClockDiscipline.Proofs.SideBySide
import ClockDiscipline.Proofs.TurnRow

namespace ClockDiscipline

/-! ## (1) Signs -/

def Polarity.flipped : Polarity → Polarity
  | .normal => .opposite
  | .opposite => .normal

theorem Polarity.apply_flipped (p : Polarity) {n : Int32} (h : n ≠ Int32.minValue) : p.flipped.apply (-n) = p.apply n := by
  have hn : (-n).toInt = -n.toInt := toInt_neg_of_ne fun hm => h (Int32.toInt_inj.mp hm)
  rw [← Int64.toInt_inj, toInt_apply, toInt_apply, hn]
  cases p
  · show -1 * -n.toInt = 1 * n.toInt
    omega
  · show 1 * -n.toInt = -1 * n.toInt
    omega

/-- What two sources read that count the other way round. -/
inductive Negated : Except IoError Int32 → Except IoError Int32 → Prop where
  | sample {n : Int32} (h : n ≠ Int32.minValue) : Negated (.ok n) (.ok (-n))
  | failure (e : IoError) : Negated (.error e) (.error e)

def Settings.flipped (s : Settings) : Settings := { s with polarity := s.polarity.flipped }

/-- A call as it is made on a source that counts the other way. -/
def Call.mirrored : Call → Call
  | ⟨.read, .ok n⟩ => ⟨.read, .ok (-n)⟩
  | ⟨.calibrate plan p, a⟩ => ⟨.calibrate plan p.flipped, a⟩
  | c => c

def Turn.Record.mirrored (q : Turn.Record) : Turn.Record := { q with calls := q.calls.map Call.mirrored }

/-- Whether it does not matter to a call which way the source counts. -/
def Ask.Unsigned : Ask → Prop
  | .read | .calibrate _ _ => False
  | _ => True

/-- Calls that stand for each other where the source counts the other way, with what that says of their answers. -/
inductive Ask.Mirrors : (c d : Ask) → (c.Answer → d.Answer → Prop) → Prop where
  | read : Mirrors .read .read Negated
  | calibrate (plan : Calibration.Plan) (p : Polarity) : Mirrors (.calibrate plan p) (.calibrate plan p.flipped) Eq
  | unsigned {c : Ask} (h : c.Unsigned) : Mirrors c c Eq

theorem mirrored_of_mirrors {c d : Ask} {Q : c.Answer → d.Answer → Prop} (h : c.Mirrors d Q) {a : c.Answer} {b : d.Answer}
    (hq : Q a b) : Call.mirrored ⟨c, a⟩ = ⟨d, b⟩ := by
  cases h with
  | read => cases hq <;> rfl
  | calibrate plan p =>
    cases hq
    rfl
  | unsigned h =>
    cases hq
    cases c with
    | read | calibrate => exact h.elim
    | _ => rfl

/-! ## (2) Turns -/

namespace Talk

/-- Trees of the same calls up to the samples. -/
inductive Mirrored {α : Type} : Talk α → Talk α → Prop where
  | done (a : α) : Mirrored (.done a) (.done a)
  | note (e : Entry) {t u : Talk α} (h : Mirrored t u) : Mirrored (.note e t) (.note e u)
  | ask {c d : Ask} {Q : c.Answer → d.Answer → Prop} (hq : c.Mirrors d Q) {f : c.Answer → Talk α}
      {g : d.Answer → Talk α} (h : ∀ a b, Q a b → Mirrored (f a) (g b)) : Mirrored (.ask c f) (.ask d g)

section

variable {α β : Type}

theorem mirrored_bind {t u : Talk α} {f g : α → Talk β} (h : Mirrored t u) (hf : ∀ a, Mirrored (f a) (g a)) :
    Mirrored (t >>= f) (u >>= g) := by
  show Mirrored (t.bind f) (u.bind g)
  induction h with
  | done a => exact hf a
  | note e h ih => exact .note e ih
  | ask hq h ih => exact .ask hq ih

theorem mirrored_unsigned {c : Ask} (hc : c.Unsigned) {f g : c.Answer → Talk α} (h : ∀ a, Mirrored (f a) (g a)) :
    Mirrored (.ask c f) (.ask c g) := by
  refine .ask (.unsigned hc) fun a b hab => ?_
  rw [← hab]
  exact h a

theorem mirrored_calibrate (plan : Calibration.Plan) (p : Polarity) {f g : Option Calibration.Results → Talk α}
    (h : ∀ a, Mirrored (f a) (g a)) : Mirrored (.ask (.calibrate plan p) f) (.ask (.calibrate plan p.flipped) g) := by
  refine .ask (.calibrate plan p) fun a b hab => ?_
  cases hab
  exact h a

/-- Whoever never asks for a sample. -/
theorem mirrored_self (t : Talk α) (h : ∀ calls r, t.Path calls r → ∀ c ∈ calls, c.ask.Unsigned) : Mirrored t t := by
  induction t with
  | done a => exact .done a
  | note e t ih => exact .note e (ih h)
  | ask c next ih =>
    have hc : c.Unsigned := by
      obtain ⟨calls, r, hp⟩ := exists_path (next default)
      exact h _ r ⟨default, calls, rfl, hp⟩ _ List.mem_cons_self
    exact mirrored_unsigned hc fun a => ih a fun calls r hp d hd => h _ r ⟨a, calls, rfl, hp⟩ d (List.mem_cons_of_mem _ hd)

end

end Talk

section

variable {m : Type → Type} (rig : Rig m) (settings : Settings) (s : LoopState)

theorem mirrored_readout :
    (Readout.take rig.script.oscillator rig.script.receiver).run.Mirrored
      (Readout.take rig.script.oscillator rig.script.receiver).run := by
  refine Talk.mirrored_self _ fun calls r hp c hc => ?_
  have h := reading_of_path rig hp
  cases h <;> simp only [List.mem_cons, List.not_mem_nil, or_false] at hc <;>
    rcases hc with rfl | rfl | rfl | rfl <;> trivial

theorem mirrored_carryOut (p : Polarity) (o : ControlOutput) :
    (Correction.carryOut rig.script p o).run.Mirrored (Correction.carryOut rig.script p.flipped o).run := by
  obtain ⟨action, setpoint, ns⟩ := o
  cases action with
  | phaseJump =>
    refine .note _ (Talk.mirrored_unsigned (c := .shift _) trivial fun a => ?_)
    cases a with
    | error e => exact .done _
    | ok a => exact .note _ (.done _)
  | calibrate =>
    refine .note _ (.note _ (Talk.mirrored_unsigned (c := .plan) trivial fun plan => ?_))
    cases plan with
    | none => exact .done _
    | some plan =>
    refine .note _ (Talk.mirrored_calibrate plan p fun results => ?_)
    cases results with
    | none => exact .done _
    | some results => exact Talk.mirrored_unsigned (c := .submit plan results) trivial fun _ => .done _
  | adjustCoarse | adjustFine =>
    refine .note _ (.note _ (Talk.mirrored_unsigned (c := .apply _) trivial fun a => ?_))
    cases a <;> exact .done _
  | _ =>
    refine .note _ (Talk.mirrored_unsigned (c := .apply _) trivial fun a => ?_)
    cases a <;> exact .done _

/-- A computation that can fail, and what follows where it does not. -/
theorem mirrored_bind_run {α β : Type} {t u : ExceptT Error Talk α} {f g : α → ExceptT Error Talk β}
    (h : t.run.Mirrored u.run) (hf : ∀ a, (f a).run.Mirrored (g a).run) : (t >>= f).run.Mirrored (u >>= g).run := by
  refine Talk.mirrored_bind h fun a => ?_
  cases a with
  | error e => exact .done _
  | ok a => exact hf a

theorem mirrored_read {α : Type} {f g : Except IoError Int32 → ExceptT Error Talk α}
    (h : ∀ a b, Negated a b → (f a).run.Mirrored (g b).run) :
    (ExceptT.lift rig.script.pps.read >>= f).run.Mirrored (ExceptT.lift rig.script.pps.read >>= g).run :=
  .ask .read h

theorem build_flipped (p : Polarity) {n : Int32} (h : n ≠ Int32.minValue) (r : Readout) :
    ControlInput.build (-n) p.flipped r = ControlInput.build n p r := by
  unfold ControlInput.build PhaseError.ofSample
  rw [p.apply_flipped h]

theorem mirrored_act {n : Int32} (h : n ≠ Int32.minValue) :
    (Turn.act rig.script settings s n).run.Mirrored (Turn.act rig.script settings.flipped s (-n)).run := by
  refine mirrored_bind_run (mirrored_readout rig) fun readout => ?_
  have hi : ControlInput.build (-n) settings.flipped.polarity readout = ControlInput.build n settings.polarity readout :=
    build_flipped settings.polarity h readout
  rw [hi]
  refine .note _ (Talk.mirrored_unsigned (c := .process _) trivial fun o => ?_)
  cases o with
  | error e => exact .done _
  | ok o => exact .note _ (mirrored_bind_run (mirrored_carryOut rig settings.polarity o) fun _ => .done _)

theorem mirrored_take :
    (Turn.take rig.script settings s).run.Mirrored (Turn.take rig.script settings.flipped s).run := by
  refine .note _ (Talk.mirrored_unsigned (c := .wait _) trivial fun event => ?_)
  rcases event with e | (_ | _ | _)
  · exact .done _
  · refine mirrored_read rig fun a b hab => ?_
    cases hab with
    | failure e =>
      by_cases ht : e.isTransient = true
      · simp only [ht, if_true]
        exact .note _ (.done _)
      · simp only [ht]
        exact .done _
    | sample hn =>
      by_cases hs : s.ignoreNext = true
      · simp only [LoopState.takeIgnored, hs, if_true]
        exact .note _ (.done _)
      · simp only [LoopState.takeIgnored, hs]
        exact mirrored_act rig settings _ hn
  · exact .done _
  · exact .done _

end

/-! ## (3) Rows of turns -/

/-- The answers of a rig in related worlds: samples count the other way round, and all else is the same, a
    calibration with the other polarity included. -/
structure Mirrors {W : Type} [Journal (Act W)] (R : W → W → Prop) (rig : Rig (Act W)) : Prop where
  note (e : Entry) : Act.Matches R Eq (Journal.note e : Act W Unit) (Journal.note e)
  answer {c d : Ask} {Q : c.Answer → d.Answer → Prop} (h : c.Mirrors d Q) :
    Act.Matches R Q (rig.answer c) (rig.answer d)

section

variable {W α : Type} [Journal (Act W)] {R : W → W → Prop} {rig : Rig (Act W)} (hm : Mirrors R rig)

include hm

theorem matches_perform {t u : Talk α} (h : t.Mirrored u) : Act.Matches R Eq (t.perform rig) (u.perform rig) := by
  induction h with
  | done a => exact Act.matches_pure rfl
  | note e h ih => exact Act.matches_bind_eq (hm.note e) fun _ => ih
  | ask hq h ih => exact Act.matches_bind (hm.answer hq) ih

theorem mirrored_calls {t u : Talk α} (h : t.Mirrored u) {w w' : W} (hr : R w w') :
    u.calls rig w' = (t.calls rig w).map Call.mirrored := by
  induction h generalizing w w' with
  | done a => rfl
  | note e h ih =>
    simp only [Talk.calls]
    rcases alike_cases (hm.note e w w' hr) with ⟨a, b, v, v', h1, h2, -, hv⟩ | ⟨x, v, v', h1, h2, -⟩
    · rw [h1, h2]
      exact ih hv
    · rw [h1, h2]
      rfl
  | @ask c d Q hq f g h ih =>
    simp only [Talk.calls]
    rcases alike_cases (hm.answer hq w w' hr) with ⟨a, b, v, v', h1, h2, hab, hv⟩ | ⟨x, v, v', h1, h2, -⟩
    · simp only [h1, h2, List.map_cons, mirrored_of_mirrors hq hab]
      rw [ih a b hab hv]
    · simp only [h1, h2]
      rfl

variable (settings : Settings)

/-- A turn answers alike and leaves related worlds. -/
theorem matches_take (s : LoopState) :
    Act.Matches R Eq (Turn.take rig settings s).run (Turn.take rig settings.flipped s).run := by
  have h1 : (Turn.take rig.script settings s).run.perform rig = (Turn.take rig settings s).run :=
    performs_take rig settings s
  have h2 : (Turn.take rig.script settings.flipped s).run.perform rig = (Turn.take rig settings.flipped s).run :=
    performs_take rig settings.flipped s
  rw [← h1, ← h2]
  exact matches_perform hm (mirrored_take rig settings s)

theorem matches_step (s : LoopState) : Act.Matches R Eq (Turn.step rig settings s) (Turn.step rig settings.flipped s) :=
  Act.matches_bind_eq (matches_take hm settings s) fun _ => Act.matches_pure rfl

/-- So do turns in a row. -/
theorem matches_series (n : Nat) (s : LoopState) :
    Act.Matches R Eq (Turn.series rig settings n s) (Turn.series rig settings.flipped n s) := by
  induction n generalizing s with
  | zero => exact Act.matches_pure rfl
  | succ n ih => exact Act.matches_bind_eq (matches_step hm settings s) fun r => ih r.2

theorem mirrored_records (n : Nat) (s : LoopState) {w w' : W} (hr : R w w') :
    Turn.records rig settings.flipped n s w' = (Turn.records rig settings n s w).map Turn.Record.mirrored := by
  induction n generalizing s w w' with
  | zero => rfl
  | succ n ih =>
    have hc : Turn.callsMade rig settings.flipped s w' = (Turn.callsMade rig settings s w).map Call.mirrored := by
      rw [Turn.callsMade_eq, Turn.callsMade_eq]
      exact mirrored_calls hm (mirrored_take rig settings s) hr
    unfold Turn.records
    rcases alike_cases (matches_step hm settings s w w' hr) with ⟨a, b, v, v', h1, h2, rfl, hv⟩ | ⟨x, v, v', h1, h2, -⟩
    · simp only [h1, h2, List.map_cons, Turn.Record.mirrored, hc]
      rw [ih a.2 hv]
    · simp only [h1, h2]
      rfl

end

/-! ## (4) Calibrations -/

/-- What both find where they wait for a sample. -/
inductive NegatedSample : Except IoError (Option Int32) → Except IoError (Option Int32) → Prop where
  | sample {n : Int32} (h : n ≠ Int32.minValue) : NegatedSample (.ok (some n)) (.ok (some (-n)))
  | missing : NegatedSample (.ok none) (.ok none)
  | failure (e : IoError) : NegatedSample (.error e) (.error e)

section

variable {W : Type} {R : W → W → Prop} {pps : EdgeSource (Act W)}
  (hwait : ∀ t, Act.Matches R Eq (pps.wait t) (pps.wait t)) (hread : Act.Matches R Negated pps.read pps.read)

include hwait hread

theorem matches_nextSample : Act.Matches R NegatedSample (Dummy.nextSample pps) (Dummy.nextSample pps) := by
  refine Act.matches_bind_eq (hwait _) fun event => ?_
  rcases event with e | (_ | _ | _)
  · exact Act.matches_pure (.failure e)
  · refine Act.matches_bind hread fun a b hab => ?_
    cases hab with
    | sample h => exact Act.matches_pure (.sample h)
    | failure e =>
      by_cases ht : e.isTransient = true
      · simp only [ht, if_true]
        exact Act.matches_pure .missing
      · simp only [ht]
        exact Act.matches_pure (.failure e)
  · exact Act.matches_pure (.failure _)
  · exact Act.matches_pure .missing

theorem matches_awaitSample (patience : Nat) :
    Act.Matches R Negated (Dummy.awaitSample pps patience) (Dummy.awaitSample pps patience) := by
  induction patience with
  | zero => exact Act.matches_throw _
  | succ patience ih =>
    refine Act.matches_bind (matches_nextSample hwait hread) fun a b hab => ?_
    cases hab with
    | sample h => exact Act.matches_pure (.sample h)
    | missing => exact ih
    | failure e => exact Act.matches_pure (.failure e)

/-- Each sample is measured with its sign taken back. -/
theorem matches_takeRow (p : Polarity) (patience wanted : Nat) (row : List Int64) :
    Act.Matches R Eq (Dummy.takeRow pps p patience wanted row) (Dummy.takeRow pps p.flipped patience wanted row) := by
  induction wanted generalizing row with
  | zero => exact Act.matches_pure rfl
  | succ wanted ih =>
    refine Act.matches_bind (matches_awaitSample hwait hread patience) fun a b hab => ?_
    cases hab with
    | sample h =>
      simp only [p.apply_flipped h]
      exact ih _
    | failure e => exact Act.matches_pure rfl

variable [Journal (Act W)] (hnote : ∀ e, Act.Matches R Eq (Journal.note e : Act W Unit) (Journal.note e))
  {cell : Cell (Act W) Dummy} (hget : Act.Matches R Eq cell.get cell.get)
  (hset : ∀ d, Act.Matches R Eq (cell.set d) (cell.set d))

include hnote hget hset

theorem matches_takeRows (p : Polarity) (patience : Nat) (samples : UInt32) (points : List UInt32)
    (rows : List (List Int64)) :
    Act.Matches R Eq (Dummy.takeRows cell pps p patience samples points rows)
      (Dummy.takeRows cell pps p.flipped patience samples points rows) := by
  induction points generalizing rows with
  | nil => exact Act.matches_pure rfl
  | cons point points ih =>
    refine Act.matches_bind_eq (Act.matches_modify hget hset _) fun _ => ?_
    refine Act.matches_bind_eq (hnote _) fun _ => ?_
    refine Act.matches_bind_eq (matches_takeRow hwait hread p patience samples.toNat []) fun row => ?_
    cases row with
    | error e => exact Act.matches_pure rfl
    | ok row => exact ih _

theorem matches_calibrate (patience : Nat) (plan : Calibration.Plan) (p : Polarity) :
    Act.Matches R Eq (Dummy.calibrate cell patience plan pps p) (Dummy.calibrate cell patience plan pps p.flipped) := by
  refine Act.matches_bind_eq hget fun d => ?_
  refine Act.matches_bind_eq (hnote _) fun _ => ?_
  refine Act.matches_bind_eq (matches_takeRows hwait hread hnote hget hset p patience plan.samples plan.points []) fun r => ?_
  refine Act.matches_bind_eq (Act.matches_modify hget hset _) fun _ => ?_
  cases r with
  | ok results => exact Act.matches_pure rfl
  | error e => exact Act.matches_bind_eq (hnote _) fun _ => Act.matches_pure rfl

end

end ClockDiscipline
