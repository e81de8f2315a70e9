/-
  ClockDiscipline.Proofs.JumpOffset — what a phase jump of the built-in engine writes.

  The offset written is to take away the phase error that the sample showed: minus the
  sample, with the sign of the polarity. The engine refuses errors beyond 32 bits, and
  the correction negates the answer of the engine. The least error fits 32 bits, but its
  negation does not, and wraps around to the error itself.

  Proved: (1) a jump of the engine is by the error, and the error fits 32 bits
  (`shift_of_process`); (2) a turn writes no other offset than the one that takes the
  error away, but for the least error (`turn_takes_the_error_away_iff`), which is written
  as it is, so that it doubles (`least_error_is_written_unchanged`).
-/

import ClockDiscipline.Proofs.JumpCalls
import ClockDiscipline.Proofs.PidAnswers
import ClockDiscipline.Rehearsal.Stage

namespace ClockDiscipline

/-! ## (1) The engine -/

section

variable {R : Type} [Scalar R]

theorem shift_of_process {e e' : Pid R} {i : ControlInput} {o : ControlOutput} (h : e.process i = some (.ok o, e'))
    (hj : o.action = .phaseJump) : ∃ total, i.phase.asNs? = some total ∧ int32? total.toInt = some o.phaseShift := by
  cases Pid.decided_of_process h with
  | held | asked => cases hj
  | jumped _ _ ht _ hs => exact ⟨_, ht, hs⟩
  | steered _ _ _ _ hs =>
    rw [Pid.action_of_steered hs] at hj
    cases hj

end

/-! ## (2) The offset -/

/-- No offset is written but the one that takes the error of the sample away. Where a jump is asked for and that
    offset does not fit 32 bits, the turn fails and writes none. -/
def TakesErrorAway (p : Polarity) (n : Int32) (calls : List Call) (r : Except Error (Turn × LoopState)) : Prop :=
  (∀ ns, ⟨.shift ns, .ok ()⟩ ∈ calls → ns.toInt = -(p.sign.toInt * n.toInt)) ∧
    (Turn.AsksToJump calls → int32? (-(p.sign.toInt * n.toInt)) = none →
      (∃ e, r = .error e) ∧ ∀ ns, ⟨.shift ns, .ok ()⟩ ∉ calls)

theorem sign_cases (p : Polarity) : (p = .normal ∧ p.sign.toInt = 1) ∨ (p = .opposite ∧ p.sign.toInt = -1) := by
  cases p
  · exact Or.inl ⟨rfl, rfl⟩
  · exact Or.inr ⟨rfl, rfl⟩

/-- The one sample whose error is the least of 32 bits. -/
theorem least_error_iff (p : Polarity) (n : Int32) :
    p.sign.toInt * n.toInt = Int32.minValue.toInt ↔ n = Int32.minValue ∧ p = .normal := by
  have h1 := n.le_toInt
  have h2 := n.toInt_lt
  rw [← Int32.toInt_inj, Int32.toInt_minValue]
  rcases sign_cases p with ⟨rfl, hp⟩ | ⟨rfl, hp⟩
  · rw [hp, Int.one_mul]
    simp
  · rw [hp]
    simp
    omega

/-- The built-in engine before anything is set, among played parts. -/
def playedRig : Rig (Act Rehearsal.Stage) where
  pps := Rehearsal.Script.source "pps" Rehearsal.Stage.scriptSlot.cell Rehearsal.Stage.raise
  oscillator := Rehearsal.Understudy.oscillator "understudy" Rehearsal.Stage.understudySlot.cell
  receiver := Rehearsal.playedReceiver 0 Rehearsal.Stage.fixesSlot.cell
  engine := Pid.engine .full Rehearsal.Stage.pidSlot.cell

/-- A stage where one sample is to come. -/
def oneSample (n : Int32) : Rehearsal.Stage := { Rehearsal.Stage.empty with script := ⟨[.sample n], none, []⟩ }

def playedReadout : Readout := ⟨⟨1000, 10, true⟩, 0, true, 0⟩

/-- The calls of the turn that jumps over this sample. -/
def playedJump (n : Int32) : List Call := [
  ⟨.wait Settings.standard.ppsTimeout, .ok .dataReady⟩, ⟨.read, .ok n⟩, ⟨.temperature, .ok none⟩, ⟨.poll, .ok .valid⟩,
  ⟨.qerr, 0⟩, ⟨.controls, .ok playedReadout.controls⟩,
  ⟨.process (.build n .normal playedReadout), .ok ⟨.phaseJump, 1000, n⟩⟩, ⟨.shift (-n), .ok ()⟩]

section

variable {W R : Type} [Journal (Act W)] [Numeral R] {k : Slot W (Pid R)} {range : DacRange} {rig : Rig (Act W)}
  {settings : Settings} {s : LoopState} {w v : W} {r : Except Error (Turn × LoopState)} {n : Int32} {i : ControlInput}
  {o : ControlOutput}

theorem phaseShift_of_jump (he : rig.engine = Pid.engine range k.cell) {q : Readout}
    (hp : ⟨.process (.build n settings.polarity q), .ok o⟩ ∈ Turn.callsMade rig settings s w)
    (hj : o.action = .phaseJump) : o.phaseShift.toInt = settings.polarity.sign.toInt * n.toInt := by
  rw [Turn.callsMade_eq] at hp
  obtain ⟨w₁, w₂, ha⟩ := Talk.answered_of_mem_calls _ hp
  have ha : rig.engine.process (.build n settings.polarity q) w₁ = .ok (.ok o) w₂ := ha
  rw [he] at ha
  obtain ⟨e, hs, -⟩ := process_of_engine ha
  obtain ⟨total, ht, hs⟩ := shift_of_process hs hj
  have h : some (settings.polarity.apply n) = some total := by
    rw [← ht]
    exact (asNs?_ofNs _).symm
  rw [toInt_of_int32? hs, ← Option.some.inj h, toInt_apply]

/-- A turn takes away the error of its sample, unless it is the least one and the device took an offset for it. -/
theorem turn_takes_the_error_away_iff (he : rig.engine = Pid.engine range k.cell)
    (hr : (Turn.take rig settings s).run w = .ok r v) (hn : ⟨.read, .ok n⟩ ∈ Turn.callsMade rig settings s w) :
    TakesErrorAway settings.polarity n (Turn.callsMade rig settings s w) r ↔
      ¬(n = Int32.minValue ∧ settings.polarity = .normal ∧
        ∃ ns, ⟨.shift ns, .ok ()⟩ ∈ Turn.callsMade rig settings s w) := by
  by_cases hw : ∃ ns, ⟨.shift ns, .ok ()⟩ ∈ Turn.callsMade rig settings s w
  · obtain ⟨ns₀, hs₀⟩ := hw
    obtain ⟨i, o, hp, ho⟩ := Turn.asksToJump_of_shift rig hr hs₀
    have hs : o.phaseShift.toInt = settings.polarity.sign.toInt * n.toInt := by
      obtain ⟨q, a, reads, -, rfl, -⟩ := Turn.calls_of_jump rig hr hn hp ho
      exact phaseShift_of_jump he hp ho
    unfold TakesErrorAway
    rw [← and_assoc, ← least_error_iff, ← hs]
    constructor
    · rintro ⟨-, h⟩ ⟨hm, -⟩
      rw [Int32.toInt_minValue] at hm
      have hnone : int32? (-o.phaseShift.toInt) = none := int32?_eq_none_iff.mpr (by omega)
      exact (h ⟨i, o, hp, ho⟩ hnone).2 ns₀ hs₀
    · intro hm
      have hm : o.phaseShift.toInt ≠ Int32.minValue.toInt := fun h => hm ⟨h, ns₀, hs₀⟩
      refine ⟨fun ns h => ?_, fun _ h => ?_⟩
      · rw [Turn.shift_eq_of_jump rig hr hn hp ho h]
        exact toInt_neg_of_ne hm
      · have h1 := o.phaseShift.le_toInt
        have h2 := o.phaseShift.toInt_lt
        rw [Int32.toInt_minValue] at hm
        rw [int32?_eq_none_iff] at h
        omega
  · -- Without an offset written there is only a jump that failed, if any.
    refine iff_of_true ⟨fun ns h => absurd ⟨ns, h⟩ hw, fun hj _ => ⟨?_, fun ns h => hw ⟨ns, h⟩⟩⟩ fun h => hw h.2.2
    obtain ⟨i, o, hp, ho⟩ := hj
    obtain ⟨q, a, reads, -, -, hc, rfl | hf⟩ := Turn.calls_of_jump rig hr hn hp ho
    · refine absurd ⟨-o.phaseShift, ?_⟩ hw
      rw [hc]
      simp
    · exact hf

end

theorem jump_takes_five_microseconds_away :
    TakesErrorAway .normal 5000 (Turn.callsMade playedRig .standard (.start 0) (oneSample 5000))
      (.ok (.acted .phaseJump, (LoopState.start 0).ignoring)) := by
  have hc : Turn.callsMade playedRig .standard (.start 0) (oneSample 5000) = playedJump 5000 := rfl
  refine (turn_takes_the_error_away_iff (k := Rehearsal.Stage.pidSlot) rfl rfl ?_).mpr ?_
  · rw [hc]
    simp [playedJump]
  · rintro ⟨h, -⟩
    cases h

/-- The least sample is written as it is, which makes the error twice as large, and the turn ends well. -/
theorem least_error_is_written_unchanged :
    let calls := Turn.callsMade playedRig .standard (.start 0) (oneSample Int32.minValue)
    let r : Except Error (Turn × LoopState) := .ok (.acted .phaseJump, (LoopState.start 0).ignoring)
    (∃ v, (Turn.take playedRig .standard (.start 0)).run (oneSample Int32.minValue) = .ok r v) ∧
      calls = playedJump Int32.minValue ∧ -Int32.minValue = Int32.minValue ∧
      ¬TakesErrorAway .normal Int32.minValue calls r := by
  refine ⟨⟨_, rfl⟩, rfl, rfl, ?_⟩
  rintro ⟨-, h⟩
  have hj : Turn.AsksToJump (playedJump Int32.minValue) :=
    ⟨.build Int32.minValue .normal playedReadout, ⟨.phaseJump, 1000, Int32.minValue⟩, by simp [playedJump], rfl⟩
  have hs : ⟨.shift (-Int32.minValue), .ok ()⟩ ∈ playedJump Int32.minValue := by simp [playedJump]
  exact (h hj (by decide)).2 _ hs

end ClockDiscipline
