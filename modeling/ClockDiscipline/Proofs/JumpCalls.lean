/-
  ClockDiscipline.Proofs.JumpCalls — the calls of a turn with a phase jump.

  The phase is shifted where the engine asked for a jump, and only there. The offset is
  minus what the engine answered, and the shift is the last call of the turn.

  Proved: (1) both, of what follows a good sample (`jump_of_acting`, `jump_of_shift`);
  (2) both, of a whole turn (`calls_of_jump`, `asksToJump_of_shift`).
-/

import ClockDiscipline.Proofs.TurnForm

namespace ClockDiscipline

/-! ## (1) After a good sample -/

section

variable {calls : List Call} {p : Polarity} {i : ControlInput} {o : ControlOutput} {b : Except Error Bool}
  {settings : Settings} {s : LoopState} {n ns : Int32} {r : Except Error (Turn × LoopState)} {a : Except IoError Unit}

theorem shift_of_correcting (h : Correcting p o calls b) (hj : o.action = .phaseJump) :
    ∃ a, calls = [⟨.shift (-o.phaseShift), a⟩] ∧ (a = .ok () ∨ ∃ e, b = .error e) := by
  cases h with
  | jumpFails _ e => exact ⟨_, rfl, Or.inr ⟨_, rfl⟩⟩
  | jumps _ => exact ⟨_, rfl, Or.inl rfl⟩
  | planMissing h | resultsMissing h | calibrates h => rw [hj] at h; cases h
  | applyFails h | applies h => exact absurd hj h

theorem action_of_shift (h : Correcting p o calls b) (hs : ⟨.shift ns, a⟩ ∈ calls) : o.action = .phaseJump := by
  cases h with
  | jumpFails h e => exact h
  | jumps h => exact h
  | _ => simp at hs

theorem not_shift_of_reading {q : Except Error Readout} (h : Reading calls q) (ns : Int32) (a : Except IoError Unit) :
    (⟨.shift ns, a⟩ : Call) ∉ calls := by
  cases h <;> simp

/-- A turn whose engine asks for a jump goes on to shift the phase, and to nothing else. -/
theorem jump_of_acting (h : Acting settings s n calls r) (hp : ⟨.process i, .ok o⟩ ∈ calls)
    (hj : o.action = .phaseJump) : ∃ reads q a, Reading reads (.ok q) ∧
      i = .build n settings.polarity q ∧ calls = reads ++ [⟨.process i, .ok o⟩, ⟨.shift (-o.phaseShift), a⟩] ∧
      (a = .ok () ∨ ∃ e, r = .error e) := by
  cases h with
  | unread h => exact absurd hp (not_process_of_reading h _ _)
  | undecided h e => cases (eq_of_process_mem (not_process_of_reading h _ _) List.not_mem_nil hp).2
  | failed h h' hi =>
    obtain ⟨rfl, ho⟩ := eq_of_process_mem (not_process_of_reading h _ _) (not_process_of_correcting h' _ _) hp
    cases ho
    obtain ⟨a, rfl, -⟩ := shift_of_correcting h' hj
    exact ⟨_, _, a, h, hi.eq_build h, rfl, Or.inr ⟨_, rfl⟩⟩
  | acted h h' hi =>
    obtain ⟨rfl, ho⟩ := eq_of_process_mem (not_process_of_reading h _ _) (not_process_of_correcting h' _ _) hp
    cases ho
    obtain ⟨a, rfl, rfl | ⟨e, he⟩⟩ := shift_of_correcting h' hj
    · exact ⟨_, _, _, h, hi.eq_build h, rfl, Or.inl rfl⟩
    · cases he

/-- The phase is shifted only where the engine asked for a jump. -/
theorem jump_of_shift (h : Acting settings s n calls r) (hs : ⟨.shift ns, a⟩ ∈ calls) :
    ∃ i o, ⟨.process i, .ok o⟩ ∈ calls ∧ o.action = .phaseJump := by
  cases h with
  | unread h => exact absurd hs (not_shift_of_reading h ns a)
  | undecided h e =>
    rcases List.mem_append.mp hs with hs | hs
    · exact absurd hs (not_shift_of_reading h ns a)
    · cases List.mem_singleton.mp hs
  | failed h h' | acted h h' =>
    rcases List.mem_append.mp hs with hs | hs
    · exact absurd hs (not_shift_of_reading h ns a)
    rcases List.mem_cons.mp hs with hs | hs
    · cases hs
    · exact ⟨_, _, List.mem_append_right _ List.mem_cons_self, action_of_shift h' hs⟩

end

/-! ## (2) In a turn -/

namespace Turn

/-- Whether an engine asked for a phase jump. -/
def AsksToJump (calls : List Call) : Prop := ∃ i o, ⟨.process i, .ok o⟩ ∈ calls ∧ o.action = .phaseJump

section

variable {W : Type} [Journal (Act W)] (rig : Rig (Act W)) {settings : Settings} {s : LoopState} {w v : W}
  {r : Except Error (Turn × LoopState)} {n ns : Int32} {i : ControlInput} {o : ControlOutput} {a : Except IoError Unit}
  (hr : (Turn.take rig settings s).run w = .ok r v)

include hr

theorem asksToJump_of_shift (hs : ⟨.shift ns, a⟩ ∈ callsMade rig settings s w) :
    AsksToJump (callsMade rig settings s w) := by
  obtain ⟨f, hf⟩ := fits_of_ok rig hr
  obtain ⟨n, rest, hc, ha, hs⟩ := Form.acting_of_mem hf hs (fun _ h => by cases h) (fun h => by cases h)
  obtain ⟨i, o, hp, hj⟩ := jump_of_shift ha hs
  rw [hc]
  exact ⟨i, o, List.mem_cons_of_mem _ (List.mem_cons_of_mem _ hp), hj⟩

/-- All calls of a turn whose engine asks for a jump. -/
theorem calls_of_jump (hn : ⟨.read, .ok n⟩ ∈ callsMade rig settings s w)
    (hp : ⟨.process i, .ok o⟩ ∈ callsMade rig settings s w) (hj : o.action = .phaseJump) :
    ∃ q a reads, Reading reads (.ok q) ∧ i = .build n settings.polarity q ∧ callsMade rig settings s w =
      ⟨.wait settings.ppsTimeout, .ok .dataReady⟩ :: ⟨.read, .ok n⟩ ::
        (reads ++ [⟨.process i, .ok o⟩, ⟨.shift (-o.phaseShift), a⟩]) ∧ (a = .ok () ∨ ∃ e, r = .error e) := by
  obtain ⟨f, hf⟩ := fits_of_ok rig hr
  obtain ⟨m, rest, hc, ha, hp⟩ := Form.acting_of_mem hf hp (fun _ h => by cases h) (fun h => by cases h)
  obtain ⟨reads, q, a, hq, rfl, rfl, hf⟩ := jump_of_acting ha hp hj
  have he : n = m := by
    rw [hc] at hn
    cases hq
    simpa using hn
  subst he
  exact ⟨q, a, reads, hq, rfl, hc, hf⟩

theorem shift_eq_of_jump (hn : ⟨.read, .ok n⟩ ∈ callsMade rig settings s w)
    (hp : ⟨.process i, .ok o⟩ ∈ callsMade rig settings s w) (hj : o.action = .phaseJump)
    (hs : ⟨.shift ns, a⟩ ∈ callsMade rig settings s w) : ns = -o.phaseShift := by
  obtain ⟨q, b, reads, hq, rfl, hc, -⟩ := calls_of_jump rig hr hn hp hj
  rw [hc] at hs
  cases hq
  have h : ns = -o.phaseShift ∧ a = b := by simpa using hs
  exact h.1

end

end Turn

end ClockDiscipline
