/-
  ClockDiscipline.Proofs.NegatedScript — a PPS source that plays its samples negated.

  The source plays a script; the oscillator is the built-in one. Receiver, engine and
  journal may be anything that does not look into the script. With the other polarity and
  every sample of the script negated, a run is the same: the same answers, the same
  inputs and outputs of the engine, the same offsets and measures, the same oscillator.
  Scripts with the least sample, which has no opposite, are left out.

  Proved: (1) a negated script plays alike (`opposed_wait`, `negated_read`); (2) so does
  the whole rig (`mirrors_scriptedRig`); (3) rows of turns are the same up to the samples
  that are read (`the_other_polarity_undoes_negated_samples`).
-/

import ClockDiscipline.Proofs.Mirror
import ClockDiscipline.Rehearsal.Stage

namespace ClockDiscipline

/-! ## (1) Scripts -/

namespace Rehearsal

def Cue.negated : Cue → Cue
  | .sample n => .sample (-n)
  | c => c

namespace Script

def negated (s : Script) : Script :=
  { s with cues := s.cues.map Cue.negated, pending := s.pending.map (·.map (-·)) }

/-- No sample is the least one. -/
structure NoLeast (s : Script) : Prop where
  cues : .sample Int32.minValue ∉ s.cues
  pending : s.pending ≠ some (.ok Int32.minValue)

/-- Two scripts of which the second plays the first negated. -/
structure Opposed (s s' : Script) : Prop where
  noLeast : s.NoLeast
  eq : s' = s.negated

theorem opposed_negated {s : Script} (h : s.NoLeast) : Opposed s s.negated := ⟨h, rfl⟩

theorem opposed_wait {s s' : Script} (h : Opposed s s') : s.wait.1 = s'.wait.1 ∧ Opposed s.wait.2 s'.wait.2 := by
  obtain ⟨⟨hc, hp⟩, rfl⟩ := h
  obtain ⟨cues, pending, shifts⟩ := s
  cases cues with
  | nil => exact ⟨rfl, ⟨hc, hp⟩, rfl⟩
  | cons c cues =>
    have hc' : Cue.sample Int32.minValue ∉ cues := fun h => hc (List.mem_cons_of_mem c h)
    cases c with
    | sample n =>
      refine ⟨rfl, ⟨hc', fun h => hc ?_⟩, rfl⟩
      cases h
      exact List.mem_cons_self
    | readFails e => exact ⟨rfl, ⟨hc', fun h => by cases h⟩, rfl⟩
    | _ => exact ⟨rfl, ⟨hc', hp⟩, rfl⟩

theorem negated_read {s s' : Script} (h : Opposed s s') : Negated s.read.1 s'.read.1 ∧ Opposed s.read.2 s'.read.2 := by
  obtain ⟨⟨hc, hp⟩, rfl⟩ := h
  obtain ⟨cues, pending, shifts⟩ := s
  refine ⟨?_, ⟨hc, fun h => by cases h⟩, rfl⟩
  rcases pending with _ | (e | n)
  · exact .failure _
  · exact .failure e
  · refine .sample fun hn => hp ?_
    rw [hn]

theorem opposed_shift {s s' : Script} (h : Opposed s s') : s.shift.1 = s'.shift.1 ∧ Opposed s.shift.2 s'.shift.2 := by
  obtain ⟨⟨hc, hp⟩, rfl⟩ := h
  exact ⟨rfl, ⟨hc, hp⟩, rfl⟩

end Script

end Rehearsal

/-! ## (2) The rig -/

open Rehearsal

section

variable {V : Type} [Journal (Act V)] (name : String) (patience : Nat) (raise : Signal → Act V Unit) (k : Slot V Dummy)
  (receiver : Receiver (Act V)) (engine : Engine (Act V))

/-- A source that plays a script, and the built-in oscillator. -/
def scriptedRig : Rig (Act (Beside Script V)) where
  pps := Script.source name Beside.slot.cell fun s => Beside.aside (raise s)
  oscillator := Dummy.oscillator patience (k.cell.mapped Beside.aside)
  receiver := receiver.mapped Beside.aside
  engine := engine.mapped Beside.aside

theorem matches_wait (t : Span) :
    Act.Matches (Beside.Apart Script.Opposed) Eq ((scriptedRig name patience raise k receiver engine).pps.wait t)
      ((scriptedRig name patience raise k receiver engine).pps.wait t) := by
  refine Act.matches_bind Beside.matches_get fun s s' hs => ?_
  refine Act.matches_bind_eq (Beside.matches_step fun _ _ => Script.opposed_wait) fun event => ?_
  obtain ⟨-, rfl⟩ := hs
  obtain ⟨cues, pending, shifts⟩ := s
  rcases cues with _ | ⟨c, cues⟩
  · exact Act.matches_pure rfl
  · cases c with
    | signal s => exact Act.matches_bind_eq (Beside.matches_aside (raise s)) fun _ => Act.matches_pure rfl
    | _ => exact Act.matches_pure rfl

theorem matches_read :
    Act.Matches (Beside.Apart Script.Opposed) Negated ((scriptedRig name patience raise k receiver engine).pps.read)
      ((scriptedRig name patience raise k receiver engine).pps.read) :=
  Beside.matches_step (P := Script.Opposed) (f := Script.read) (g := Script.read) fun _ _ => Script.negated_read

theorem mirrors_scriptedRig :
    Mirrors (Beside.Apart Script.Opposed) (scriptedRig name patience raise k receiver engine) where
  note e := Beside.matches_aside _
  answer {c d Q} h := by
    cases h with
    | read => exact matches_read name patience raise k receiver engine
    | calibrate plan p =>
      exact matches_calibrate (matches_wait name patience raise k receiver engine)
        (matches_read name patience raise k receiver engine) (fun e => Beside.matches_aside _)
        (Beside.matches_get_mapped k.cell) (Beside.matches_set_mapped k.cell) patience plan p
    | unsigned hc =>
      cases c with
      | read | calibrate => exact hc.elim
      | wait t => exact matches_wait name patience raise k receiver engine t
      | shift ns =>
        exact Beside.matches_step (P := Script.Opposed) (f := Script.shift) (g := Script.shift) fun _ _ =>
          Script.opposed_shift
      | releasePps | releaseOscillator | temperature => exact Act.matches_pure rfl
      | controls => exact Act.matches_bind_eq (Beside.matches_get_mapped k.cell) fun _ => Act.matches_pure rfl
      | apply o =>
        refine Act.matches_bind_eq (Act.matches_modify (Beside.matches_get_mapped k.cell)
          (Beside.matches_set_mapped k.cell) _) fun _ => ?_
        exact Act.matches_pure rfl
      | bound lo hi =>
        exact Act.matches_modify (Beside.matches_get_mapped k.cell) (Beside.matches_set_mapped k.cell) _
      | _ => exact Beside.matches_aside _

end

/-! ## (3) Rows of turns -/

/-- On the negated script the other polarity makes the same row of turns: same answers and same calls up to the
    samples read and the polarity handed to a calibration, and afterwards the same world but for the script. -/
theorem the_other_polarity_undoes_negated_samples {V : Type} [Journal (Act V)] (name : String) (patience : Nat)
    (raise : Signal → Act V Unit) (k : Slot V Dummy) (receiver : Receiver (Act V)) (engine : Engine (Act V))
    (settings : Settings) {script : Script} (h : script.NoLeast) (v : V) (n : Nat) (s : LoopState) :
    let rig := scriptedRig name patience raise k receiver engine
    let normal := { settings with polarity := .normal }
    let opposite := { settings with polarity := .opposite }
    Turn.records rig opposite n s ⟨script.negated, v⟩ = (Turn.records rig normal n s ⟨script, v⟩).map Turn.Record.mirrored ∧
      Alike (Beside.Apart Script.Opposed) Eq (Turn.series rig normal n s ⟨script, v⟩)
        (Turn.series rig opposite n s ⟨script.negated, v⟩) := by
  intro rig normal opposite
  have hm : Mirrors (Beside.Apart Script.Opposed) rig := mirrors_scriptedRig name patience raise k receiver engine
  have hw : Beside.Apart Script.Opposed ⟨script, v⟩ ⟨script.negated, v⟩ := ⟨Script.opposed_negated h, rfl⟩
  exact ⟨mirrored_records hm normal n s hw, matches_series hm normal n s _ _ hw⟩

/-- A sample to calibrate after, two to measure with a cut wait between them, and one to jump over. -/
def signedScript : Script := ⟨[.sample 5, .sample 7, .interrupted, .sample (-9), .sample 100], none, []⟩

def signedStage : Stage :=
  { Stage.empty with outputs := [.ok ⟨.calibrate, 0, 0⟩, .ok ⟨.phaseJump, 0, 100⟩] }

def signedRig : Rig (Act (Beside Script Stage)) :=
  scriptedRig "pps" 2 Stage.raise Stage.dummySlot (playedReceiver 0 Stage.fixesSlot.cell)
    (playedEngine 0 100 (some ⟨[10], 2⟩) Stage.outputsSlot.cell)

/-- The measures that were submitted. -/
def Turn.Record.measures (q : Turn.Record) : List Calibration.Results :=
  q.calls.filterMap fun
    | ⟨.submit _ r, _⟩ => some r
    | _ => none

def Turn.Record.offsets (q : Turn.Record) : List Int32 :=
  q.calls.filterMap fun
    | ⟨.shift ns, _⟩ => some ns
    | _ => none

/-- The measures and the offset of the second run have the signs of the first. -/
theorem signed_run_is_mirrored :
    let opposite := { Settings.standard with polarity := .opposite }
    let first := Turn.records signedRig .standard 2 (.start 0) ⟨signedScript, signedStage⟩
    let second := Turn.records signedRig opposite 2 (.start 0) ⟨signedScript.negated, signedStage⟩
    signedScript.NoLeast ∧ second = first.map Turn.Record.mirrored ∧
      second.flatMap Turn.Record.measures = [⟨[[7, -9]]⟩] ∧ second.flatMap Turn.Record.offsets = [-100] := by
  intro opposite first second
  have hl : signedScript.NoLeast := by
    refine ⟨by decide, fun h => ?_⟩
    cases h
  obtain ⟨hr, -⟩ := the_other_polarity_undoes_negated_samples "pps" 2 Stage.raise Stage.dummySlot
    (playedReceiver 0 Stage.fixesSlot.cell) (playedEngine 0 100 (some ⟨[10], 2⟩) Stage.outputsSlot.cell) .standard hl
    signedStage 2 (.start 0)
  refine ⟨hl, hr, ?_, ?_⟩
  · decide +kernel
  · decide +kernel

end ClockDiscipline
