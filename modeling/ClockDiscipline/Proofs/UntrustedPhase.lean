/-
  ClockDiscipline.Proofs.UntrustedPhase — a phase error without a fix behind it moves nothing.

  Engine and oscillator are the built-in ones, in any state. The PPS source may be
  anything and sees the oscillator as it is; the receiver may be anything. A turn whose
  receiver has a fix that is not valid has its engine hold, and an oscillator that is
  handed an output that holds stays as it is.

  Proved: (1) what a call does to the oscillator is what it says
  (`does_of_answer`); (2) a turn without a valid fix leaves engine, oscillator and loop as
  they were and shifts nothing (`frame_of_acting`); (3) so that an engine answers its valid
  inputs as if it had not been given the others (`serve_trusted`), which (2) and this
  together say of the daemon (`an_untrusted_phase_moves_nothing`).
-/

import ClockDiscipline.Number.Exact
import ClockDiscipline.Oscillator.Dummy
import ClockDiscipline.Proofs.PidTurn
import ClockDiscipline.Rehearsal.Stage

namespace ClockDiscipline

/-! ## (1) Calls -/

/-- What a call in a turn and its answer say about the oscillator before and after. -/
def Dummy.Does (d : Dummy) (c : Call) (d' : Dummy) : Prop :=
  match c with
  | ⟨.apply o, _⟩ => d' = d.apply o
  | ⟨.calibrate _ _, _⟩ => True
  | _ => d' = d

theorem Beside.others_of_aside {S V α : Type} {x : Act V α} {w v : Beside S V} {a : α} (h : aside x w = .ok a v) :
    x w.others = .ok a v.others := by
  unfold aside look at h
  cases hx : x w.others with
  | ok b u =>
    simp only [hx] at h
    cases h
    rfl
  | error e u =>
    simp only [hx] at h
    cases h

/-- The built-in engine and oscillator. The source can look at the oscillator. -/
def builtinRig {V R : Type} [Journal (Act V)] [Numeral R] (range : DacRange) (patience : Nat)
    (pps : EdgeSource (ReaderT Dummy (Act V))) (receiver : Receiver (Act V)) :
    Rig (Act (Beside (Pid R) (Beside Dummy V))) :=
  Pid.rig range (pps.mapped Beside.look) (Dummy.oscillator patience Beside.slot.cell) (receiver.mapped Beside.aside)

section

variable {V R : Type} [Journal (Act V)] [Numeral R] (range : DacRange) (patience : Nat)
  (pps : EdgeSource (ReaderT Dummy (Act V))) (receiver : Receiver (Act V))

theorem Dummy.does_of_answer (c : Ask) (a : c.Answer) (w v : Beside (Pid R) (Beside Dummy V)) (hc : c.InTurn)
    (h : (builtinRig range patience pps receiver).answer c w = .ok a v) : Does w.others.own ⟨c, a⟩ v.others.own := by
  cases c with
  | wait | read | shift => exact Beside.own_of_look (Beside.others_of_aside h)
  | poll | qerr => exact Beside.own_of_aside (Beside.others_of_aside h)
  | controls =>
    have hv : w.others = v.others :=
      (EStateM.Result.ok.inj (Beside.others_of_aside (x := (oscillator patience Beside.slot.cell).controls) h)).2
    show v.others.own = w.others.own
    rw [hv]
  | temperature =>
    have hv : w.others = v.others :=
      (EStateM.Result.ok.inj (Beside.others_of_aside (x := (oscillator patience Beside.slot.cell).temperature) h)).2
    show v.others.own = w.others.own
    rw [hv]
  | apply o =>
    have hv : { w.others with own := w.others.own.apply o } = v.others :=
      (EStateM.Result.ok.inj (Beside.others_of_aside (x := (oscillator patience Beside.slot.cell).apply o) h)).2
    show v.others.own = w.others.own.apply o
    rw [← hv]
  | calibrate => trivial
  | process i =>
    obtain ⟨e, -, rfl⟩ := process_of_engine h
    rfl
  | plan =>
    cases h
    rfl
  | submit p r =>
    obtain ⟨_, e, -, x, hx⟩ := submit_of_engine h
    have hn := Beside.others_of_aside (x := (Journal.note x : Act (Beside Dummy V) Unit)) hx
    exact Beside.own_of_note hn
  | bound | releasePps | releaseOscillator | releaseEngine => exact hc.elim

end

/-! ## (2) Turns -/

/-- An output that holds is an application that moves nothing. -/
theorem correcting_hold {p : Polarity} {fine : UInt32} {calls : List Call} {ignore : Bool}
    (h : Correcting p (.hold fine) calls (.ok ignore)) : calls = [⟨.apply (.hold fine), .ok ()⟩] ∧ ignore = false := by
  cases h with
  | jumps h => cases h
  | calibrates h => cases h
  | applies => exact ⟨rfl, rfl⟩

theorem frame_of_acting {R : Type} [Scalar R] {e e' : Pid R} {d d' : Dummy} {settings : Settings} {s s' : LoopState}
    {n : Int32} {calls : List Call} {t : Turn} {f : Fix} (h : Acting settings s n calls (.ok (t, s')))
    (hf : ⟨.poll, .ok f⟩ ∈ calls) (hv : f ≠ .valid) (he : Linked Pid.Does e calls e')
    (hd : Linked Dummy.Does d calls d') :
    e' = e ∧ d' = d ∧ s' = s ∧ ∀ ns a, ⟨.shift ns, a⟩ ∉ calls := by
  cases h with
  | @acted reads more q i o ignore h h' hi =>
  obtain rfl := hi.eq_build h
  cases h with
  | complete temperature g qerr controls =>
  have hg : f = g := by
    rcases List.mem_append.mp hf with hf | hf
    · simpa using hf
    · rcases List.mem_cons.mp hf with hf | hf
      · cases hf
      · exact absurd hf (Pid.not_poll_of_correcting h' _)
  subst hg
  simp only [List.cons_append, List.nil_append, linked_cons, Pid.Does] at he
  obtain ⟨_, rfl, _, rfl, _, rfl, _, rfl, e₁, hp, he⟩ := he
  rw [process_of_untrusted _ (by simp [ControlInput.build, hv])] at hp
  cases hp
  obtain ⟨rfl, rfl⟩ := correcting_hold h'
  simp only [linked_cons, linked_nil, Pid.Does] at he
  obtain ⟨_, rfl, rfl⟩ := he
  simp only [List.cons_append, List.nil_append, linked_cons, linked_nil, Dummy.Does] at hd
  obtain ⟨_, rfl, _, rfl, _, rfl, _, rfl, _, rfl, _, rfl, rfl⟩ := hd
  refine ⟨rfl, rfl, rfl, fun ns a hs => ?_⟩
  simp at hs

/-! ## (3) Inputs without a fix -/

/-- What an engine is given: samples to decide about, and results that it asked for. -/
inductive Pid.Request where
  | decide (i : ControlInput)
  | adopt (p : Calibration.Plan) (r : Calibration.Results)

def Pid.Request.trusted : Pid.Request → Bool
  | .decide i => i.valid
  | .adopt _ _ => true

/-- Samples with the decisions about them, and the engine afterwards. A step that leaves its range ends it. -/
def Pid.serve {R : Type} [Scalar R] (e : Pid R) :
    List Pid.Request → List (ControlInput × Except String ControlOutput) × Option (Pid R)
  | [] => ([], some e)
  | .decide i :: rest =>
    match e.process i with
    | some (a, e) => ((i, a) :: (e.serve rest).1, (e.serve rest).2)
    | none => ([], none)
  | .adopt p r :: rest =>
    match e.submit p r with
    | some (_, e) => e.serve rest
    | none => ([], none)

/-- The decisions about samples with a fix are the same without the other samples. -/
theorem Pid.serve_trusted {R : Type} [Scalar R] (e : Pid R) (rs : List Pid.Request) :
    e.serve (rs.filter Request.trusted) = ((e.serve rs).1.filter (·.1.valid), (e.serve rs).2) := by
  induction rs generalizing e with
  | nil => rfl
  | cons r rs ih =>
    cases r with
    | decide i =>
      cases hv : i.valid with
      | false =>
        -- The engine holds, as it was.
        rw [List.filter_cons_of_neg (by simp [Request.trusted, hv]), ih]
        simp only [serve, process_of_untrusted e hv]
        rw [List.filter_cons_of_neg (by simp [hv])]
      | true =>
        rw [List.filter_cons_of_pos (by simpa [Request.trusted] using hv)]
        cases hp : e.process i with
        | none => simp only [serve, hp, List.filter_nil]
        | some q =>
          simp only [serve, hp, ih]
          rw [List.filter_cons_of_pos (by simpa using hv)]
    | adopt p r =>
      rw [List.filter_cons_of_pos rfl]
      cases hp : e.submit p r with
      | none => simp only [serve, hp, List.filter_nil]
      | some q => simp only [serve, hp, ih]

theorem frame_of_take {V R : Type} [Journal (Act V)] [Numeral R] {range : DacRange} {patience : Nat}
    {pps : EdgeSource (ReaderT Dummy (Act V))} {receiver : Receiver (Act V)} {settings : Settings} {s s' : LoopState}
    {w v : Beside (Pid R) (Beside Dummy V)} {t : Turn} {f : Fix}
    (h : (Turn.take (builtinRig range patience pps receiver) settings s).run w = .ok (.ok (t, s')) v)
    (hf : ⟨.poll, .ok f⟩ ∈ Turn.callsMade (builtinRig range patience pps receiver) settings s w) (hv : f ≠ .valid) :
    v.own = w.own ∧ v.others.own = w.others.own ∧ s' = s ∧
      ∀ ns a, ⟨.shift ns, a⟩ ∉ Turn.callsMade (builtinRig range patience pps receiver) settings s w := by
  have he : Linked Pid.Does w.own (Turn.callsMade (builtinRig range patience pps receiver) settings s w) v.own :=
    Pid.linked_of_take h
  have hd := Turn.linked_callsMade (fun w => w.others.own)
    (fun _ _ _ hn => Beside.own_of_note (Beside.others_of_aside hn))
    (fun c a w v hc ha => Dummy.does_of_answer range patience pps receiver c a w v hc ha) h
  obtain ⟨form, hform⟩ := Turn.fits_of_ok _ h
  obtain ⟨n, rest, hc, ha, hf⟩ := Turn.Form.acting_of_mem hform hf (fun _ h => by cases h) (fun h => by cases h)
  rw [hc] at he hd ⊢
  simp only [linked_cons, Pid.Does, Dummy.Does] at he hd
  obtain ⟨_, h1, _, h2, he⟩ := he
  obtain ⟨_, h3, _, h4, hd⟩ := hd
  rw [h2, h1] at he
  rw [h4, h3] at hd
  obtain ⟨h1, h2, h3, h4⟩ := frame_of_acting ha hf hv he hd
  refine ⟨h1, h2, h3, fun ns a hs => ?_⟩
  rcases List.mem_cons.mp hs with hs | hs
  · cases hs
  rcases List.mem_cons.mp hs with hs | hs
  · cases hs
  · exact h4 ns a hs

/-- A turn that is told of a fix that is not valid and ends well leaves engine, oscillator and loop as they were
    and shifts nothing, so that an engine decides about samples with a fix as if there were no others. -/
theorem an_untrusted_phase_moves_nothing {V R : Type} [Journal (Act V)] [Numeral R] (range : DacRange) (patience : Nat)
    (pps : EdgeSource (ReaderT Dummy (Act V))) (receiver : Receiver (Act V)) (settings : Settings) :
    let rig := builtinRig (R := R) range patience pps receiver
    (∀ s w v t s' f, (Turn.take rig settings s).run w = .ok (.ok (t, s')) v →
      ⟨.poll, .ok f⟩ ∈ Turn.callsMade rig settings s w → f ≠ .valid →
      v.own = w.own ∧ v.others.own = w.others.own ∧ s' = s ∧
        ∀ ns a, ⟨.shift ns, a⟩ ∉ Turn.callsMade rig settings s w) ∧
      ∀ (e : Pid R) (rs : List Pid.Request),
        e.serve (rs.filter Pid.Request.trusted) = ((e.serve rs).1.filter (·.1.valid), (e.serve rs).2) := by
  intro rig
  exact ⟨fun s w v t s' f h hf hv => frame_of_take h hf hv, Pid.serve_trusted⟩

/-- A large phase error while the receiver waits for its fix. -/
def waitingStage : Beside (Pid Rat) (Beside Dummy Rehearsal.Stage) :=
  ⟨default, Dummy.create 1000 10,
    { Rehearsal.Stage.empty with script := ⟨[.sample 5000], none, []⟩, fixes := [.ok .waiting] }⟩

def waitingRig : Rig (Act (Beside (Pid Rat) (Beside Dummy Rehearsal.Stage))) :=
  builtinRig .full 1
    ((Rehearsal.Script.source "pps" Rehearsal.Stage.scriptSlot.cell Rehearsal.Stage.raise).mapped fun x _ => x)
    (Rehearsal.playedReceiver 0 Rehearsal.Stage.fixesSlot.cell)

/-- Five microseconds are neither jumped over nor adjusted to, and the next sample is not dropped. -/
theorem a_waiting_receiver_moves_nothing :
    ∃ v, (Turn.take waitingRig .standard (.start 0)).run waitingStage = .ok (.ok (.acted .none, .start 0)) v ∧
      v.own = default ∧ v.others.own = Dummy.create 1000 10 ∧
      ∀ ns a, ⟨.shift ns, a⟩ ∉ Turn.callsMade waitingRig .standard (.start 0) waitingStage := by
  have hc : Turn.callsMade waitingRig .standard (.start 0) waitingStage = [
    ⟨.wait Settings.standard.ppsTimeout, .ok .dataReady⟩, ⟨.read, .ok 5000⟩, ⟨.temperature, .ok none⟩,
    ⟨.poll, .ok .waiting⟩, ⟨.qerr, 0⟩, ⟨.controls, .ok ⟨1000, 10, false⟩⟩,
    ⟨.process (.build 5000 .normal ⟨⟨1000, 10, false⟩, 0, false, 0⟩), .ok (.hold 1000)⟩,
    ⟨.apply (.hold 1000), .ok ()⟩] := rfl
  have hf : ⟨.poll, .ok .waiting⟩ ∈ Turn.callsMade waitingRig .standard (.start 0) waitingStage := by
    rw [hc]
    simp
  obtain ⟨hturn, -⟩ := an_untrusted_phase_moves_nothing (R := Rat) .full 1
    ((Rehearsal.Script.source "pps" Rehearsal.Stage.scriptSlot.cell Rehearsal.Stage.raise).mapped fun x _ => x)
    (Rehearsal.playedReceiver 0 Rehearsal.Stage.fixesSlot.cell) .standard
  obtain ⟨h1, h2, -, h4⟩ := hturn (.start 0) waitingStage _ _ _ .waiting rfl hf (by decide)
  exact ⟨_, rfl, h1, h2, h4⟩

end ClockDiscipline
