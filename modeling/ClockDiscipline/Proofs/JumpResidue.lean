/-
  ClockDiscipline.Proofs.JumpResidue — a phase jump on the bench leaves the residue of rounding.

  The sample of an edge is its phase rounded to the next nanosecond, the jump takes away the
  sample, and so what it leaves is at most half a nanosecond. The sample of the next edge
  shows the jump and is dropped; after that the engine is asked about the residue and what
  the phase has drifted since. All this holds up to what a jump can take: beyond it a phase
  and its sample are different things.

  Proved:
  (1) A sample that is read with a valid fix comes to the engine (`decided_of_acting`).
  (2) A turn that meets a large one jumps, and nothing after its readout can halt it
      (`answers_act`, `take_jumps`).
  (3) Turns that ask the engine nothing let the phase drift and do nothing else to it
      (`drifted_of_unasked`), so that the next sample is known (`sample_after_unasked`).
  (4) Together: what a jump leaves, and what is seen of it (`a_jump_leaves_the_residue`).
-/

import ClockDiscipline.Proofs.EngineHalts
import ClockDiscipline.Proofs.JumpCalls
import ClockDiscipline.Proofs.JumpReset
import ClockDiscipline.Proofs.Plant

namespace ClockDiscipline

/-! ## (1) Readouts and decisions -/

section

variable {calls more : List Call} {q : Readout} {settings : Settings} {s : LoopState} {n : Int32}
  {r : Except Error (Turn × LoopState)} {k : Controls} {c : Call}

/-- The readout of a turn, with a valid fix: the receiver was polled and had one, and the oscillator could be read. -/
structure Turn.ReadsFix (calls : List Call) : Prop where
  polled : ⟨.poll, .ok .valid⟩ ∈ calls
  read : ∃ k, ⟨.controls, .ok k⟩ ∈ calls

theorem Turn.readsFix_iff : Turn.ReadsFix calls ↔
    (calls.any fun
      | ⟨.poll, .ok .valid⟩ => true
      | _ => false) = true ∧
    (calls.any fun
      | ⟨.controls, .ok _⟩ => true
      | _ => false) = true := by
  constructor
  · rintro ⟨hv, k, hk⟩
    exact ⟨List.any_eq_true.mpr ⟨_, hv, rfl⟩, List.any_eq_true.mpr ⟨_, hk, rfl⟩⟩
  · rintro ⟨hv, hk⟩
    obtain ⟨c, hc, hv⟩ := List.any_eq_true.mp hv
    obtain ⟨d, hd, hk⟩ := List.any_eq_true.mp hk
    split at hv
    · split at hk
      · exact ⟨hc, _, hd⟩
      · cases hk
    · cases hv

instance (calls : List Call) : Decidable (Turn.ReadsFix calls) := decidable_of_iff _ Turn.readsFix_iff.symm

theorem valid_of_reading (h : Reading calls (.ok q)) (hv : ⟨.poll, .ok .valid⟩ ∈ calls) : q.valid = true := by
  cases h with
  | complete t f q c =>
    have hf : Fix.valid = f := by simpa using hv
    simp [hf]

/-- The controls are read last, so that what is called after them is called after the readout. -/
theorem readout_before {reads rest : List Call} (h : Reading reads (.ok q)) (hc : calls ++ c :: more = reads ++ rest)
    (hk : ⟨.controls, .ok k⟩ ∈ calls) : ∃ done, calls = reads ++ done ∧ rest = done ++ c :: more := by
  rcases List.append_eq_append_iff.mp hc with ⟨left, hleft, hmore⟩ | hdone
  · by_cases hl : left = []
    · rw [hl, List.append_nil] at hleft
      rw [hl, List.nil_append] at hmore
      exact ⟨[], by rw [hleft, List.append_nil], hmore.symm⟩
    · have hlast : reads.dropLast = calls ++ left.dropLast := by
        rw [hleft, List.dropLast_append_of_ne_nil hl]
      have hk : ⟨.controls, .ok k⟩ ∈ reads.dropLast := by
        rw [hlast]
        exact List.mem_append_left _ hk
      cases h
      simp at hk
  · exact hdone

/-- A sample that is read with a valid fix comes to the engine, and what the engine answers is carried out. -/
theorem decided_of_acting (h : Acting settings s n calls r) (hf : Turn.ReadsFix calls) :
    ∃ reads q a more, Reading reads (.ok q) ∧ q.valid = true ∧
      calls = reads ++ ⟨.process (.build n settings.polarity q), a⟩ :: more ∧
      ∀ o, a = .ok o → ∃ b : Except Error Bool, Correcting settings.polarity o more b ∧
        r = b.map fun ignore => (.acted o.action, if ignore then s.ignoring else s) := by
  obtain ⟨hv, k, hk⟩ := hf
  cases h with
  | unread h => cases h <;> simp at hk
  | @undecided reads q i h e hi =>
    obtain rfl := hi.eq_build h
    have hv : ⟨.poll, .ok .valid⟩ ∈ reads := by simpa using hv
    exact ⟨reads, q, _, [], h, valid_of_reading h hv, rfl, nofun⟩
  | failed h h' hi | acted h h' hi =>
    obtain rfl := hi.eq_build h
    refine ⟨_, _, _, _, h, valid_of_reading h (by simpa [Pid.not_poll_of_correcting h'] using hv), rfl, ?_⟩
    intro o ho
    cases ho
    exact ⟨_, h', rfl⟩

/-- What ends without asking the engine fails at the readout. -/
theorem unread_of_acting (h : Acting settings s n calls r) (hi : ∀ i a, (⟨.process i, a⟩ : Call) ∉ calls) :
    ∃ e, Reading calls (.error e) ∧ r = .error e := by
  cases h with
  | unread h => exact ⟨_, h, rfl⟩
  | undecided | failed | acted => exact absurd (List.mem_append_right _ List.mem_cons_self) (hi _ _)

end

/-! ## (2) The jump -/

namespace Plant

/-- A large sample of a bench is jumped over. -/
theorem jumps_of_large {e : Pid Rat} {n : Int32} {q : Readout} (hv : q.valid = true) (hp : e.pending = false)
    (hx : e.tuning.jumpThreshold.toInt < n.toInt.natAbs) :
    e.process (.build n .normal q) =
      some (.ok ⟨.phaseJump, q.controls.fine, n⟩, { e with window := .zero }) := by
  have ht : (Polarity.apply .normal n).toInt = n.toInt := by
    rw [toInt_apply]
    exact Int.one_mul _
  refine Pid.process_of_jump hv hp (Pid.asNs?_build n .normal q) ?_ ?_
  · unfold Pid.Exceeds
    rwa [ht]
  · rw [ht]
    exact int32?_toInt n

section

variable {a b : Scene} {calls more : List Call} {q : Readout} {i : ControlInput} {x : Except String ControlOutput}
  {settings : Settings} {s : LoopState} {n : Int32} {r : Except Error (Turn × LoopState)} {c : Call}

theorem sim_of_reading {r : Except Error Readout} (h : Reading calls r) (hl : Linked Scene.Does a calls b) :
    b.pid = a.pid ∧ b.sim = a.sim := by
  refine Prod.mk.inj (kept_of_linked (fun c : Scene => (c.pid, c.sim)) hl fun c hc s t hs => ?_)
  obtain ⟨hp, hs⟩ := hs
  cases h <;> simp only [List.mem_cons, List.not_mem_nil, or_false] at hc <;>
    rcases hc with rfl | rfl | rfl | rfl <;> exact Prod.ext hp hs

/-- The engine decides, and the simulation waits. -/
theorem process_of_linked (h : Reading calls (.ok q)) (hl : Linked Scene.Does a (calls ++ ⟨.process i, x⟩ :: more) b) :
    ∃ c, a.pid.process i = some (x, c.pid) ∧ c.sim = a.sim ∧ Linked Scene.Does c more b := by
  obtain ⟨d, h1, h2⟩ := linked_append.mp hl
  obtain ⟨c, ⟨hp, hs⟩, h3⟩ := linked_cons.mp h2
  obtain ⟨hd, hs'⟩ := sim_of_reading h h1
  have hp : d.pid.process i = some (x, c.pid) := hp
  rw [hd] at hp
  exact ⟨c, hp, hs.trans hs', h3⟩

variable (hp : a.pid.pending = false) (hx : a.pid.tuning.jumpThreshold.toInt < n.toInt.natAbs)

include hp hx

theorem jump_of_linked (h : Reading calls (.ok q)) (hv : q.valid = true)
    (hl : Linked Scene.Does a (calls ++ ⟨.process (.build n .normal q), x⟩ :: more) b) :
    x = .ok ⟨.phaseJump, q.controls.fine, n⟩ ∧ ∃ c, c.sim = a.sim ∧ Linked Scene.Does c more b := by
  obtain ⟨c, hc, hs, hm⟩ := process_of_linked h hl
  rw [jumps_of_large hv hp hx] at hc
  obtain ⟨hx, -⟩ := Prod.mk.inj (Option.some.inj hc)
  exact ⟨hx.symm, c, hs, hm⟩

/-- After the readout of a large sample two calls are left, one of the engine and one of the device. -/
theorem asks_after_reading (hpol : settings.polarity = .normal) (h : Acting settings s n (calls ++ c :: more) r)
    (hf : Turn.ReadsFix calls) (hl : Linked Scene.Does a calls b) :
    (∃ q, q.valid = true ∧ b.pid = a.pid ∧ c.ask = .process (.build n .normal q)) ∨ c.ask = .shift (-n) := by
  obtain ⟨reads, q, x, rest, hreads, hq, hall, hdec⟩ := decided_of_acting h
    ⟨List.mem_append_left _ hf.polled, hf.read.imp fun k hk => List.mem_append_left _ hk⟩
  rw [hpol] at hall hdec
  obtain ⟨k, hk⟩ := hf.read
  obtain ⟨done, rfl, hnext⟩ := readout_before hreads hall hk
  cases done with
  | nil =>
    cases hnext
    rw [List.append_nil] at hl
    exact Or.inl ⟨q, hq, (sim_of_reading hreads hl).1, rfl⟩
  | cons d done =>
    obtain ⟨rfl, rfl⟩ := List.cons.inj hnext
    obtain ⟨rfl, -⟩ := jump_of_linked hp hx hreads hq hl
    obtain ⟨b, hb, -⟩ := hdec _ rfl
    obtain ⟨x, hshift, -⟩ := shift_of_correcting hb rfl
    cases done with
    | nil =>
      cases hshift
      exact Or.inr rfl
    | cons d done => simp at hshift

end

namespace Loop

section

variable {V : Type} [Journal (Act V)] {l : Loop V} (hl : l.Responds) {settings : Settings} {s : LoopState} {n : Int32}
  {w : Beside (Pid Rat) (Plant V)}

theorem inTurn_of_act {c : Call} (hc : c ∈ (Turn.act l.rig.script settings s n).run.calls l.rig w) : c.ask.InTurn := by
  obtain ⟨more, r, hp⟩ := Talk.path_of_calls l.rig (Turn.act l.rig.script settings s n).run w
  exact inTurn_of_acting (acting_of_path l.rig hp) (List.mem_append_left more hc)

/-- The calls after a good sample, and what they do to engine and simulation. -/
theorem linked_of_act {v : Beside (Pid Rat) (Plant V)} {r : Except Error (Turn × LoopState)}
    (hr : (Turn.act l.rig.script settings s n).run.perform l.rig w = .ok r v) :
    Acting settings s n ((Turn.act l.rig.script settings s n).run.calls l.rig w) r ∧
      Linked Scene.Does (Scene.of w) ((Turn.act l.rig.script settings s n).run.calls l.rig w) (Scene.of v) :=
  ⟨acting_of_path l.rig (Talk.path_of_ok l.rig hr), linked_calls Scene.of (fun _ _ _ h => scene_of_note h)
    (fun _ _ _ _ _ h => does_of_answer h) hr fun _ hc => inTurn_of_act hc⟩

variable (hpol : settings.polarity = .normal) (hp : w.own.pending = false)
  (hx : w.own.tuning.jumpThreshold.toInt < n.toInt.natAbs)
  (hf : Turn.ReadsFix ((Turn.act l.rig.script settings s n).run.calls l.rig w))

include hl hpol hp hx hf

/-- What follows a large sample and a valid fix does not halt: after the readout there are the engine and the device. -/
theorem answers_act : ∃ r v, (Turn.act l.rig.script settings s n).run.perform l.rig w = .ok r v := by
  generalize hcalls : (Turn.act l.rig.script settings s n).run.calls l.rig w = calls at hf
  cases hr : (Turn.act l.rig.script settings s n).run.perform l.rig w with
  | ok r v => exact ⟨r, v, rfl⟩
  | error x v =>
    exfalso
    obtain ⟨c, more, r, u, hpath, hlink, hu⟩ := linked_calls_of_halt Scene.of (fun _ _ _ h => scene_of_note h)
      (fun _ _ _ _ _ h => does_of_answer h)
      (fun e w => (answer_note hl w e).elim fun v hv => ⟨(), v, hv.1⟩) hr fun c hc => inTurn_of_act hc
    rw [hcalls] at hpath hlink
    rcases asks_after_reading (a := Scene.of w) hp hx hpol (acting_of_path l.rig hpath) hf hlink with
      ⟨q, hq, hpid, hc⟩ | hc
    · have hc : c = .process (.build n .normal q) := hc
      have hpid : u.own = w.own := hpid
      rw [← hpid] at hp hx
      subst hc
      rw [answer_process (jumps_of_large hq hp hx)] at hu
      cases hu
    · have hc : c = .shift (-n) := hc
      subst hc
      obtain ⟨v', hv⟩ := answer_shift hl u (-n)
      rw [hv] at hu
      cases hu

theorem act_jumps : ∃ v q, (Turn.act l.rig settings s n).run w = .ok (.ok (.acted .phaseJump, s.ignoring)) v ∧
    v.others.own = w.others.own.shift (-n) ∧
    [⟨.process (.build n .normal q), .ok ⟨.phaseJump, q.controls.fine, n⟩⟩, ⟨.shift (-n), .ok ()⟩] <:+
      (Turn.act l.rig.script settings s n).run.calls l.rig w := by
  obtain ⟨r, v, hr⟩ := answers_act hl hpol hp hx hf
  obtain ⟨hact, hlink⟩ := linked_of_act hr
  obtain ⟨reads, q, a, more, hreads, hq, hall, hdec⟩ := decided_of_acting hact hf
  rw [hpol] at hall hdec
  rw [hall] at hlink
  obtain ⟨rfl, e, hs, hnext⟩ := jump_of_linked (a := Scene.of w) hp hx hreads hq hlink
  obtain ⟨b, hb, rfl⟩ := hdec _ rfl
  obtain ⟨a, rfl, -⟩ := shift_of_correcting hb rfl
  obtain ⟨e', ⟨-, rfl, hshift⟩, hend⟩ := linked_cons.mp hnext
  have hsim : v.others.own = w.others.own.shift (-n) := by
    rw [← linked_nil.mp hend, hs] at hshift
    exact hshift
  cases hb with
  | jumps =>
    refine ⟨v, q, ?_, hsim, reads, hall.symm⟩
    rw [← performs_act l.rig settings s n]
    exact hr

end

section

variable {V : Type} [Journal (Act V)] {l : Loop V} (hl : l.Responds) {settings : Settings} {s : LoopState}
  {w : Beside (Pid Rat) (Plant V)} (hf : Turn.ReadsFix (Turn.callsMade l.rig settings s w))

include hl hf

/-- A turn that polls its receiver had an edge, and acts on its sample. -/
theorem polls_after_edge : w.others.own.InTime settings.ppsTimeout ∧ s.ignoreNext = false := by
  have hv := hf.polled
  by_cases ht : w.others.own.InTime settings.ppsTimeout
  · refine ⟨ht, Bool.eq_false_iff.mpr fun hs => ?_⟩
    obtain ⟨n, v, -, -, hc⟩ := skips_of_edge hl ht hs
    rw [hc] at hv
    simp at hv
  · rw [calls_of_late hl ht] at hv
    simp at hv

theorem take_jumps (hpol : settings.polarity = .normal) (hp : w.own.pending = false) {k : Int}
    (hk : k = Exact.roundToInt (w.others.own.atEdge w.others.others.own.fine)) (hm : k.natAbs ≤ 2147483647)
    (hx : w.own.tuning.jumpThreshold.toInt < k.natAbs) : ∃ v i o,
    (Turn.take l.rig settings s).run w = .ok (.ok (.acted .phaseJump, s.ignoring)) v ∧
      [⟨.process i, .ok o⟩, ⟨.shift (-o.phaseShift), .ok ()⟩] <:+ Turn.callsMade l.rig settings s w ∧
      o.action = .phaseJump ∧ o.phaseShift.toInt = k ∧
      v.others.own = (w.others.own.arrived w.others.others.own.fine).shift (-o.phaseShift) := by
  obtain ⟨ht, hs⟩ := polls_after_edge hl hf
  obtain ⟨n, u, hn, hu, hrun, hc⟩ := acts_of_edge hl ht hs
  have hnk : n.toInt = k := by
    have hr : Bench.Readable k := ⟨by omega, by omega⟩
    rw [hk] at hr
    rw [Bench.sampleOf_of_readable hr] at hn
    rw [← Option.some.inj hn, hk]
    exact Int32.toInt_ofInt_of_le hr.1 (by have := hr.2; omega)
  have hpid : u.own = w.own := congrArg Scene.pid hu
  have hsim : u.others.own = w.others.own.arrived w.others.others.own.fine := congrArg Scene.sim hu
  have hread : Turn.ReadsFix ((Turn.act l.rig.script settings s n).run.calls l.rig u) := by
    obtain ⟨h1, c, h2⟩ := hf
    rw [hc] at h1 h2
    exact ⟨by simpa using h1, c, by simpa using h2⟩
  rw [← hpid] at hp hx
  rw [← hnk] at hx
  obtain ⟨v, q, hact, hv, hcalls⟩ := act_jumps hl hpol hp hx hread
  rw [hsim] at hv
  rw [hrun, hc]
  exact ⟨v, _, _, hact, hcalls.trans ((List.suffix_cons _ _).trans (List.suffix_cons _ _)), rfl, hnk, hv⟩

end

end Loop

/-! ## (3) Later turns -/

/-- Drift of a simulation from edge to edge, at these control values. -/
def driftOver (s : Bench.Sim Rat) (fines : List UInt32) : Rat := (fines.map s.params.drift).sum

/-- A turn as it begins. -/
abbrev Start (V : Type) := LoopState × Beside (Pid Rat) (Plant V)

/-- The control value that the edge of a turn drifts at. -/
def Start.fine {V : Type} (x : Start V) : UInt32 := x.2.others.others.own.fine

variable {V : Type} [Journal (Act V)]

/-- A turn that ends and asks the engine nothing: the simulation and the flag of the loop before and after it. What
    lies between turns changes neither. -/
def Unasked (l : Loop V) (settings : Settings) (a : Bench.Sim Rat × Bool) (x : Start V) (b : Bench.Sim Rat × Bool) :
    Prop :=
  a = (x.2.others.own, x.1.ignoreNext) ∧ (∀ i o, ⟨.process i, o⟩ ∉ Turn.callsMade l.rig settings x.1 x.2) ∧
    ∃ r v, (Turn.take l.rig settings x.1).run x.2 = .ok r v ∧ b = (v.others.own, (Turn.settle x.1 r).2.ignoreNext)

namespace Loop

variable {l : Loop V} (hl : l.Responds) {settings : Settings} {s : LoopState} {w v : Beside (Pid Rat) (Plant V)}

include hl

/-- Only a turn that drops no sample comes to the engine, and what it hands over is the sample of its edge. -/
theorem sample_of_process {i : ControlInput} {a : Except String ControlOutput} (ht : w.others.own.InTime settings.ppsTimeout)
    (hi : ⟨.process i, a⟩ ∈ Turn.callsMade l.rig settings s w) :
    s.ignoreNext = false ∧ ∃ n, Bench.sampleOf (w.others.own.atEdge w.others.others.own.fine) = some n ∧
      i.phase = .ofSample n settings.polarity := by
  cases hs : s.ignoreNext with
  | true =>
    obtain ⟨n, v, -, -, hc⟩ := skips_of_edge hl ht hs
    rw [hc] at hi
    simp at hi
  | false =>
    obtain ⟨n, v, hn, -, -, hc⟩ := acts_of_edge hl ht hs
    rw [hc] at hi
    have hi : ⟨.process i, a⟩ ∈ (Turn.act l.rig.script settings s n).run.calls l.rig v := by simpa using hi
    obtain ⟨more, r, hp⟩ := Talk.path_of_calls l.rig (Turn.act l.rig.script settings s n).run v
    have hh := handed_of_acting (acting_of_path l.rig hp) (List.mem_append_left more hi)
    exact ⟨rfl, n, hn, hh.phase_eq⟩

/-- A turn that asks the engine nothing lets the phase drift, and that is all it does to the simulation. -/
theorem arrived_of_unasked {r : Except Error (Turn × LoopState)} (ht : w.others.own.InTime settings.ppsTimeout)
    (hr : (Turn.take l.rig settings s).run w = .ok r v)
    (hi : ∀ i a, ⟨.process i, a⟩ ∉ Turn.callsMade l.rig settings s w) :
    v.others.own = w.others.own.arrived w.others.others.own.fine := by
  cases hs : s.ignoreNext with
  | true =>
    obtain ⟨n, u, hu, ht, -⟩ := skips_of_edge hl ht hs
    rw [ht] at hr
    cases hr
    exact congrArg Scene.sim hu
  | false =>
    obtain ⟨n, u, -, hu, ht, hc⟩ := acts_of_edge hl ht hs
    rw [ht, ← performs_act l.rig settings s n] at hr
    obtain ⟨hact, hlink⟩ := linked_of_act hr
    rw [hc] at hi
    obtain ⟨e, he, rfl⟩ := unread_of_acting hact fun i a h =>
      hi i a (List.mem_cons_of_mem _ (List.mem_cons_of_mem _ h))
    exact (sim_of_reading he hlink).2.trans (congrArg Scene.sim hu)

/-- Over turns that ask the engine nothing the phase drifts from edge to edge. -/
theorem drifted_of_unasked {a b : Bench.Sim Rat × Bool} {xs : List (Start V)} (h : Linked (Unasked l settings) a xs b)
    (ht : a.1.InTime settings.ppsTimeout) (hp : a.1.pending.isSome = true) :
    b.1.phase = a.1.phase + driftOver a.1 (xs.map Start.fine) ∧ b.1.params = a.1.params ∧
      b.1.pending.isSome = true := by
  induction h with
  | nil a =>
    refine ⟨?_, rfl, hp⟩
    simp [driftOver]
  | @cons a t b x xs h _ ih =>
    obtain ⟨rfl, hi, r, v, hr, rfl⟩ := h
    have hv := arrived_of_unasked hl ht hr hi
    have hpending : v.others.own.pending.isSome = true := by
      rw [hv]
      exact Bench.pending_arrived _ _
    have hparams : v.others.own.params = x.2.others.own.params := by
      rw [hv]
      rfl
    have hphase : v.others.own.phase = x.2.others.own.phase + x.2.others.own.params.drift x.fine := by
      rw [hv]
      exact Bench.atEdge_of_pending hp _
    obtain ⟨h1, h2, h3⟩ := ih (Bench.inTime_of_params hparams ht) hpending
    refine ⟨?_, h2.trans hparams, h3⟩
    rw [h1, hphase]
    unfold driftOver
    rw [hparams, List.map_cons, List.map_cons, List.sum_cons, add_assoc]

/-- The next sample that comes to the engine, over turns that ask it nothing. -/
theorem sample_after_unasked {a : Bench.Sim Rat} (ht : a.InTime settings.ppsTimeout) (hp : a.pending.isSome = true)
    {xs : List (Start V)} (h : Linked (Unasked l settings) (a, true) xs (w.others.own, s.ignoreNext))
    {i : ControlInput} {o : Except String ControlOutput} (hi : ⟨.process i, o⟩ ∈ Turn.callsMade l.rig settings s w) :
    xs ≠ [] ∧ ∃ n, Bench.sampleOf (a.phase + driftOver a (xs.map Start.fine ++ [Start.fine (s, w)])) = some n ∧
      i.phase = .ofSample n settings.polarity := by
  obtain ⟨hphase, hparams, hpending⟩ := drifted_of_unasked hl h ht hp
  obtain ⟨hs, n, hn, hi⟩ := sample_of_process hl (Bench.inTime_of_params hparams ht) hi
  refine ⟨?_, n, ?_, hi⟩
  · -- The flag is up before the first of these turns and down after the last.
    rintro rfl
    have hflag : s.ignoreNext = true := congrArg Prod.snd (linked_nil.mp h)
    rw [hs] at hflag
    cases hflag
  · rw [Bench.atEdge_of_pending hpending, hphase, hparams, add_assoc] at hn
    unfold driftOver at hn ⊢
    rw [List.map_append, List.sum_append]
    simpa [Start.fine] using hn

end Loop

/-! ## (4) The residue -/

/-- What is left of a phase `p` that a turn jumps over: the residue of rounding, and nothing else that the engine gets
    to see. -/
structure JumpsOver (l : Loop V) (settings : Settings) (s : LoopState) (w : Beside (Pid Rat) (Plant V)) (p : Rat)
    (v : Beside (Pid Rat) (Plant V)) : Prop where
  answer : (Turn.take l.rig settings s).run w = .ok (.ok (.acted .phaseJump, s.ignoring)) v
  /-- The engine asks for a jump by the whole nanoseconds of the phase, and the device takes it. -/
  jumped : ∃ i o, [⟨.process i, .ok o⟩, ⟨.shift (-o.phaseShift), .ok ()⟩] <:+ Turn.callsMade l.rig settings s w ∧
    o.action = .phaseJump ∧ o.phaseShift.toInt = Exact.roundToInt p
  phase : v.others.own.phase = p - Exact.roundToInt p
  small : |p - Exact.roundToInt p| ≤ 1 / 2
  /-- The next turn with an edge drops its sample. -/
  dropped : ∀ s₁ w₁, s₁.ignoreNext = true → w₁.others.own = v.others.own → ∃ n v₁,
    (Turn.take l.rig settings s₁).run w₁ = .ok (.ok (.skipped, { s₁ with ignoreNext := false })) v₁ ∧
      Turn.callsMade l.rig settings s₁ w₁ = [⟨.wait settings.ppsTimeout, .ok .dataReady⟩, ⟨.read, .ok n⟩]
  /-- What the engine is asked next, after one turn at least, is about the residue and the drift since then. -/
  asked : ∀ xs s₂ w₂ i a, Linked (Unasked l settings) (v.others.own, true) xs (w₂.others.own, s₂.ignoreNext) →
    ⟨.process i, a⟩ ∈ Turn.callsMade l.rig settings s₂ w₂ →
    xs ≠ [] ∧ ∃ n, Bench.sampleOf (p - Exact.roundToInt p +
        driftOver v.others.own (xs.map Start.fine ++ [Start.fine (s₂, w₂)])) = some n ∧
      i.phase = .ofSample n .normal

/-- On the bench, in exact arithmetic and with samples that count as they are: a turn with a valid fix, at an edge
    whose phase is rounded to more than the threshold and to no more than a jump can take, jumps. It leaves the residue
    of rounding; the sample of the next edge is dropped, and what the engine sees after it is that residue with the
    drift of the edges since. -/
theorem a_jump_leaves_the_residue {l : Loop V} (hl : l.Responds) {settings : Settings}
    (hpol : settings.polarity = .normal) {s : LoopState} {w : Beside (Pid Rat) (Plant V)} (hp : w.own.pending = false)
    (hf : Turn.ReadsFix (Turn.callsMade l.rig settings s w)) {p : Rat}
    (he : p = w.others.own.atEdge w.others.others.own.fine) (hm : (Exact.roundToInt p).natAbs ≤ 2147483647)
    (hx : w.own.tuning.jumpThreshold.toInt < (Exact.roundToInt p).natAbs) :
    ∃ v, JumpsOver l settings s w p v := by
  obtain ⟨v, i, o, hrun, hcalls, ho, hk, hv⟩ := Loop.take_jumps hl hf hpol hp (congrArg Exact.roundToInt he) hm hx
  have hneg : (-o.phaseShift).toInt = -o.phaseShift.toInt :=
    toInt_neg_of_ne (by rw [hk, Int32.toInt_minValue]; omega)
  have hphase : v.others.own.phase = p - Exact.roundToInt p := by
    calc v.others.own.phase = p + ((-o.phaseShift).toInt : Rat) := by rw [hv, he]; rfl
      _ = p - Exact.roundToInt p := by rw [hneg, hk, Int.cast_neg, sub_eq_add_neg]
  have hin : v.others.own.InTime settings.ppsTimeout :=
    Bench.inTime_of_params (by rw [hv]; rfl) (Loop.polls_after_edge hl hf).1
  have hpending : v.others.own.pending.isSome = true := by
    rw [hv]
    exact Bench.pending_arrived _ _
  refine ⟨v, hrun, ⟨i, o, hcalls, ho, hk⟩, hphase, Exact.abs_sub_roundToInt_le _, ?_, ?_⟩
  · intro s₁ w₁ hs₁ hw₁
    rw [← hw₁] at hin
    obtain ⟨n, v₁, -, h⟩ := Loop.skips_of_edge hl hin hs₁
    exact ⟨n, v₁, h⟩
  · intro xs s₂ w₂ i a hxs hi
    rw [← hphase, ← hpol]
    exact Loop.sample_after_unasked hl hin hpending hxs hi

/-- The engine before anything is set. -/
def untuned : Pid Rat :=
  ⟨⟨.between 0 65535, 1 / 10, 1 / 100, 1000000, 1000, [16383, 32767, 49149], 4⟩, 1 / 10, none, 0, .zero, false⟩

/-- A bench that starts at 5000.25 ns. -/
def ahead : Beside (Pid Rat) (Plant Rehearsal.Stage) where
  own := untuned
  others := ⟨.create "sim" { Bench.Params.standard Rat with initialPhase := 20001 / 4 }, .create 32768 0, .empty⟩

theorem a_quarter_of_a_nanosecond_is_left :
    Pid.ofConfig Rat (Config.parse "") = .ok untuned ∧
      ∃ v, JumpsOver builtIn .standard (.start 0) ahead (20001 / 4) v ∧ v.others.own.phase = 1 / 4 := by
  have hl : builtIn.Responds := ⟨fun _ _ => ⟨_, _, rfl⟩, fun _ _ => ⟨_, _, rfl⟩⟩
  have hf : Turn.ReadsFix (Turn.callsMade builtIn.rig .standard (.start 0) ahead) := by decide +kernel
  have hn : Exact.roundToInt (20001 / 4) = 5000 := by decide +kernel
  refine ⟨by decide +kernel, ?_⟩
  have he : (20001 / 4 : Rat) = ahead.others.own.atEdge ahead.others.others.own.fine := rfl
  obtain ⟨v, hv⟩ := a_jump_leaves_the_residue hl rfl rfl hf he (by rw [hn]; decide) (by rw [hn]; decide)
  refine ⟨v, hv, ?_⟩
  rw [hv.phase, hn]
  norm_num

end Plant

end ClockDiscipline
