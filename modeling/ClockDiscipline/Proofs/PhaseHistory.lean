/-
  ClockDiscipline.Proofs.PhaseHistory — the simulated phase, from what was done to the device.

  The device is waited for, read and shifted, in any order and with any timeouts, and the
  fine control that it follows may move at any time in between. What came of it all is its
  history. Edges that were waited for to the end add the drift of a second, all but the
  first, and each at the control value that it found. Offsets add themselves. Nothing else
  counts.

  The phase is what this adds up to. A sample is the phase just after the latest edge, so
  that the history up to there has all of it.

  Proved: (1) one more happening adds its share (`phaseAfter_concat_of_edge`,
  `phaseAfter_concat`), and only an edge moves the end of what a sample shows
  (`upToEdge_concat`); (2) whatever is done next, the simulation goes on to follow its
  history (`exists_perform`), and so it does over all that is done (`exists_history`);
  (3) the device as it answers then (`the_phase_adds_up_drifts_and_offsets`).
-/

import ClockDiscipline.Proofs.Plant
import Mathlib.Data.List.DropRight

namespace ClockDiscipline

namespace Plant

/-! ## (1) Histories -/

/-- What can be done to the device, and to the control that it follows. -/
inductive Deed where
  | wait (timeout : Span)
  | read
  | shift (ns : Int32)
  /-- Whoever has the oscillator changes it. -/
  | steer (d : Dummy)

/-- What was done, with what came of it. A wait finds the fine control somewhere. -/
inductive Happening where
  | waited (timeout : Span) (fine : UInt32) (r : Except IoError EdgeEvent)
  | read (r : Except IoError Int32)
  | shifted (ns : Int32) (r : Except IoError Unit)
  | steered (d : Dummy)

namespace Happening

/-- The fine control at an edge. -/
def edge? : Happening → Option UInt32
  | .waited _ fine (.ok .dataReady) => some fine
  | _ => none

/-- An offset that was written. -/
def offset? : Happening → Option Int
  | .shifted ns (.ok ()) => some ns.toInt
  | _ => none

end Happening

/-- The control values at the edges. -/
def edges (hs : List Happening) : List UInt32 := hs.filterMap Happening.edge?

def offsets (hs : List Happening) : List Int := hs.filterMap Happening.offset?

/-- What happened until the latest edge, this included. -/
def upToEdge (hs : List Happening) : List Happening := hs.rdropWhile fun h => h.edge?.isNone

/-- The initial phase with the drifts and the offsets. -/
def phaseAfter (p : Bench.Params Rat) (hs : List Happening) : Rat :=
  p.initialPhase + ((edges hs).tail.map p.drift).sum + ((offsets hs).map Int.cast).sum

section

variable {p : Bench.Params Rat} {hs : List Happening} {h : Happening} {fine : UInt32}

theorem edges_concat (hs : List Happening) (h : Happening) : edges (hs ++ [h]) = edges hs ++ h.edge?.toList :=
  filterMap_concat _ _ _

theorem offsets_concat (hs : List Happening) (h : Happening) : offsets (hs ++ [h]) = offsets hs ++ h.offset?.toList :=
  filterMap_concat _ _ _

theorem upToEdge_concat (hs : List Happening) (h : Happening) :
    upToEdge (hs ++ [h]) = if h.edge? = none then upToEdge hs else hs ++ [h] := by
  rw [upToEdge, List.rdropWhile_concat]
  simp only [Option.isNone_iff_eq_none]
  rfl

theorem offset?_of_edge (he : h.edge? = some fine) : h.offset? = none := by
  unfold Happening.edge? at he
  split at he
  · rfl
  · cases he

theorem phaseAfter_concat_of_edge (he : h.edge? = some fine) :
    phaseAfter p (hs ++ [h]) = phaseAfter p hs + if edges hs = [] then 0 else p.drift fine := by
  unfold phaseAfter
  rw [edges_concat, offsets_concat, he, offset?_of_edge he, Option.toList_none, List.append_nil, Option.toList_some]
  split
  · rename_i hn
    rw [hn, add_zero]
    rfl
  · rename_i hn
    rw [List.tail_append_of_ne_nil hn, List.map_append, List.sum_append, List.map_singleton, List.sum_singleton]
    ring

theorem phaseAfter_concat (he : h.edge? = none) :
    phaseAfter p (hs ++ [h]) = phaseAfter p hs + (h.offset?.getD 0 : Int) := by
  unfold phaseAfter
  rw [edges_concat, offsets_concat, he, Option.toList_none, List.append_nil, List.map_append, List.sum_append]
  cases h.offset? <;> simp [add_assoc]

end

/-! ## (2) The simulation -/

/-- A simulation that follows its history. -/
structure Tracks (p : Bench.Params Rat) (hs : List Happening) (s : Bench.Sim Rat) : Prop where
  params : s.params = p
  phase : s.phase = phaseAfter p hs
  pending : s.pending = if edges hs = [] then none else Bench.sampleOf (phaseAfter p (upToEdge hs))

section

variable {p : Bench.Params Rat} {hs : List Happening} {h : Happening} {s : Bench.Sim Rat} {fine : UInt32}

theorem tracks_create (name : String) (p : Bench.Params Rat) : Tracks p [] (.create name p) where
  params := rfl
  phase := by simp [phaseAfter, edges, offsets, Bench.Sim.create]
  pending := rfl

/-- The drift that an edge adds is that of the simulation. -/
theorem tracks_of_edge (ht : Tracks p hs s) (he : h.edge? = some fine) : Tracks p (hs ++ [h]) (s.arrived fine) := by
  have hp : s.atEdge fine = phaseAfter p (hs ++ [h]) := by
    rw [phaseAfter_concat_of_edge he, ← ht.phase, ← ht.params]
    -- The simulation knows its first edge by having no sample yet.
    split
    · rename_i hn
      rw [Bench.Sim.atEdge, ht.pending, if_pos hn, add_zero]
      rfl
    · rename_i hn
      obtain ⟨n, hx⟩ := Bench.exists_sampleOf (phaseAfter p (upToEdge hs))
      exact Bench.atEdge_of_pending (by rw [ht.pending, if_neg hn, hx]; rfl) fine
  have hn : edges (hs ++ [h]) ≠ [] := by
    rw [edges_concat, he]
    exact List.concat_ne_nil _ _
  refine ⟨ht.params, hp, ?_⟩
  rw [if_neg hn, upToEdge_concat, he, if_neg (Option.some_ne_none fine), ← hp]
  rfl

/-- What is no edge leaves the sample as it is. -/
theorem pending_concat (ht : Tracks p hs s) (he : h.edge? = none) :
    s.pending = if edges (hs ++ [h]) = [] then none else Bench.sampleOf (phaseAfter p (upToEdge (hs ++ [h]))) := by
  rw [edges_concat, upToEdge_concat, he, if_pos rfl, Option.toList_none, List.append_nil]
  exact ht.pending

theorem tracks_of_offset (ht : Tracks p hs s) (ns : Int32) :
    Tracks p (hs ++ [.shifted ns (.ok ())]) (s.shift ns) where
  params := ht.params
  phase := by
    rw [phaseAfter_concat rfl, ← ht.phase]
    rfl
  pending := by
    rw [← pending_concat ht rfl]
    rfl

theorem tracks_of_other (ht : Tracks p hs s) (he : h.edge? = none) (ho : h.offset? = none) : Tracks p (hs ++ [h]) s where
  params := ht.params
  phase := by
    rw [phaseAfter_concat he, ho, Option.getD_none, Int.cast_zero, add_zero]
    exact ht.phase
  pending := pending_concat ht he

end

namespace Loop

variable {V : Type} [Journal (Act V)]

/-- Do it, and see what comes of it. -/
def perform (l : Loop V) : Deed → Act (Plant V) Happening
  | .wait t => do
    let d ← dummySlot.cell.get
    return .waited t d.fine (← l.pps.wait t)
  | .read => return .read (← l.pps.read)
  | .shift ns => return .shifted ns (← l.pps.shift ns)
  | .steer d => do
    dummySlot.cell.set d
    return .steered d

section

variable {l : Loop V} (hl : l.Responds) {p : Bench.Params Rat} {w : Plant V}

include hl

/-- Whatever is done, something comes of it. -/
theorem exists_perform {hs : List Happening} (ht : Tracks p hs w.own) (d : Deed) :
    ∃ h v, l.perform d w = .ok h v ∧ Tracks p (hs ++ [h]) v.own := by
  cases d with
  | wait t =>
    have hw {event : EdgeEvent} {v : Plant V} (h : l.pps.wait t w = .ok (.ok event) v) :
        l.perform (.wait t) w = .ok (.waited t w.others.own.fine (.ok event)) v := Act.bind_of_ok h _
    by_cases hin : w.own.InTime t
    · obtain ⟨v, hv, hs, -⟩ := exists_wait hl w (Bench.wait_of_in_time hin)
      refine ⟨_, v, hw hv, ?_⟩
      rw [hs]
      exact tracks_of_edge ht rfl
    · obtain ⟨v, hv, hs, -⟩ := exists_wait hl w (Bench.wait_of_late hin)
      refine ⟨_, v, hw hv, ?_⟩
      rw [hs]
      exact tracks_of_other ht rfl rfl
  | read => exact ⟨.read w.own.read, w, rfl, tracks_of_other ht rfl rfl⟩
  | shift ns =>
    obtain ⟨v, hv, hs, -⟩ := exists_shift hl w ns
    refine ⟨_, v, Act.bind_of_ok hv _, ?_⟩
    rw [hs]
    exact tracks_of_offset ht ns
  | steer d => exact ⟨.steered d, _, rfl, tracks_of_other ht rfl rfl⟩

theorem exists_history {past : List Happening} (ht : Tracks p past w.own) (ds : List Deed) :
    ∃ hs v, ds.mapM l.perform w = .ok hs v ∧ Tracks p (past ++ hs) v.own := by
  -- What is done next belongs to the past of the rest.
  induction ds generalizing w past with
  | nil => exact ⟨[], w, rfl, by rwa [List.append_nil]⟩
  | cons d ds ih =>
    obtain ⟨h, u, hu, ht⟩ := exists_perform hl ht d
    obtain ⟨hs, v, hv, ht⟩ := ih ht
    refine ⟨h :: hs, v, ?_, ?_⟩
    · rw [List.mapM_cons, Act.bind_of_ok hu, Act.bind_of_ok hv]
      rfl
    · rwa [List.append_assoc] at ht

end

end Loop

/-! ## (3) The device -/

/-- How a device answers with this history behind it. -/
structure Simulates {V : Type} [Journal (Act V)] (l : Loop V) (p : Bench.Params Rat) (hs : List Happening) (v : Plant V) :
    Prop where
  phase : v.own.phase = phaseAfter p hs
  /-- No edge comes before the wait is over. -/
  late : ∀ t : Span, t.toNanos < p.period.toNanos → ∃ u, l.pps.wait t v = .ok (.ok .timeout) u ∧
    u.own = v.own ∧ u.others.own = v.others.own
  in_time : ∀ t : Span, p.period.toNanos ≤ t.toNanos → ∃ u, l.pps.wait t v = .ok (.ok .dataReady) u
  unread : l.pps.read v = .ok (.error (.kind .wouldBlock)) v ↔ edges hs = []
  /-- A sample can be read again and again. -/
  read : edges hs ≠ [] → ∃ n k, l.pps.read v = .ok (.ok n) v ∧ Exact.Nearest (phaseAfter p (upToEdge hs)) k ∧
    n.toInt = max (-2147483648) (min k 2147483647)

section

variable {V : Type} [Journal (Act V)] {l : Loop V} {p : Bench.Params Rat} {hs : List Happening} {v : Plant V}

theorem read_of_tracks (ht : Tracks p hs v.own) :
    l.pps.read v = .ok (if edges hs = [] then .error (.kind .wouldBlock) else
      .ok (Int32.ofInt (max (-2147483648) (min (Exact.roundToInt (phaseAfter p (upToEdge hs))) 2147483647)))) v := by
  show EStateM.Result.ok v.own.read v = _
  unfold Bench.Sim.read
  rw [ht.pending, Bench.sampleOf_eq_some]
  by_cases hn : edges hs = []
  · rw [if_pos hn, if_pos hn]
  · rw [if_neg hn, if_neg hn]

theorem simulates_of_tracks (hl : l.Responds) (ht : Tracks p hs v.own) : Simulates l p hs v where
  phase := ht.phase
  late t h := by
    rw [← ht.params] at h
    exact Loop.exists_wait hl v (Bench.wait_of_late (not_le.mpr h))
  in_time t h := by
    rw [← ht.params] at h
    obtain ⟨u, hu, -⟩ := Loop.exists_wait hl v (Bench.wait_of_in_time h)
    exact ⟨u, hu⟩
  unread := by
    rw [read_of_tracks ht]
    split
    · rename_i hn
      exact iff_of_true rfl hn
    · rename_i hn
      exact iff_of_false nofun hn
  read hn := by
    rw [read_of_tracks ht, if_neg hn]
    exact ⟨_, _, rfl, Exact.nearest_roundToInt _, Int32.toInt_ofInt_of_le (by omega) (by omega)⟩

/-- Whatever is done to a new device, its phase is the initial one with the drifts of all edges but the first and with
    the offsets, and a sample shows it as it was at the latest edge. -/
theorem the_phase_adds_up_drifts_and_offsets (hl : l.Responds) (name : String) (p : Bench.Params Rat) (d : Dummy) (u : V)
    (ds : List Deed) : ∃ hs v, ds.mapM l.perform ⟨.create name p, d, u⟩ = .ok hs v ∧ Simulates l p hs v := by
  obtain ⟨hs, v, hv, ht⟩ := Loop.exists_history hl (w := ⟨.create name p, d, u⟩) (tracks_create name p) ds
  exact ⟨hs, v, hv, simulates_of_tracks hl ht⟩

end

/-- On frequency at 1000, half a nanosecond of drift for each step from there, and 100 ns off at first. -/
def halfSteps : Bench.Params Rat := ⟨1000, 1 / 2, 100, .ofSecs 1, 0⟩

/-- Two edges on frequency, one at 1021 and an offset after it. The last wait is too short. -/
def mixedDeeds : List Deed := [
  .read, .wait (.ofSecs 4), .wait (.ofSecs 4), .steer (.create 1021 0), .wait (.ofSecs 4), .shift (-120),
  .steer (.create 1000 0), .wait .zero, .read]

/-- The phase is 110.5 ns at the third edge, which is read as 111 ns. In the end it is -9.5 ns. -/
theorem an_offset_is_not_read_before_the_next_edge :
    ∃ hs v, mixedDeeds.mapM builtIn.perform ⟨.create "sim" halfSteps, .create 1000 0, .empty⟩ = .ok hs v ∧
      Simulates builtIn halfSteps hs v ∧ edges hs = [1000, 1000, 1021] ∧ v.own.phase = -19 / 2 ∧
      phaseAfter halfSteps (upToEdge hs) = 221 / 2 ∧ builtIn.pps.read v = .ok (.ok 111) v := by
  have hl : builtIn.Responds := ⟨fun _ _ => ⟨_, _, rfl⟩, fun _ _ => ⟨_, _, rfl⟩⟩
  have hrun : (match mixedDeeds.mapM builtIn.perform ⟨.create "sim" halfSteps, .create 1000 0, .empty⟩ with
      | .ok hs v => some (edges hs, v.own.phase, phaseAfter halfSteps (upToEdge hs), v.own.pending)
      | .error _ _ => none) = some ([1000, 1000, 1021], -19 / 2, 221 / 2, some 111) := by decide +kernel
  obtain ⟨hs, v, hv, hd⟩ := the_phase_adds_up_drifts_and_offsets hl "sim" halfSteps (.create 1000 0) .empty mixedDeeds
  rw [hv] at hrun
  simp only [Option.some.injEq, Prod.mk.injEq] at hrun
  obtain ⟨hedges, hphase, hat, hpending⟩ := hrun
  refine ⟨hs, v, hv, hd, hedges, hphase, hat, ?_⟩
  show EStateM.Result.ok v.own.read v = _
  rw [Bench.Sim.read, hpending]

end Plant

end ClockDiscipline
