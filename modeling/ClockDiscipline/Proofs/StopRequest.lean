/-
  ClockDiscipline.Proofs.StopRequest — what becomes of a stop request.

  A request can come at any moment: before a run, while a device blocks, in the middle of
  a calibration, in a rest, or between a look at the stop flag and what follows it. The
  flag is any property of the world that nothing takes back and that a look does not miss
  if it held when the look began; each call, note, rest and look may bring it about.

  Proved:
  (1) No moment of a timeline with the flag up is followed by one with the flag down, or by
      the end of a look that saw no stop (`Timeline.keeps_steady`). So no wait begins
      where the flag was up before the look that leads to it (`Timeline.heedsStop_run`).
  (2) What a turn asks next depends on the answers so far alone, the flag being no part of
      them (`Timeline.Lap.Taken.goesAlike`).
  (3) A run whose flag is up after some cycles ends with one cycle more
      (`Controller.run_answers_of_raised`).
  (4) A request lets the turn in progress end as it would without, and at most one wait
      begins after it, none if it came before the look that ends the turn
      (`a_stop_request_lets_the_turn_end`).
-/

import ClockDiscipline.Proofs.Answering
import ClockDiscipline.Proofs.Laps

namespace ClockDiscipline

/-- A stop flag that nothing takes back, and that a look sees if it was up when the look began. -/
structure Controller.Latched {W : Type} [Journal (Act W)] (c : Controller (Act W)) (raised : W → Prop) : Prop where
  note : ∀ e, Act.Keeps raised (Journal.note e : Act W Unit)
  call : ∀ q : Ask, q.InTurn → Act.Keeps raised (c.rig.answer q)
  look : Act.Keeps raised c.stop.requested
  cause : Act.Keeps raised c.stop.cause
  rest : ∀ n, Act.Keeps raised (c.rest n)
  seen : ∀ w stopped v, c.stop.requested w = .ok stopped v → raised w → stopped = true

namespace Timeline

/-! ## (1) The flag along a timeline -/

section

variable {W α : Type} {raised : W → Prop}

/-- The flag stays up from moment to moment, and no look that ended with none seen comes after. -/
structure Steady (raised : W → Prop) (w : World W) : Prop where
  moments : w.own.Pairwise fun a b =>
    (raised a.world → raised b.world) ∧ (b.event = .looked false → ¬raised a.world)
  now : ∀ a ∈ w.own, raised a.world → raised w.others

theorem keeps_aside {x : Act W α} (hx : Act.Keeps raised x) : Act.Keeps (Steady raised) (Beside.aside x) := by
  intro w hw
  have ho : (Act.after (Beside.aside x) w).own = w.own ∧
      (Act.after (Beside.aside x) w).others = Act.after x w.others := by
    simp only [Act.after, Beside.aside, Beside.look]
    cases x w.others <;> exact ⟨rfl, rfl⟩
  refine ⟨ho.1 ▸ hw.moments, fun a ha hr => ?_⟩
  rw [ho.2]
  exact hx _ (hw.now a (ho.1 ▸ ha) hr)

/-- A moment that comes now. -/
theorem Steady.extend {w : World W} (hw : Steady raised w) {v : W} {e : Event} (hv : raised w.others → raised v)
    (he : e = .looked false → ¬raised w.others) : Steady raised ⟨w.own ++ [⟨e, v⟩], v⟩ where
  moments := by
    refine List.pairwise_append.mpr ⟨hw.moments, List.pairwise_singleton _ _, fun a ha b hb => ?_⟩
    rw [List.mem_singleton.mp hb]
    exact ⟨fun hr => hv (hw.now a ha hr), fun h hr => he h (hw.now a ha hr)⟩
  now a ha hr := by
    rcases List.mem_append.mp ha with ha | ha
    · exact hv (hw.now a ha hr)
    · rwa [List.mem_singleton.mp ha] at hr

theorem keeps_timed {x : Act W α} {first : Event} {last : α → Event} (hx : Act.Keeps raised x)
    (hf : first ≠ .looked false) (hl : ∀ w a v, x w = .ok a v → last a = .looked false → ¬raised w) :
    Act.Keeps (Steady raised) (timed first last x) := by
  intro w hw
  have hb : Steady raised ⟨w.own ++ [⟨first, w.others⟩], w.others⟩ := hw.extend id fun h => absurd h hf
  have hr := hx w.others
  cases ho : x w.others with
  | ok a v =>
    rw [Act.after_of_ok ho] at hr
    have h := hb.extend (v := v) (e := last a) hr (hl w.others a v ho)
    rw [List.append_assoc] at h
    rwa [Act.after_of_ok (timed_of_ok ho)]
  | error e v =>
    rw [Act.after_of_error ho] at hr
    rw [Act.after_of_error (timed_of_error ho)]
    exact ⟨hb.moments, fun a ha h => hr (hb.now a ha h)⟩

variable [Journal (Act W)] {c : Controller (Act W)}

theorem keeps_steady (hc : c.Latched raised) (patience : Nat) (s : LoopState) :
    Act.Keeps (Steady raised) ((controller c).run patience s) := by
  refine Controller.keeps_run (fun e => keeps_aside (hc.note e)) (fun q hq => ?_) ?_ (keeps_aside hc.cause)
    (fun n => ?_) patience s
  · have ha : (controller c).rig.answer q = call c.rig q := Rig.answer_through _ _ q
    rw [ha]
    exact keeps_timed (hc.call q hq) (fun h => by cases h) fun w a v _ h => by cases h
  · refine keeps_timed hc.look (fun h => by cases h) fun w stopped v ho h hr => ?_
    cases h
    cases hc.seen w false v ho hr
  · exact keeps_timed (hc.rest n) (fun h => by cases h) fun w a v _ h => by cases h

/-- What a timeline shows of a stop flag that is heeded. -/
structure HeedsStop (raised : W → Prop) (moments : List (Moment W)) : Prop where
  /-- No wait begins after one that began with the flag up. -/
  last_wait : ∀ before a between b after, moments = before ++ a :: between ++ b :: after →
    a.event.isWait = true → b.event.isWait = true → ¬raised a.world
  /-- A wait that begins with the flag up is the first of the run, or the flag was down up to where the look began
      that comes right before it. -/
  unseen : ∀ before a after, moments = before ++ a :: after → a.event.isWait = true → raised a.world →
    before = [] ∨ ∃ earlier look seen, before = earlier ++ [look, seen] ∧ look.event = .looking ∧
      seen.event = .looked false ∧ ∀ b ∈ earlier ++ [look], ¬raised b.world

theorem look_before_wait {patience : Nat} {s : LoopState} {w : W} {before after : List (Moment W)} {a : Moment W}
    (hs : (Act.after ((controller c).run patience s) ⟨[], w⟩).own = before ++ a :: after) (ha : a.event.isWait = true) :
    before = [] ∨ ∃ earlier look seen, before = earlier ++ [look, seen] ∧ look.event = .looking ∧
      seen.event = .looked false := by
  obtain ⟨more, laps, closing, r, hl, hc, he⟩ := laps_after_run c patience s w
  obtain ⟨t, ht⟩ : ∃ t, a.event = .asked (.wait t) := by
    revert ha
    cases a.event with
    | asked q => cases q <;> simp [Event.isWait]
    | _ => simp [Event.isWait]
  simp only [events, hs, List.map_append, List.map_cons, ht, List.append_assoc, List.cons_append] at he
  rcases hl.wait_of_split (isWait_of_closing hc) he.symm with hb | ⟨earlier, hb⟩
  · exact Or.inl (List.map_eq_nil_iff.mp hb)
  · obtain ⟨earlier, last, rfl, -, hlast⟩ := List.map_eq_append_iff.mp hb
    obtain ⟨look, rest, rfl, hlook, hrest⟩ := List.map_eq_cons_iff.mp hlast
    obtain ⟨seen, rest, rfl, hseen, hnil⟩ := List.map_eq_cons_iff.mp hrest
    cases List.map_eq_nil_iff.mp hnil
    exact Or.inr ⟨earlier, look, seen, rfl, hlook, hseen⟩

theorem heedsStop_run (hc : c.Latched raised) (patience : Nat) (s : LoopState) (w : W) :
    HeedsStop raised (Act.after ((controller c).run patience s) ⟨[], w⟩).own := by
  have hsteady : Steady raised (Act.after ((controller c).run patience s) ⟨[], w⟩) :=
    keeps_steady hc patience s ⟨[], w⟩ ⟨List.Pairwise.nil, fun a ha => absurd ha List.not_mem_nil⟩
  -- Up to the start of a look that saw no stop the flag was down.
  have hdown : ∀ {earlier : List (Moment W)} {look seen : Moment W} {after : List (Moment W)},
      (Act.after ((controller c).run patience s) ⟨[], w⟩).own = earlier ++ [look, seen] ++ after →
      seen.event = .looked false → ∀ b ∈ earlier ++ [look], ¬raised b.world := by
    intro earlier look seen after ho hseen b hb
    have hp := hsteady.moments
    rw [ho, List.append_cons earlier look [seen], List.append_assoc] at hp
    exact ((List.pairwise_append.mp hp).2.2 b hb seen List.mem_cons_self).2 hseen
  constructor
  · intro before a between b after ho ha hb
    rcases look_before_wait ho hb with hn | ⟨earlier, look, seen, hsplit, -, hseen⟩
    · cases (List.append_eq_nil_iff.mp hn).2
    rw [hsplit] at ho
    have hmem : a ∈ earlier ++ [look] ++ [seen] := by
      rw [List.append_assoc]
      exact hsplit ▸ List.mem_append_right _ List.mem_cons_self
    rcases List.mem_append.mp hmem with hmem | hmem
    · exact hdown ho hseen a hmem
    · rw [List.mem_singleton.mp hmem, hseen] at ha
      cases ha
  · intro before a after ho ha hr
    rcases look_before_wait ho ha with hn | ⟨earlier, look, seen, rfl, hlook, hseen⟩
    · exact Or.inl hn
    · exact Or.inr ⟨earlier, look, seen, rfl, hlook, hseen, hdown ho hseen⟩

end

/-! ## (2) The turn in progress -/

/-- What a lap's turn does compared to the same turn in another world: with the same answers so far it asks the
    same next, and with the same answers to everything it ends the same. -/
structure Lap.GoesAlike {W : Type} [Journal (Act W)] (c : Controller (Act W)) (l : Lap) (w : W) : Prop where
  ask_eq : ∀ before x rest y rest', l.calls = before ++ x :: rest →
    Turn.callsMade c.rig c.settings l.state w = before ++ y :: rest' → y.ask = x.ask
  outcome_eq : ∀ r v, (Turn.take c.rig c.settings l.state).run w = .ok r v →
    l.calls <+: Turn.callsMade c.rig c.settings l.state w ∨ Turn.callsMade c.rig c.settings l.state w <+: l.calls →
    Turn.callsMade c.rig c.settings l.state w = l.calls ∧ r = l.outcome

section

variable {W : Type} [Journal (Act W)] {c : Controller (Act W)}

theorem Lap.Taken.goesAlike {s : LoopState} {l : Lap} (h : l.Taken c.rig c.settings s) (w : W) : l.GoesAlike c w := by
  have hp : (Turn.take c.rig.script c.settings l.state).run.perform c.rig = (Turn.take c.rig c.settings l.state).run :=
    performs_take c.rig c.settings l.state
  constructor
  · intro before x rest y rest' hl hm
    obtain ⟨more, r, hm'⟩ : ∃ more r, (Turn.take c.rig.script c.settings l.state).run.Path
        (Turn.callsMade c.rig c.settings l.state w ++ more) r := by
      rw [Turn.callsMade_eq]
      exact Talk.path_of_calls c.rig _ w
    rw [hm, List.append_assoc] at hm'
    exact Talk.ask_eq_of_path (hl ▸ h.path) hm'
  · intro r v hr hpre
    rw [← hp] at hr
    have hm := Talk.path_of_ok c.rig hr
    rw [← Turn.callsMade_eq] at hm
    rcases hpre with ⟨more, hmore⟩ | ⟨more, hmore⟩
    · rw [← hmore] at hm ⊢
      obtain ⟨rfl, hr⟩ := Talk.eq_of_path h.path hm
      exact ⟨List.append_nil _, hr⟩
    · obtain ⟨rfl, hr⟩ := Talk.eq_of_path hm (hmore ▸ h.path)
      exact ⟨by rw [← hmore, List.append_nil], hr.symm⟩

theorem Laps.taken {m : Type → Type} {rig : Rig m} {settings : Settings} {s : LoopState} {laps : List Lap}
    {r : Except Error Unit × LoopState} (h : Laps rig settings s laps r) :
    ∀ l ∈ laps, ∃ s, l.Taken rig settings s := by
  induction h with
  | fails h | leaves h => exact fun l hl => ⟨_, List.mem_singleton.mp hl ▸ h⟩
  | goesOn h _ _ _ _ ih =>
    intro l hl
    rcases List.mem_cons.mp hl with rfl | hl
    · exact ⟨_, h⟩
    · exact ih l hl

end

end Timeline

/-! ## (3) The end of a run -/

namespace Controller

section

variable {W : Type} [Journal (Act W)] {c : Controller (Act W)} {raised : W → Prop}

/-- A flag that is up after some cycles ends the loop with one cycle more. -/
theorem cycles_answers_of_raised (hc : c.Responds) (hf : c.Latched raised) {patience : Nat} {s : LoopState} {w : W}
    (h : (∃ r v, c.cycles patience s w = .ok r v) ∨ raised (Act.after (c.cycles patience s) w)) :
    ∃ r v, c.cycles (patience + 1) s w = .ok r v := by
  induction patience generalizing s w with
  | zero =>
    -- The flag is up as the cycle begins, and its look sees it.
    have hw : raised w := by
      rcases h with ⟨r, v, h⟩ | h
      · cases h
      · exact h
    obtain ⟨⟨o, s'⟩, u, hu⟩ := answers_cycle hc s w
    have hr : raised u := Act.after_of_ok hu ▸ keeps_cycle hf.note hf.call hf.look hf.rest s w hw
    rw [cycles, Act.bind_of_ok hu]
    cases o with
    | error e => exact ⟨_, _, rfl⟩
    | ok t =>
      obtain ⟨stopped, v, hv⟩ := hc.look u
      cases hf.seen u stopped v hv hr
      exact ⟨_, _, by simp only [keepsRunning, Bind.bind, EStateM.bind, hv]; rfl⟩
  | succ patience ih =>
    obtain ⟨⟨o, s'⟩, u, hu⟩ := answers_cycle hc s w
    rw [cycles, Act.bind_of_ok hu]
    cases o with
    | error e => exact ⟨_, _, rfl⟩
    | ok t =>
      obtain ⟨b, v, hv⟩ := answers_keepsRunning hc s' u
      have hnext : c.cycles (patience + 1) s w = (if b = true then c.cycles patience s' else pure (.ok (), s')) v := by
        rw [cycles, Act.bind_of_ok hu]
        exact Act.bind_of_ok hv _
      simp only [Act.after, hnext] at h
      simp only [Act.bind_of_ok hv]
      by_cases hb : b = true
      · simp only [hb, if_true] at h ⊢
        exact ih h
      · simp only [hb]
        exact ⟨_, _, rfl⟩

theorem run_answers_of_raised (hc : c.Responds) (hf : c.Latched raised) {patience : Nat} {s : LoopState} {w : W}
    (h : raised (Act.after (c.run patience s) w)) : ∃ r v, c.run (patience + 1) s w = .ok r v := by
  obtain ⟨_, u, hu⟩ := hc.note ⟨.info, .loop, "Starting main loop"⟩ w
  refine (run_answers_iff hc hu).mpr (cycles_answers_of_raised hc hf ?_)
  cases ho : c.cycles patience s u with
  | ok r v => exact Or.inl ⟨r, v, rfl⟩
  | error e v =>
    have hr : c.run patience s w = .error e v := by
      rw [run]
      exact (Act.bind_of_ok hu _).trans (Act.bind_of_error ho _)
    rw [Act.after_of_error hr] at h
    rw [Act.after_of_error ho]
    exact Or.inr h

end

end Controller

/-! ## (4) Requests -/

/-- Whenever the flag is raised, the turn in progress ends as it would without; at most one wait begins after that,
    none if the look that ends the turn begins later; and the run answers what its last turn did. Where everything
    answers, it does so before another cycle is over. -/
theorem a_stop_request_lets_the_turn_end {W : Type} [Journal (Act W)] (c : Controller (Act W)) {raised : W → Prop}
    (hf : c.Latched raised) (patience : Nat) (s : LoopState) (w : W) :
    let shown := (Timeline.controller c).run patience s
    c.run patience s w = Timeline.forget (shown ⟨[], w⟩) ∧
      Timeline.HeedsStop raised (Act.after shown ⟨[], w⟩).own ∧
      (∀ r v, shown ⟨[], w⟩ = .ok r v → ∃ laps closing, Timeline.Laps c.rig c.settings s laps r ∧
        Timeline.events v = laps.flatMap Timeline.Lap.events ++ closing ∧ Timeline.Closing r.1 closing ∧
        (∀ l ∈ laps, ∀ w', l.GoesAlike c w') ∧ ∃ l, laps.getLast? = some l ∧ r.1 = l.outcome.map fun _ => ()) ∧
      (c.Responds → raised (Act.after (c.run patience s) w) → ∃ r v, c.run (patience + 1) s w = .ok r v) := by
  intro shown
  refine ⟨(Timeline.follows_run c patience s).eq_forget ⟨[], w⟩, Timeline.heedsStop_run hf patience s w,
    fun r v h => ?_, fun hc hr => Controller.run_answers_of_raised hc hf hr⟩
  obtain ⟨laps, closing, hl, hc, he⟩ := Timeline.laps_of_run h
  refine ⟨laps, closing, hl, he, hc, fun l hm w' => ?_, hl.answer_eq⟩
  obtain ⟨s', ht⟩ := hl.taken l hm
  exact ht.goesAlike w'

/-- An edge whose sample is not there, a signal while the next is waited for, and an edge after them. -/
def signalledStage : Rehearsal.Stage :=
  { Rehearsal.Stage.empty with script := ⟨[.readFails (.kind .wouldBlock), .signal .int, .sample 7], none, []⟩ }

theorem latched_played (settings : Settings) :
    (playedController settings).Latched fun w => w.ownFlag.requested = true where
  note _ _ h := h
  call q _ := by
    cases q with
    | wait t =>
      refine Act.keeps_bind (fun _ h => h) fun script => Act.keeps_bind (fun _ h => h) fun event => ?_
      split
      · exact fun _ _ => rfl
      · exact fun _ h => h
    | _ => exact fun _ h => h
  look _ h := h
  cause _ h := h
  rest _ _ h := h
  seen w stopped v h hr := by
    cases h
    exact hr

/-- The edge after the signal is not waited for, and no turn fails. -/
theorem a_signal_lets_its_turn_end :
    (∃ r w, (playedController .standard).run 3 (.start 0) signalledStage = .ok r w) ∧
    ∃ (v : Timeline.World Rehearsal.Stage) (laps : List Timeline.Lap) (closing : List Timeline.Event),
      (Timeline.controller (playedController .standard)).run 4 (.start 0) ⟨[], signalledStage⟩ =
        .ok (.ok (), ⟨4294967294, false, false⟩) v ∧
      Timeline.HeedsStop (fun w => w.ownFlag.requested = true) v.own ∧
      Timeline.events v = laps.flatMap Timeline.Lap.events ++ closing ∧
      (∀ l ∈ laps, ∀ w', l.GoesAlike (playedController .standard) w') ∧
      v.others.ownFlag.requested = true ∧ v.others.script.cues = [.sample 7] := by
  obtain ⟨-, -, -, hends⟩ := a_stop_request_lets_the_turn_end _ (latched_played .standard) 2 (.start 0) signalledStage
  refine ⟨hends (responds_played _) rfl, ?_⟩
  have hs : (Timeline.controller (playedController .standard)).run 4 (.start 0) ⟨[], signalledStage⟩ =
      .ok (.ok (), ⟨4294967294, false, false⟩) _ := rfl
  obtain ⟨-, hheeds, hlaps, -⟩ :=
    a_stop_request_lets_the_turn_end _ (latched_played .standard) 4 (.start 0) signalledStage
  obtain ⟨laps, closing, -, he, -, halike, -⟩ := hlaps _ _ hs
  rw [Act.after_of_ok hs] at hheeds
  exact ⟨_, laps, closing, hs, hheeds, he, halike, rfl, rfl⟩

end ClockDiscipline
