/-
  ClockDiscipline.Proofs.Sampling — what a calibration makes of the edges of its source.

  The built-in oscillator calibrates on a source of any kind. Beside the two the world keeps
  the fine control at every wait, which is what the measured device is driven with. Telling
  changes nothing here.

  Each procedure is said in full: its answer and the world it leaves, from the arrivals that
  its waits bring.

  Proved: (1) one try is one arrival (`nextSample_iff`); (2) a sample, a row and all rows are
  what is taken from the arrivals (`awaitSample_iff`, `takeRow_iff`, `takeRows_iff`), and so
  is a calibration, which leaves the fine control as it was (`calibrate_iff`).
-/

import ClockDiscipline.Proofs.Arrivals
import ClockDiscipline.Proofs.Linked

namespace ClockDiscipline

/-- The source and the oscillator that calibrates on it. -/
structure Probing (S : Type) where
  source : S
  dummy : Dummy
  /-- The fine control at each wait for an edge. -/
  waits : List UInt32

namespace Probing

variable {S α : Type}

def slot : Slot (Probing S) Dummy where
  get w := w.dummy
  set d w := { w with dummy := d }

/-- What the source does, and the oscillator does not see. -/
def lift (x : Act S α) : Act (Probing S) α := fun w =>
  match x w.source with
  | .ok a s => .ok a { w with source := s }
  | .error e s => .error e { w with source := s }

/-- A wait, with the fine control that it finds. -/
def waiting (x : Act S α) : Act (Probing S) α := fun w => lift x { w with waits := w.waits ++ [w.dummy.fine] }

instance : Journal (Act (Probing S)) where
  note _ := pure ()

def pps (p : EdgeSource (Act S)) : EdgeSource (Act (Probing S)) where
  name := p.name
  wait t := waiting (p.wait t)
  read := lift p.read
  shift ns := lift (p.shift ns)
  release := lift p.release

theorem lift_ok_iff {x : Act S α} {w v : Probing S} {a : α} :
    lift x w = .ok a v ↔ ∃ s, x w.source = .ok a s ∧ v = { w with source := s } := by
  unfold lift
  cases x w.source with
  | ok b s =>
    constructor
    · intro h
      cases h
      exact ⟨s, rfl, rfl⟩
    · rintro ⟨t, h, rfl⟩
      cases h
      rfl
  | error e s => simp

end Probing

/-! ## (1) One try -/

section

variable {S : Type}

/-- What a wait of a calibration brings, with the read where there is an edge. -/
inductive Arrives (p : EdgeSource (Act S)) (s : S) : Arrival → S → Prop where
  | sample {u t : S} {ns : Int32} (hw : p.wait Dummy.edgeTimeout s = .ok (.ok .dataReady) u)
      (hr : p.read u = .ok (.ok ns) t) : Arrives p s (.sample ns) t
  | readFails {u t : S} {e : IoError} (hw : p.wait Dummy.edgeTimeout s = .ok (.ok .dataReady) u)
      (hr : p.read u = .ok (.error e) t) : Arrives p s (.readFails e) t
  | cut {t : S} (hw : p.wait Dummy.edgeTimeout s = .ok (.ok .interrupted) t) : Arrives p s .cut t
  | silence {t : S} (hw : p.wait Dummy.edgeTimeout s = .ok (.ok .timeout) t) : Arrives p s .silence t
  | waitFails {t : S} {e : IoError} (hw : p.wait Dummy.edgeTimeout s = .ok (.error e) t) :
      Arrives p s (.waitFails e) t

variable {p : EdgeSource (Act S)} {patience n : Nat} {w v : Probing S}

/-- The world after some waits at one fine control. -/
def Probing.waited (w : Probing S) (n : Nat) (s : S) : Probing S :=
  ⟨s, w.dummy, w.waits ++ List.replicate n w.dummy.fine⟩

theorem waited_waited (w : Probing S) (m n : Nat) (s t : S) : (w.waited m s).waited n t = w.waited (m + n) t := by
  simp [Probing.waited]

theorem wait_ok_iff {e : Except IoError EdgeEvent} :
    (Probing.pps p).wait Dummy.edgeTimeout w = .ok e v ↔
      ∃ s, p.wait Dummy.edgeTimeout w.source = .ok e s ∧ v = w.waited 1 s :=
  Probing.lift_ok_iff

theorem read_ok_iff {r : Except IoError Int32} :
    (Probing.pps p).read v = .ok r w ↔ ∃ s, p.read v.source = .ok r s ∧ w = { v with source := s } :=
  Probing.lift_ok_iff

theorem nextSample_of_arrives {x : Arrival} {s : S} (h : Arrives p w.source x s) :
    Dummy.nextSample (Probing.pps p) w = .ok x.outcome (w.waited 1 s) := by
  unfold Dummy.nextSample
  cases h with
  | @sample u t ns hw hr =>
    have hr : (Probing.pps p).read (w.waited 1 u) = .ok (.ok ns) (w.waited 1 s) := read_ok_iff.mpr ⟨s, hr, rfl⟩
    rw [Act.bind_of_ok (wait_ok_iff.mpr ⟨u, hw, rfl⟩)]
    exact Act.bind_of_ok hr _
  | @readFails u t e hw hr =>
    have hr : (Probing.pps p).read (w.waited 1 u) = .ok (.error e) (w.waited 1 s) := read_ok_iff.mpr ⟨s, hr, rfl⟩
    rw [Act.bind_of_ok (wait_ok_iff.mpr ⟨u, hw, rfl⟩)]
    refine (Act.bind_of_ok hr _).trans ?_
    by_cases he : e.isTransient = true
    · simp only [he, if_true, Arrival.outcome]
      rfl
    · simp only [he, Arrival.outcome]
      rfl
  | cut hw => exact Act.bind_of_ok (wait_ok_iff.mpr ⟨_, hw, rfl⟩) _
  | silence hw => exact Act.bind_of_ok (wait_ok_iff.mpr ⟨_, hw, rfl⟩) _
  | waitFails hw => exact Act.bind_of_ok (wait_ok_iff.mpr ⟨_, hw, rfl⟩) _

theorem nextSample_iff {a : Except IoError (Option Int32)} :
    Dummy.nextSample (Probing.pps p) w = .ok a v ↔
      ∃ x s, Arrives p w.source x s ∧ v = w.waited 1 s ∧ x.outcome = a := by
  constructor
  · intro h
    -- Each way that the wait and the read can go is an arrival, whose outcome is the answer.
    suffices ∃ x s, Arrives p w.source x s by
      obtain ⟨x, s, hx⟩ := this
      rw [nextSample_of_arrives hx] at h
      cases h
      exact ⟨x, s, hx, rfl, rfl⟩
    obtain ⟨event, u, h1, h⟩ := Act.bind_ok h
    obtain ⟨s, hw, rfl⟩ := wait_ok_iff.mp h1
    rcases event with e | (_ | _ | _)
    · exact ⟨_, _, .waitFails hw⟩
    · obtain ⟨r, u, h2, -⟩ := Act.bind_ok h
      obtain ⟨t, hr, -⟩ := read_ok_iff.mp h2
      cases r with
      | ok ns => exact ⟨_, _, .sample hw hr⟩
      | error e => exact ⟨_, _, .readFails hw hr⟩
    · exact ⟨_, _, .silence hw⟩
    · exact ⟨_, _, .cut hw⟩
  · rintro ⟨x, s, hx, rfl, rfl⟩
    exact nextSample_of_arrives hx

/-! ## (2) Samples, rows and calibrations -/

theorem awaitSample_iff {a : Except IoError Int32} :
    Dummy.awaitSample (Probing.pps p) patience w = .ok a v ↔
      ∃ again x s, (∀ y ∈ again, y.transient = true) ∧ again.length < patience ∧
        Linked (Arrives p) w.source (again ++ [x]) s ∧ v = w.waited (again.length + 1) s ∧ x.outcome = a.map some := by
  induction patience generalizing w with
  | zero =>
    constructor
    · intro h
      cases h
    · rintro ⟨_, _, _, _, h, _⟩
      cases h
  | succ patience ih =>
    unfold Dummy.awaitSample
    rw [Act.bind_ok_iff]
    constructor
    · rintro ⟨o, u, h1, h2⟩
      obtain ⟨x, s, hx, rfl, rfl⟩ := nextSample_iff.mp h1
      cases ho : x.outcome with
      | error e =>
        rw [ho] at h2
        cases h2
        exact ⟨[], x, s, nofun, by simp, .cons hx (.nil _), rfl, ho⟩
      | ok o =>
        rw [ho] at h2
        cases o with
        | some ns =>
          cases h2
          exact ⟨[], x, s, nofun, by simp, .cons hx (.nil _), rfl, ho⟩
        | none =>
          obtain ⟨again, y, t, ha, hl, hs, rfl, hy⟩ := ih.mp h2
          refine ⟨x :: again, y, t, ?_, by rw [List.length_cons]; omega, .cons hx hs, ?_, hy⟩
          · exact List.forall_mem_cons.mpr ⟨Arrival.outcome_eq_none_iff.mp ho, ha⟩
          · rw [waited_waited, List.length_cons, show 1 + (again.length + 1) = again.length + 1 + 1 by omega]
    · rintro ⟨again, x, s, ha, hl, hs, rfl, hx⟩
      cases again with
      | nil =>
        obtain ⟨t, h1, h2⟩ := linked_cons.mp hs
        rw [linked_nil] at h2
        subst h2
        refine ⟨_, _, nextSample_of_arrives h1, ?_⟩
        rw [hx]
        cases a <;> rfl
      | cons y again =>
        obtain ⟨t, h1, h2⟩ := linked_cons.mp hs
        have hy : y.outcome = .ok none := Arrival.outcome_eq_none_iff.mpr (ha y List.mem_cons_self)
        refine ⟨_, _, nextSample_of_arrives h1, ?_⟩
        rw [hy]
        refine ih.mpr ⟨again, x, s, fun z hz => ha z (List.mem_cons_of_mem y hz), ?_, h2, ?_, hx⟩
        · rw [List.length_cons] at hl
          omega
        · rw [waited_waited, List.length_cons, show 1 + (again.length + 1) = again.length + 1 + 1 by omega]

theorem takeRow_iff {polarity : Polarity} {row : List Int64} {a : Except IoError (List Int64)} :
    Dummy.takeRow (Probing.pps p) polarity patience n row w = .ok a v ↔
      ∃ as r s, Taking patience n as r ∧ Linked (Arrives p) w.source as s ∧ v = w.waited as.length s ∧
        a = r.map fun values => row.reverse ++ values.map polarity.apply := by
  induction n generalizing row w with
  | zero =>
    constructor
    · intro h
      cases h
      refine ⟨[], .ok [], _, .enough, .nil _, ?_, ?_⟩
      · simp [Probing.waited]
      · simp [Except.map]
    · rintro ⟨as, r, s, ht, hs, rfl, rfl⟩
      cases ht
      rw [linked_nil] at hs
      subst hs
      simp [Dummy.takeRow, Probing.waited, Except.map, pure, EStateM.pure]
  | succ n ih =>
    unfold Dummy.takeRow
    rw [Act.bind_ok_iff]
    constructor
    · rintro ⟨o, u, h1, h2⟩
      obtain ⟨again, x, s, ha, hl, hs, rfl, hx⟩ := awaitSample_iff.mp h1
      cases o with
      | error e =>
        cases h2
        have hx := Arrival.outcome_eq_error_iff.mp hx
        exact ⟨again ++ [x], .error e, s, .failure ha hl hx, hs, by rw [List.length_append]; rfl, rfl⟩
      | ok ns =>
        obtain rfl := Arrival.outcome_eq_some_iff.mp hx
        obtain ⟨as, r, t, ht, hs', rfl, rfl⟩ := ih.mp h2
        refine ⟨again ++ .sample ns :: as, _, t, .sample ns ha hl ht, ?_, ?_, ?_⟩
        · rw [List.append_cons, linked_append]
          exact ⟨s, hs, hs'⟩
        · rw [waited_waited, List.length_append, List.length_cons,
            show again.length + 1 + as.length = again.length + (as.length + 1) by omega]
        · cases r <;> simp [Except.map]
    · rintro ⟨as, r, s, ht, hs, rfl, rfl⟩
      cases ht with
      | @sample _ again rest r ns ha hl ht =>
        rw [List.append_cons, linked_append] at hs
        obtain ⟨t, hs, hs'⟩ := hs
        refine ⟨.ok ns, _, awaitSample_iff.mpr ⟨again, _, t, ha, hl, hs, rfl, rfl⟩, ?_⟩
        refine ih.mpr ⟨rest, r, s, ht, hs', ?_, ?_⟩
        · rw [waited_waited, List.length_append, List.length_cons,
            show again.length + 1 + rest.length = again.length + (rest.length + 1) by omega]
        · cases r <;> simp [Except.map]
      | @failure _ again x e ha hl hx =>
        have hx := Arrival.outcome_eq_error_iff.mpr hx
        refine ⟨.error e, _, awaitSample_iff.mpr ⟨again, x, s, ha, hl, hs, rfl, hx⟩, ?_⟩
        rw [List.length_append]
        rfl

/-- The fine control at the waits of some rows, one control value for each row. -/
def finesOf (range : DacRange) (points : List UInt32) (rows : List (List Arrival)) : List UInt32 :=
  (points.zip rows).flatMap fun q => List.replicate q.2.length (range.clamp q.1)

/-- The oscillator after the last of these writes. -/
def Dummy.setFines (d : Dummy) (points : List UInt32) : Dummy := points.foldl Dummy.setFine d

/-- All that a later write leaves of earlier ones. -/
theorem setFine_setFines (d : Dummy) (points : List UInt32) (f : UInt32) :
    (d.setFines points).setFine f = d.setFine f := by
  induction points generalizing d with
  | nil => rfl
  | cons point points ih => exact ih (d.setFine point)

/-- The world after some rows. -/
def Probing.probed (w : Probing S) (points : List UInt32) (rows : List (List Arrival)) (s : S) : Probing S :=
  ⟨s, w.dummy.setFines (points.take rows.length), w.waits ++ finesOf w.dummy.range points rows⟩

theorem probed_waited (w : Probing S) (point : UInt32) (points : List UInt32) (as : List Arrival)
    (rows : List (List Arrival)) (s t : S) :
    (Probing.waited { w with dummy := w.dummy.setFine point } as.length s).probed points rows t =
      w.probed (point :: points) (as :: rows) t := by
  simp only [Probing.probed, Probing.waited, finesOf, List.length_cons, List.take_succ_cons, List.zip_cons_cons,
    List.flatMap_cons, List.append_assoc]
  rfl

theorem probed_nil (w : Probing S) (points : List UInt32) : w.probed points [] w.source = w := by
  simp [Probing.probed, finesOf, Dummy.setFines]

theorem takeRows_iff {polarity : Polarity} {samples : UInt32} {points : List UInt32} {before : List (List Int64)}
    {a : Except IoError Calibration.Results} :
    Dummy.takeRows Probing.slot.cell (Probing.pps p) polarity patience samples points before w = .ok a v ↔
      ∃ rows r s, TakingRows patience samples.toNat points.length rows r ∧ Linked (Arrives p) w.source rows.flatten s ∧
        v = w.probed points rows s ∧
        a = r.map fun values => ⟨before.reverse ++ values.map (List.map polarity.apply)⟩ := by
  induction points generalizing before w with
  | nil =>
    constructor
    · intro h
      cases h
      refine ⟨[], .ok [], _, .done, .nil _, (probed_nil _ _).symm, ?_⟩
      simp [Except.map]
    · rintro ⟨rows, r, s, ht, hs, rfl, rfl⟩
      cases ht
      rw [List.flatten_nil, linked_nil] at hs
      subst hs
      rw [probed_nil]
      simp [Dummy.takeRows, Except.map, pure, EStateM.pure]
  | cons point points ih =>
    constructor
    · intro h
      obtain ⟨_, _, hset, h⟩ := Act.bind_ok h
      cases hset
      obtain ⟨_, _, hnote, h⟩ := Act.bind_ok h
      cases hnote
      obtain ⟨o, u, h1, h2⟩ := Act.bind_ok h
      obtain ⟨as, r, s, ht, hs, rfl, rfl⟩ := takeRow_iff.mp h1
      cases r with
      | error e =>
        cases h2
        refine ⟨[as], .error e, s, .failure ht, by rwa [List.flatten_singleton], ?_, rfl⟩
        rw [← probed_waited w point points as [] s s]
        exact (probed_nil _ _).symm
      | ok values =>
        obtain ⟨rows, r, t, ht', hs', rfl, rfl⟩ := ih.mp h2
        refine ⟨as :: rows, _, t, .row ht ht', ?_, probed_waited w point points as rows s t, ?_⟩
        · rw [List.flatten_cons, linked_append]
          exact ⟨s, hs, hs'⟩
        · cases r <;> simp [Except.map]
    · rintro ⟨rows, r, s, ht, hs, rfl, rfl⟩
      refine Act.bind_ok_iff.mpr ⟨_, _, rfl, Act.bind_ok_iff.mpr ⟨_, _, rfl, Act.bind_ok_iff.mpr ?_⟩⟩
      cases ht with
      | @row _ as rows values r ht ht' =>
        rw [List.flatten_cons, linked_append] at hs
        obtain ⟨t, hs, hs'⟩ := hs
        refine ⟨_, _, takeRow_iff.mpr ⟨as, .ok values, t, ht, hs, rfl, rfl⟩, ?_⟩
        refine ih.mpr ⟨rows, r, s, ht', hs', (probed_waited w point points as rows t s).symm, ?_⟩
        cases r <;> simp [Except.map]
      | @failure _ as e ht =>
        rw [List.flatten_singleton] at hs
        refine ⟨_, _, takeRow_iff.mpr ⟨as, .error e, s, ht, hs, rfl, rfl⟩, ?_⟩
        rw [← probed_waited w point points as [] s s]
        exact congrArg _ (probed_nil _ _).symm

/-- The answer of a calibration, from the samples of its rows. -/
def Calibration.measured (polarity : Polarity) : Except IoError (List (List Int32)) → Option Calibration.Results
  | .ok values => some ⟨values.map (List.map polarity.apply)⟩
  | .error _ => none

theorem calibrate_iff {plan : Calibration.Plan} {polarity : Polarity} {a : Option Calibration.Results} :
    Dummy.calibrate Probing.slot.cell patience plan (Probing.pps p) polarity w = .ok a v ↔
      ∃ rows r s, TakingRows patience plan.samples.toNat plan.points.length rows r ∧
        Linked (Arrives p) w.source rows.flatten s ∧
        v = ⟨s, w.dummy.setFine w.dummy.fine, w.waits ++ finesOf w.dummy.range plan.points rows⟩ ∧
        a = Calibration.measured polarity r := by
  have hrows : Dummy.calibrate Probing.slot.cell patience plan (Probing.pps p) polarity w = .ok a v ↔
      ∃ o u, Dummy.takeRows Probing.slot.cell (Probing.pps p) polarity patience plan.samples plan.points [] w = .ok o u ∧
        v = { u with dummy := u.dummy.setFine w.dummy.fine } ∧ a = o.toOption := by
    constructor
    · intro h
      obtain ⟨_, _, hget, h⟩ := Act.bind_ok h
      cases hget
      obtain ⟨_, _, hnote, h⟩ := Act.bind_ok h
      cases hnote
      obtain ⟨o, u, ho, h⟩ := Act.bind_ok h
      refine ⟨o, u, ho, ?_⟩
      cases o with
      | error e =>
        cases h
        exact ⟨rfl, rfl⟩
      | ok r =>
        cases h
        exact ⟨rfl, rfl⟩
    · rintro ⟨o, u, ho, rfl, rfl⟩
      refine Act.bind_ok_iff.mpr ⟨_, _, rfl, Act.bind_ok_iff.mpr ⟨_, _, rfl, Act.bind_ok_iff.mpr ⟨o, u, ho, ?_⟩⟩⟩
      cases o with
      | error e => rfl
      | ok r => rfl
  rw [hrows]
  constructor
  · rintro ⟨o, u, h, rfl, rfl⟩
    obtain ⟨rows, r, s, ht, hs, rfl, rfl⟩ := takeRows_iff.mp h
    refine ⟨rows, r, s, ht, hs, ?_, ?_⟩
    · rw [Probing.probed, setFine_setFines]
    · cases r <;> rfl
  · rintro ⟨rows, r, s, ht, hs, rfl, rfl⟩
    refine ⟨_, _, takeRows_iff.mpr ⟨rows, r, s, ht, hs, rfl, rfl⟩, ?_, ?_⟩
    · rw [Probing.probed, setFine_setFines]
    · cases r <;> rfl

end

end ClockDiscipline
