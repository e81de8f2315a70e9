/-
  ClockDiscipline.Proofs.IgnoredSample — which samples the loop drops.

  After a phase jump that reached the device the next good sample shows the jump and is
  dropped. The loop remembers this in a flag that outlives cut waits, samples that are
  not there yet and failed turns, and that one good sample takes down.

  Invariant: the flag is up exactly if the latest good sample led to a jump that reached
  the device.

  Proved: (1) what a turn does to the flag (`moves_of_fits`), and that a row of turns is a
  chain of such moves (`chain_records`); (2) over every row of turns, on every rig, each
  jump drops one good sample, the next, and nothing else drops any
  (`each_jump_discards_the_next_good_sample`).
-/

import ClockDiscipline.Proofs.TurnRow

namespace ClockDiscipline.Turn

namespace Record

/-- Whether a sample was read. -/
def good (r : Record) : Bool := r.calls.any fun
  | ⟨.read, .ok _⟩ => true
  | _ => false

/-- Whether the engine asked for a phase jump, and the device took one. -/
def jumped (r : Record) : Bool :=
  (r.calls.any fun
    | ⟨.process _, .ok o⟩ => o.action == .phaseJump
    | _ => false) &&
  r.calls.any fun
    | ⟨.shift _, .ok ()⟩ => true
    | _ => false

/-- Whether oscillator and receiver were turned to, which is what a sample is measured for. -/
def measured (r : Record) : Bool := r.calls.any fun
  | ⟨.temperature, _⟩ => true
  | _ => false

/-- Whether the sample was dropped: nothing was called but the PPS source, to wait and to read. -/
def discarded (r : Record) : Bool :=
  match r.answer with
  | .ok .skipped => r.calls.all fun
    | ⟨.wait _, _⟩ => true
    | ⟨.read, _⟩ => true
    | _ => false
  | _ => false

end Record

/-! ## (1) The flag -/

/-- What a turn does, by the flag it finds and the flag it leaves. -/
structure Moves (found : Bool) (r : Record) (left : Bool) : Prop where
  left_eq : left = if r.good then r.jumped else found
  discarded_eq : r.discarded = (r.good && found)
  measured_eq : r.measured = (r.good && !found)
  measured_of_jumped : r.jumped = true → r.measured = true
  jumped_iff : r.jumped = true ↔ r.answer = .ok (.acted .phaseJump)

section

variable {found left : Bool} {r : Record}

/-- Without a sample the flag stays as it was. -/
theorem moves_of_no_sample (hg : r.good = false) (hj : r.jumped = false) (hm : r.measured = false)
    (hd : r.discarded = false) (ha : r.answer ≠ .ok (.acted .phaseJump)) : Moves found r found where
  left_eq := by simp [hg]
  discarded_eq := by simp [hg, hd]
  measured_eq := by simp [hg, hm]
  measured_of_jumped h := by simp [hj] at h
  jumped_iff := by simp [hj, ha]

/-- A flag that is up drops the sample. -/
theorem moves_of_discarded (hg : r.good = true) (hj : r.jumped = false) (hm : r.measured = false)
    (hd : r.discarded = true) (ha : r.answer ≠ .ok (.acted .phaseJump)) : Moves true r false where
  left_eq := by simp [hg, hj]
  discarded_eq := by simp [hg, hd]
  measured_eq := by simp [hg, hm]
  measured_of_jumped h := by simp [hj] at h
  jumped_iff := by simp [hj, ha]

/-- A flag that is down lets the sample through, and a jump puts it up. -/
theorem moves_of_measured (hg : r.good = true) (hm : r.measured = true) (hd : r.discarded = false)
    (hj : r.jumped = left) (ha : left = true ↔ r.answer = .ok (.acted .phaseJump)) : Moves false r left where
  left_eq := by simp [hg, hj]
  discarded_eq := by simp [hg, hd]
  measured_eq := by simp [hg, hm]
  measured_of_jumped _ := hm
  jumped_iff := by rw [hj]; exact ha

end

theorem moves_of_fits {settings : Settings} {s : LoopState} {calls : List Call} {r : Except Error (Turn × LoopState)}
    {f : Form} (h : f.Fits settings s calls r) :
    Moves s.ignoreNext ⟨calls, (settle s r).1⟩ (settle s r).2.ignoreNext := by
  cases f with
  | waited =>
    obtain ⟨a, rfl, h⟩ := h
    rcases a with e | (_ | _ | _) <;> cases h <;> exact moves_of_no_sample rfl rfl rfl rfl (by simp [settle])
  | sampled =>
    obtain ⟨a, rfl, h⟩ := h
    cases a with
    | error e =>
      simp only [afterRead] at h
      split at h <;> cases h <;> exact moves_of_no_sample rfl rfl rfl rfl (by simp [settle])
    | ok n =>
      simp only [afterRead] at h
      split at h
      · rename_i hs
        cases h
        rw [hs]
        exact moves_of_discarded rfl rfl rfl rfl (by simp [settle])
      · cases h
  | carried =>
    obtain ⟨n, rest, rfl, hs, h⟩ := h
    rw [hs]
    cases h with
    | unread h =>
      cases h <;> refine moves_of_measured rfl rfl rfl ?_ ?_ <;> simp [settle, hs, Record.jumped]
    | undecided h e =>
      cases h
      refine moves_of_measured rfl rfl rfl ?_ ?_ <;> simp [settle, hs, Record.jumped]
    | failed h h' =>
      cases h
      cases h' <;> refine moves_of_measured rfl rfl rfl ?_ ?_ <;> simp [settle, hs, Record.jumped]
    | acted h h' =>
      cases h
      cases h' <;> refine moves_of_measured rfl rfl rfl ?_ ?_ <;> simp [*, settle, Record.jumped, LoopState.ignoring]

/-- A row of turns, from the flag that it finds. -/
inductive Chain : Bool → List Record → Prop where
  | nil {found : Bool} : Chain found []
  | cons {found left : Bool} {r : Record} {rest : List Record} (h : Moves found r left) (h' : Chain left rest) :
      Chain found (r :: rest)

theorem chain_records {W : Type} [Journal (Act W)] (rig : Rig (Act W)) (settings : Settings) (n : Nat) (s : LoopState)
    (w : W) : Chain s.ignoreNext (records rig settings n s w) := by
  induction n generalizing s w with
  | zero => exact .nil
  | succ n ih =>
    unfold records
    cases ht : (Turn.take rig settings s).run w with
    | ok r v =>
      obtain ⟨f, hf⟩ := fits_of_ok rig ht
      rw [step_of_ok ht]
      exact .cons (moves_of_fits hf) (ih _ v)
    | error e v =>
      rw [step_of_error ht]
      exact .nil

/-! ## (2) Rows of turns -/

def latestGood (rs : List Record) : Option Record := (rs.filter Record.good).getLast?

/-- The flag after a row of turns. -/
def flagAfter (found : Bool) (rs : List Record) : Bool := ((latestGood rs).map Record.jumped).getD found

theorem flagAfter_cons {found left : Bool} {r : Record} {rest : List Record} (h : Moves found r left) :
    flagAfter found (r :: rest) = flagAfter left rest := by
  rw [h.left_eq]
  unfold flagAfter latestGood
  cases hg : r.good with
  | false => simp [hg]
  | true =>
    rw [List.filter_cons_of_pos hg, List.getLast?_cons]
    cases (rest.filter Record.good).getLast? <;> rfl

theorem Chain.at {found : Bool} {before after : List Record} {r : Record} (h : Chain found (before ++ r :: after)) :
    ∃ left, Moves (flagAfter found before) r left := by
  induction before generalizing found with
  | nil =>
    cases h with
    | cons h h' => exact ⟨_, h⟩
  | cons q before ih =>
    cases h with
    | cons h h' =>
      rw [flagAfter_cons h]
      exact ih h'

/-- A turn takes the flag down by dropping a sample, and puts it up by a jump. -/
theorem Moves.balance {found left : Bool} {r : Record} (h : Moves found r left) :
    r.discarded.toNat + left.toNat = r.jumped.toNat + found.toNat := by
  have hl := h.left_eq
  have hd := h.discarded_eq
  by_cases hg : r.good = true
  · simp only [hg, if_true, Bool.true_and] at hl hd
    rw [hl, hd, Nat.add_comm]
  · have hj : r.jumped = false := by
      apply Bool.eq_false_iff.mpr
      intro hj
      have hm := h.measured_of_jumped hj
      rw [h.measured_eq, Bool.eq_false_iff.mpr hg] at hm
      cases hm
    simp only [hg] at hl hd
    rw [hl, hd, hj]
    rfl

/-- As many samples are dropped as jumps were made, up to a jump whose sample is still to come. -/
theorem Chain.count {found : Bool} {rs : List Record} (h : Chain found rs) :
    rs.countP Record.discarded + (flagAfter found rs).toNat = rs.countP Record.jumped + found.toNat := by
  induction h with
  | nil => rfl
  | @cons found left r rest h h' ih =>
    have hb := h.balance
    have ht : ∀ b : Bool, (if b = true then 1 else 0) = b.toNat := by intro b; cases b <;> rfl
    rw [flagAfter_cons h, List.countP_cons, List.countP_cons, ht, ht]
    omega

theorem Chain.moves {found : Bool} {rs : List Record} (h : Chain found rs) {r : Record} (hr : r ∈ rs) :
    ∃ found left, Moves found r left := by
  obtain ⟨before, after, rfl⟩ := List.append_of_mem hr
  exact ⟨_, h.at⟩

theorem Moves.measured_iff {found left : Bool} {r : Record} (h : Moves found r left) (hg : r.good = true) :
    r.measured = true ↔ r.discarded = false := by
  rw [h.measured_eq, h.discarded_eq, hg]
  cases found <;> simp

/-- Which samples a row of turns drops. -/
structure DropsOnePerJump (rs : List Record) : Prop where
  /-- A good sample is dropped exactly if the latest good one before it led to a jump that reached the device. -/
  discarded_iff : ∀ before r after, rs = before ++ r :: after → r.good = true →
    (r.discarded = true ↔ ∃ q, latestGood before = some q ∧ q.jumped = true)
  measured_iff : ∀ r ∈ rs, r.good = true → (r.measured = true ↔ r.discarded = false)
  /-- A turn without a sample drops none. -/
  good_of_discarded : ∀ r ∈ rs, r.discarded = true → r.good = true
  /-- No failed turn counts as a jump, and no turn that did anything else. -/
  jumped_iff : ∀ r ∈ rs, r.jumped = true ↔ r.answer = .ok (.acted .phaseJump)
  /-- Of two good samples in a row at most one is dropped. -/
  apart : ∀ before r after q, rs = before ++ r :: after → latestGood before = some q → r.discarded = true →
    q.discarded = false
  /-- As many samples are dropped as jumps were made, up to a jump that no good sample followed. -/
  count : rs.countP Record.discarded + ((latestGood rs).any Record.jumped).toNat = rs.countP Record.jumped

theorem Chain.dropsOnePerJump {rs : List Record} (h : Chain false rs) : DropsOnePerJump rs where
  discarded_iff before r after hrs hg := by
    subst hrs
    obtain ⟨left, hm⟩ := h.at
    rw [hm.discarded_eq, hg, Bool.true_and]
    unfold flagAfter
    cases latestGood before with
    | none => simp
    | some q => simp
  measured_iff r hr hg := by
    obtain ⟨_, _, hm⟩ := h.moves hr
    exact hm.measured_iff hg
  good_of_discarded r hr hd := by
    obtain ⟨_, _, hm⟩ := h.moves hr
    rw [hm.discarded_eq] at hd
    exact (Bool.and_eq_true_iff.mp hd).1
  jumped_iff r hr := by
    obtain ⟨_, _, hm⟩ := h.moves hr
    exact hm.jumped_iff
  apart before r after q hrs hq hd := by
    subst hrs
    obtain ⟨left, hm⟩ := h.at
    have hj : q.jumped = true := by
      rw [hm.discarded_eq, flagAfter, hq] at hd
      exact (Bool.and_eq_true_iff.mp hd).2
    have hf := List.mem_of_getLast? hq
    obtain ⟨hb, hg⟩ := List.mem_filter.mp hf
    obtain ⟨_, _, hm⟩ := h.moves (List.mem_append_left _ hb)
    exact (hm.measured_iff hg).mp (hm.measured_of_jumped hj)
  count := by
    have hc := h.count
    rw [Bool.toNat_false, Nat.add_zero] at hc
    rw [← hc, flagAfter]
    cases latestGood rs <;> rfl

/-- Over every row of turns, whatever the collaborators do and however turns end, each jump that reached the
    device drops one good sample, the next, and nothing else drops any. -/
theorem each_jump_discards_the_next_good_sample {W : Type} [Journal (Act W)] (rig : Rig (Act W)) (settings : Settings)
    (turns : UInt32) (n : Nat) (w : W) : DropsOnePerJump (records rig settings n (.start turns) w) :=
  (chain_records rig settings n (.start turns) w).dropsOnePerJump

/-- A jump, a cut wait, a sample that is not there yet, one that cannot be read, and two good samples. -/
def jumpAmidFailures : Rehearsal.Stage :=
  { Rehearsal.Stage.empty with
    script := ⟨[.sample 5000, .interrupted, .edge, .readFails (.kind .brokenPipe), .sample 5000, .sample 20], none, []⟩
    outputs := [.ok ⟨.phaseJump, 1000, 5000⟩] }

/-- The flag waits for the first good sample, through turns that fail, and the second one is measured. -/
theorem a_jump_outlasts_failed_turns :
    let rs := records rehearsedRig .standard 6 (.start 0) jumpAmidFailures
    rs.map Record.answer = [.ok (.acted .phaseJump), .ok .interrupted, .ok .notReady,
        .error (.io "reading phase error" (.kind .brokenPipe)), .ok .skipped, .ok (.acted .none)] ∧
      rs.map Record.good = [true, false, false, false, true, true] ∧
      rs.map Record.jumped = [true, false, false, false, false, false] ∧
      rs.map Record.discarded = [false, false, false, false, true, false] ∧
      rs.map Record.measured = [true, false, false, false, false, true] ∧ DropsOnePerJump rs :=
  ⟨rfl, rfl, rfl, rfl, rfl, each_jump_discards_the_next_good_sample rehearsedRig .standard 0 6 jumpAmidFailures⟩

end ClockDiscipline.Turn
