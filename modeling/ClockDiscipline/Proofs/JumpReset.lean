/-
  ClockDiscipline.Proofs.JumpReset — what a phase jump leaves of the past.

  A jump forgets the errors of the window. The integral is kept: it goes on steering with
  what was summed up before the jump. So two engines that are set alike and jump at the
  same sample differ in their integrals and in nothing else, and they stay that way. What
  they decide later differs in the setpoints of adjustments only, and does not differ at
  all if the integrals were the same; a calibration that is adopted makes them the same.

  Proved: (1) what a jump does (`process_of_jump`); (2) engines that differ in their
  integrals decide alike and stay such (`process_of_twins`, `submit_of_twins`), over every
  row of steps (`serve_of_twins`); (3) both together (`a_jump_resets_the_window_alone`).
-/

import ClockDiscipline.Proofs.SetpointRange

namespace ClockDiscipline

namespace Pid

/-! ## (1) The jump -/

theorem process_of_jump {R : Type} [Scalar R] {e : Pid R} {i : ControlInput} {total : Int64} {shift : Int32}
    (hv : i.valid = true) (hp : e.pending = false) (ht : i.phase.asNs? = some total) (hx : e.Exceeds total)
    (hs : int32? total.toInt = some shift) :
    e.process i = some (.ok ⟨.phaseJump, i.fine, shift⟩, { e with window := .zero }) := by
  have hn : ¬(total.toInt < -2147483648 ∨ 2147483648 ≤ total.toInt) :=
    mt int32?_eq_none_iff.mpr (by rw [hs]; exact nofun)
  rw [process_of_total hv hp ht (by omega), if_pos hx, hs]

theorem state_of_jump {R : Type} [Scalar R] {e e' : Pid R} {i : ControlInput} {o : ControlOutput}
    (h : e.process i = some (.ok o, e')) (ho : o.action = .phaseJump) :
    e' = { e with window := .zero } ∧ e.pending = false := by
  cases decided_of_process h with
  | held | asked => cases ho
  | jumped _ hp => exact ⟨rfl, hp⟩
  | steered _ _ _ _ hs =>
    obtain ⟨setpoint, rfl, -⟩ := hs.output
    cases ho

/-! ## (2) Engines with different integrals -/

/-- Decisions that are the same, or adjustments. -/
def Alike (a b : Except String ControlOutput) : Prop :=
  a = b ∨ ∃ s t, a = .ok ⟨.adjustFine, s, 0⟩ ∧ b = .ok ⟨.adjustFine, t, 0⟩

/-- Engines that differ in their integrals at most. -/
def Twins (e d : Pid Float) : Prop := ∃ x, d = { e with integral := x }

/-- Both answer alike and stay twins, or neither has an answer. -/
def Paired {α : Type} (r : α → α → Prop) : Option (α × Pid Float) → Option (α × Pid Float) → Prop :=
  Option.Rel fun p q => r p.1 q.1 ∧ Twins p.2 q.2

theorem rel_bind {α β γ δ : Type} {r : α → β → Prop} {s : γ → δ → Prop} {x : Option α} {y : Option β}
    {f : α → Option γ} {g : β → Option δ} (h : Option.Rel r x y) (hf : ∀ a b, r a b → Option.Rel s (f a) (g b)) :
    Option.Rel s (x >>= f) (y >>= g) := by
  cases h with
  | none => exact .none
  | some h => exact hf _ _ h

theorem rel_refl {α : Type} (x : Option α) : Option.Rel Eq x x := by
  cases x with
  | none => exact .none
  | some a => exact .some rfl

/-- Whether a clamp has an answer is up to its ends. -/
theorem rel_clamp? (lo hi x y : Float) :
    Option.Rel (fun _ _ => True) (Scalar.clamp? lo hi x) (Scalar.clamp? lo hi y) := by
  change Option.Rel _ (Binary64.clamp? lo hi x) (Binary64.clamp? lo hi y)
  unfold Binary64.clamp?
  split
  · exact .some trivial
  · exact .none

section

variable {e d : Pid Float} (h : Twins e d)

include h

theorem steer_of_twins (phase : Int64) (fine : UInt32) :
    Paired (fun o o' => Alike (.ok o) (.ok o')) (e.steer phase fine) (d.steer phase fine) := by
  obtain ⟨x, rfl⟩ := h
  refine rel_bind (rel_clamp? _ _ _ _) fun _ y _ => rel_bind (rel_clamp? _ _ _ _) fun _ _ _ => .some ⟨?_, y, rfl⟩
  exact Or.inr ⟨_, _, rfl, rfl⟩

theorem process_of_twins (i : ControlInput) : Paired Alike (e.process i) (d.process i) := by
  have hs := steer_of_twins h
  obtain ⟨x, rfl⟩ := h
  cases hv : i.valid with
  | false =>
    rw [process_of_untrusted e hv, process_of_untrusted _ hv]
    exact .some ⟨Or.inl rfl, x, rfl⟩
  | true =>
  obtain ⟨tuning, gain, center, integral, window, pending⟩ := e
  cases pending with
  | true =>
    rw [process_of_pending rfl hv, process_of_pending rfl hv]
    exact .some ⟨Or.inl rfl, x, rfl⟩
  | false =>
    unfold process
    simp only [hv]
    refine rel_bind (rel_refl _) fun total _ ht => ?_
    subst ht
    refine rel_bind (rel_refl _) fun size _ hz => ?_
    subst hz
    split
    · split
      · exact .some ⟨Or.inl rfl, x, rfl⟩
      · exact .some ⟨Or.inl rfl, x, rfl⟩
    · exact rel_bind (hs total i.fine) fun p q hpq => .some hpq

theorem submit_of_twins (p : Calibration.Plan) (r : Calibration.Results) :
    Paired Eq (e.submit p r) (d.submit p r) := by
  obtain ⟨x, rfl⟩ := h
  unfold submit
  simp only
  split
  · exact .some ⟨rfl, x, rfl⟩
  · refine rel_bind (rel_refl _) fun points _ hd => ?_
    subst hd
    split
    · exact .some ⟨rfl, x, rfl⟩
    · split
      · refine rel_bind (rel_refl _) fun nominal _ hn => ?_
        subst hn
        exact .some ⟨rfl, _, rfl⟩
      · exact .some ⟨rfl, x, rfl⟩

/-- Step by step twins decide alike, and if one comes to its end the other one does. -/
theorem serve_of_twins (rs : List Request) :
    List.Forall₂ (fun p q => p.1 = q.1 ∧ Alike p.2 q.2) (e.serve rs).1 (d.serve rs).1 ∧
      Option.Rel Twins (e.serve rs).2 (d.serve rs).2 := by
  induction rs generalizing e d with
  | nil => exact ⟨.nil, .some h⟩
  | cons r rs ih =>
    cases r with
    | decide i =>
      have hi := process_of_twins h i
      cases hp : e.process i <;> cases hq : d.process i <;> rw [hp, hq] at hi <;> simp only [serve, hp, hq]
      · exact ⟨.nil, .none⟩
      · cases hi
      · cases hi
      · cases hi with
        | some hi =>
          obtain ⟨hs, he⟩ := ih hi.2
          exact ⟨.cons ⟨rfl, hi.1⟩ hs, he⟩
    | adopt p r =>
      have hr := submit_of_twins h p r
      cases hp : e.submit p r <;> cases hq : d.submit p r <;> rw [hp, hq] at hr <;> simp only [serve, hp, hq]
      · exact ⟨.nil, .none⟩
      · cases hr
      · cases hr
      · cases hr with
        | some hr => exact ih hr.2

end

/-! ## (3) What is left -/

/-- A jump empties the window and changes nothing else. Of two engines that are set alike and answer one sample with a
    jump, the later decisions differ in the setpoints of adjustments at most; they come to the same decisions and states
    in every row of steps exactly if their integrals were the same. -/
theorem a_jump_resets_the_window_alone {e : Pid Float} {i : ControlInput} {total : Int64} {shift : Int32}
    (hp : e.pending = false) (hv : i.valid = true) (ht : i.phase.asNs? = some total) (hx : e.Exceeds total)
    (hs : int32? total.toInt = some shift) :
    let e' := { e with window := .zero }
    e.process i = some (.ok ⟨.phaseJump, i.fine, shift⟩, e') ∧
      ∀ (d d' : Pid Float) (o : ControlOutput), d.tuning = e.tuning → d.gain = e.gain → d.center = e.center →
        d.process i = some (.ok o, d') → o.action = .phaseJump →
        (∀ rs, List.Forall₂ (fun p q => p.1 = q.1 ∧ Alike p.2 q.2) (e'.serve rs).1 (d'.serve rs).1) ∧
          ((∀ rs, e'.serve rs = d'.serve rs) ↔ e.integral = d.integral) := by
  intro e'
  refine ⟨process_of_jump hv hp ht hx hs, fun d d' o htuning hgain hcenter hd ho => ?_⟩
  have hd' : d' = { e' with integral := d.integral } := by
    obtain ⟨rfl, hp'⟩ := state_of_jump hd ho
    rw [htuning, hgain, hcenter, hp', ← hp]
  refine ⟨fun rs => (serve_of_twins ⟨_, hd'⟩ rs).1, fun h => ?_, fun h rs => ?_⟩
  · -- A row of no steps leaves the states as they are.
    have hs : e' = d' := Option.some.inj (congrArg Prod.snd (h []))
    have hi : e'.integral = d'.integral := congrArg Pid.integral hs
    rw [hd'] at hi
    exact hi
  · rw [hd', ← h]

/-- Steers by the integral alone, one step of the control for each nanosecond of it. -/
def summing : Pid Float :=
  ⟨⟨.between 0 65535, Scalar.ofInt 0, Scalar.ofInt 1, Scalar.ofInt 1000000, 1000, [16383, 32767, 49149], 4⟩,
    Scalar.ofInt 1, none, Scalar.ofInt 0, .zero, false⟩

/-- The same after two samples of 100 ns, at a control value of 1000. -/
def summedUp : Pid Float :=
  { summing with center := some 1000, integral := Scalar.ofInt 100, window := ⟨0, 100, 100⟩ }

theorem ofConfig_summing : ofConfig Float (Config.parse "kp=0\nki=1\nns-per-step=1") = .ok summing := by
  decide +kernel

/-- Both jump over 5 µs. At the next sample without an error one of them is still 100 steps away from the other. -/
theorem two_histories_jump_alike :
    let fresh : Pid Float := { summing with center := some 1000 }
    let jumped : Pid Float := { summedUp with window := .zero }
    summedUp.process (trustedSample 5000 1000) = some (.ok ⟨.phaseJump, 1000, 5000⟩, jumped) ∧
      fresh.process (trustedSample 5000 1000) = some (.ok ⟨.phaseJump, 1000, 5000⟩, fresh) ∧
      (∀ rs, List.Forall₂ (fun p q => p.1 = q.1 ∧ Alike p.2 q.2) (jumped.serve rs).1 (fresh.serve rs).1) ∧
      ¬∀ rs, jumped.serve rs = fresh.serve rs := by
  intro fresh jumped
  obtain ⟨he, hpair⟩ := a_jump_resets_the_window_alone (e := summedUp) (i := trustedSample 5000 1000) rfl rfl
    (show _ = some 5000 by decide +kernel) (by decide) (show _ = some 5000 by decide)
  have hd : fresh.process (trustedSample 5000 1000) = some (.ok ⟨.phaseJump, 1000, 5000⟩, fresh) := by decide +kernel
  obtain ⟨halike, hsame⟩ := hpair fresh fresh _ rfl rfl rfl hd rfl
  refine ⟨he, hd, halike, fun h => ?_⟩
  exact absurd (hsame.mp h) (by decide +kernel)

/-- The state after a jump is not that of the start, and later outputs tell what was before it. -/
theorem the_integral_outlives_a_jump :
    (¬∀ (c : Config) (e₀ e e' : Pid Float) (rs : List Request) (i : ControlInput) (total : Int64) (shift : Int32)
        (o : ControlOutput), ofConfig Float c = .ok e₀ → (e₀.serve rs).2 = some e → e.pending = false →
        i.valid = true → i.phase.asNs? = some total → e.Exceeds total → int32? total.toInt = some shift →
        e.process i = some (.ok o, e') → e'.window = .zero ∧ e'.integral = Scalar.ofInt 0) ∧
      ¬∀ (c : Config) (e₀ e d e' d' : Pid Float) (rs rs' : List Request) (i : ControlInput) (o o' : ControlOutput),
        ofConfig Float c = .ok e₀ → (e₀.serve rs).2 = some e → (e₀.serve rs').2 = some d → e.gain = d.gain →
        e.center = d.center → e.process i = some (.ok o, e') → d.process i = some (.ok o', d') →
        o.action = .phaseJump → o'.action = .phaseJump → ∀ later, (e'.serve later).1 = (d'.serve later).1 := by
  have hs : (summing.serve [.decide (trustedSample 100 1000), .decide (trustedSample 100 1000)]).2 = some summedUp := by
    decide +kernel
  have hf : (summing.serve [.decide (trustedSample 0 1000)]).2 = some { summing with center := some 1000 } := by
    decide +kernel
  have he : summedUp.process (trustedSample 5000 1000) =
      some (.ok ⟨.phaseJump, 1000, 5000⟩, { summedUp with window := .zero }) := by decide +kernel
  have hd : Pid.process { summing with center := some 1000 } (trustedSample 5000 1000) =
      some (.ok ⟨.phaseJump, 1000, 5000⟩, { summing with center := some 1000 }) := by decide +kernel
  refine ⟨fun h => ?_, fun h => ?_⟩
  · have h := h _ _ _ _ _ (trustedSample 5000 1000) 5000 5000 _ ofConfig_summing hs rfl rfl (by decide +kernel)
      (by decide) (by decide) he
    exact absurd h.2 (by decide +kernel)
  · have h := h _ _ _ _ _ _ _ _ _ _ _ ofConfig_summing hs hf rfl rfl he hd rfl rfl [.decide (trustedSample 0 1000)]
    exact absurd h (by decide +kernel)

end Pid

end ClockDiscipline
