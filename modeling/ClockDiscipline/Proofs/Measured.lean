/-
  ClockDiscipline.Proofs.Measured — what a calibration of the built-in oscillator can measure.

  Whatever the source and the world, every number of the results is a sample with its
  sign, so that no two of them are further apart than 64 bits. Any plan can be measured:
  there is a source with which the procedure ends with results.

  Proved: (1) the numbers are samples (`small_of_measures`); (2) results exist for
  every plan (`exists_measures`).
-/

import ClockDiscipline.Oscillator.Dummy
import ClockDiscipline.Proofs.Kept

namespace ClockDiscipline

theorem natAbs_apply_le (p : Polarity) (n : Int32) : (p.apply n).toInt.natAbs ≤ 2147483648 := by
  have h1 := n.le_toInt
  have h2 := n.toInt_lt
  rw [toInt_apply]
  cases p
  · rw [show (Polarity.sign .normal).toInt = 1 from rfl]
    omega
  · rw [show (Polarity.sign .opposite).toInt = -1 from rfl]
    omega

namespace Dummy

/-- Results that the oscillator has for a plan, with some source and in some world. -/
def Measures (plan : Calibration.Plan) (r : Calibration.Results) : Prop :=
  ∃ (W : Type) (_ : Journal (Act W)) (k : Slot W Dummy) (patience : Nat) (pps : EdgeSource (Act W)) (p : Polarity)
    (w v : W), calibrate k.cell patience plan pps p w = .ok (some r) v

/-! ## (1) Samples -/

/-- No number is larger than a sample. -/
def Small (row : List Int64) : Prop := ∀ x ∈ row, x.toInt.natAbs ≤ 2147483648

section

variable {W : Type} (pps : EdgeSource (Act W)) (p : Polarity) (patience : Nat)

theorem small_takeRow (wanted : Nat) (row : List Int64) (h : Small row) :
    Act.Yields (fun a => ∀ taken, a = .ok taken → Small taken) (takeRow pps p patience wanted row) := by
  induction wanted generalizing row with
  | zero =>
    refine Act.yields_pure fun taken ht x hx => ?_
    cases ht
    exact h x (List.mem_reverse.mp hx)
  | succ wanted ih =>
    refine Act.yields_of_next fun a => ?_
    cases a with
    | error e => exact Act.yields_pure nofun
    | ok sample =>
      refine ih _ fun x hx => ?_
      rcases List.mem_cons.mp hx with rfl | hx
      · exact natAbs_apply_le p sample
      · exact h x hx

variable [Journal (Act W)] (k : Slot W Dummy)

theorem small_takeRows (samples : UInt32) (points : List UInt32) (rows : List (List Int64))
    (h : ∀ row ∈ rows, Small row) : Act.Yields (fun a => ∀ r, a = .ok r → ∀ row ∈ r.rows, Small row)
      (takeRows k.cell pps p patience samples points rows) := by
  induction points generalizing rows with
  | nil =>
    refine Act.yields_pure fun r hr row hrow => ?_
    cases hr
    exact h row (List.mem_reverse.mp hrow)
  | cons point points ih =>
    refine Act.yields_of_next fun _ => Act.yields_of_next fun _ => ?_
    refine Act.yields_bind (small_takeRow pps p patience samples.toNat [] nofun) fun a ha => ?_
    cases a with
    | error e => exact Act.yields_pure nofun
    | ok taken =>
      refine ih _ fun row hrow => ?_
      rcases List.mem_cons.mp hrow with rfl | hrow
      · exact ha _ rfl
      · exact h row hrow

end

theorem small_of_measures {plan : Calibration.Plan} {r : Calibration.Results} (h : Measures plan r) :
    ∀ row ∈ r.rows, Small row := by
  obtain ⟨W, _, k, patience, pps, p, w, v, h⟩ := h
  have hy : Act.Yields (fun a => ∀ r, a = some r → ∀ row ∈ r.rows, Small row)
      (calibrate k.cell patience plan pps p) := by
    refine Act.yields_of_next fun _ => Act.yields_of_next fun _ => ?_
    refine Act.yields_bind (small_takeRows pps p patience k plan.samples plan.points [] nofun) fun a ha => ?_
    refine Act.yields_of_next fun _ => ?_
    cases a with
    | error e => exact Act.yields_of_next fun _ => Act.yields_pure nofun
    | ok r =>
      refine Act.yields_pure fun r' hr' => ?_
      cases hr'
      exact ha _ rfl
  exact hy w _ v h r rfl

/-! ## (2) A source without errors -/

section

variable {W : Type}

/-- Every edge is there at once, and is where it should be. -/
def steady : EdgeSource (Act W) where
  name := "steady"
  wait _ := pure (.ok .dataReady)
  read := pure (.ok 0)
  shift _ := pure (.ok ())
  release := pure ()

theorem takeRow_steady (p : Polarity) (wanted : Nat) (row : List Int64) (w : W) :
    ∃ taken, takeRow steady p 1 wanted row w = .ok (.ok taken) w := by
  induction wanted generalizing row with
  | zero => exact ⟨row.reverse, rfl⟩
  | succ wanted ih => exact ih (p.apply 0 :: row)

theorem takeRows_steady [Journal (Act W)] (hn : ∀ e w, (Journal.note e : Act W Unit) w = .ok () w) (k : Slot W Dummy)
    (p : Polarity) (samples : UInt32) (points : List UInt32) (rows : List (List Int64)) (w : W) :
    ∃ r v, takeRows k.cell steady p 1 samples points rows w = .ok (.ok r) v := by
  induction points generalizing rows w with
  | nil => exact ⟨⟨rows.reverse⟩, w, rfl⟩
  | cons point points ih =>
    let u := k.set ((k.get w).setFine point) w
    obtain ⟨taken, ht⟩ := takeRow_steady (W := W) p samples.toNat [] u
    obtain ⟨r, v, hr⟩ := ih (taken :: rows) u
    have hset : k.cell.modify (·.setFine point) w = .ok () u := rfl
    exact ⟨r, v, (Act.bind_of_ok hset _).trans
      ((Act.bind_of_ok (hn _ u) _).trans ((Act.bind_of_ok ht _).trans hr))⟩

end

theorem exists_measures (plan : Calibration.Plan) : ∃ r, Measures plan r := by
  let quiet : Journal (Act Dummy) := ⟨fun _ => pure ()⟩
  let k : Slot Dummy Dummy := ⟨id, fun s _ => s, fun _ _ => rfl, fun _ => rfl, fun _ _ _ => rfl⟩
  obtain ⟨r, v, h⟩ := takeRows_steady (fun _ _ => rfl) k .normal plan.samples plan.points [] default
  have hc : calibrate k.cell 1 plan steady .normal default = .ok (some r) (v.setFine (default : Dummy).fine) := by
    have hget : k.cell.get default = .ok default default := rfl
    have hnote (e : Entry) : (Journal.note e : Act Dummy Unit) default = .ok () default := rfl
    exact (Act.bind_of_ok hget _).trans ((Act.bind_of_ok (hnote _) _).trans ((Act.bind_of_ok h _).trans rfl))
  exact ⟨r, Dummy, quiet, k, 1, steady, .normal, default, _, hc⟩

end Dummy

end ClockDiscipline
