/-
  ClockDiscipline.Proofs.Arrivals — what a procedure that retries takes from a stream of edges.

  Each wait for an edge brings one arrival. A procedure that wants a number of samples goes
  through the arrivals in their order: it takes the good samples, tries again after the
  transient arrivals in between, as often as its patience for one sample allows, and fails
  at the first fatal one. So it stops right behind the last sample that it wants, or right
  behind the fatal arrival. Nothing here knows who waits: these are facts about lists.

  Proved:
  (1) Each arrival is a sample, transient or fatal, and only one of them (`kind_of_arrival`).
  (2) What was taken are the samples among the arrivals, as many as wanted and none of them
      later than the last arrival (`values_of_taking`, `last_of_taking`); a failure comes at
      the first fatal arrival, before there were enough (`failure_of_taking`).
  (3) Enough samples before the first fatal arrival are taken, given patience
      (`exists_taking`), and too few are not (`taking_of_few`). More patience changes nothing
      (`taking_mono`).
  (4) Taking rows one after the other is taking all their samples at once (`taking_flatten`,
      `exists_rows`).
-/

import ClockDiscipline.Oscillator.Dummy

namespace ClockDiscipline

/-! ## (1) Arrivals -/

/-- What one wait for an edge brings. -/
inductive Arrival where
  | sample (ns : Int32)
  /-- A signal cut the wait short. -/
  | cut
  /-- No edge came in time. -/
  | silence
  | waitFails (e : IoError)
  /-- There was an edge whose sample could not be read. -/
  | readFails (e : IoError)
  deriving DecidableEq, Repr

namespace Arrival

def sample? : Arrival → Option Int32
  | .sample ns => some ns
  | _ => none

/-- Whether it only means to wait again. -/
def transient : Arrival → Bool
  | .cut => true
  | .readFails e => e.isTransient
  | _ => false

/-- The failure that a fatal arrival is reported as. -/
def failure? : Arrival → Option IoError
  | .silence => some Dummy.noEdge
  | .waitFails e => some e
  | .readFails e => if e.isTransient then none else some e
  | _ => none

def fatal (a : Arrival) : Bool := a.failure?.isSome

/-- What one try for a sample answers: a sample, nothing yet, or a failure. -/
def outcome : Arrival → Except IoError (Option Int32)
  | .sample ns => .ok (some ns)
  | .cut => .ok none
  | .silence => .error Dummy.noEdge
  | .waitFails e => .error e
  | .readFails e => if e.isTransient then .ok none else .error e

/-- The samples among some arrivals, in their order. -/
def samples (as : List Arrival) : List Int32 := as.filterMap sample?

theorem kind_of_arrival (a : Arrival) :
    (∃ ns, a = .sample ns ∧ a.transient = false ∧ a.failure? = none) ∨
      (a.sample? = none ∧ a.transient = true ∧ a.failure? = none) ∨
      ∃ e, a.sample? = none ∧ a.transient = false ∧ a.failure? = some e := by
  cases a with
  | sample ns => exact Or.inl ⟨ns, rfl, rfl, rfl⟩
  | cut => exact Or.inr (Or.inl ⟨rfl, rfl, rfl⟩)
  | silence => exact Or.inr (Or.inr ⟨_, rfl, rfl, rfl⟩)
  | waitFails e => exact Or.inr (Or.inr ⟨e, rfl, rfl, rfl⟩)
  | readFails e =>
    by_cases h : e.isTransient = true
    · exact Or.inr (Or.inl ⟨rfl, h, by simp [failure?, h]⟩)
    · exact Or.inr (Or.inr ⟨e, rfl, by simpa [transient] using h, by simp [failure?, h]⟩)

theorem outcome_eq_none_iff {a : Arrival} : a.outcome = .ok none ↔ a.transient = true := by
  cases a with
  | readFails e => by_cases h : e.isTransient = true <;> simp [outcome, transient, h]
  | _ => simp [outcome, transient]

theorem outcome_eq_some_iff {a : Arrival} {ns : Int32} : a.outcome = .ok (some ns) ↔ a = .sample ns := by
  cases a with
  | readFails e => by_cases h : e.isTransient = true <;> simp [outcome, h]
  | _ => simp [outcome]

theorem outcome_eq_error_iff {a : Arrival} {e : IoError} : a.outcome = .error e ↔ a.failure? = some e := by
  cases a with
  | readFails x => by_cases h : x.isTransient = true <;> simp [outcome, failure?, h]
  | _ => simp [outcome, failure?]

theorem samples_append (as bs : List Arrival) : samples (as ++ bs) = samples as ++ samples bs :=
  List.filterMap_append

section

variable {as again : List Arrival} {a : Arrival} {e : IoError}

theorem fatal_of_failure (h : a.failure? = some e) : a.fatal = true := by
  rw [fatal, h]
  rfl

theorem sample?_of_transient (h : a.transient = true) : a.sample? = none := by
  rcases kind_of_arrival a with ⟨ns, -, ht, -⟩ | ⟨hs, -, -⟩ | ⟨e, -, ht, -⟩
  · rw [h] at ht; cases ht
  · exact hs
  · rw [h] at ht; cases ht

theorem not_fatal_of_transient (h : a.transient = true) : a.fatal = false := by
  rcases kind_of_arrival a with ⟨ns, -, ht, -⟩ | ⟨-, -, hf⟩ | ⟨e, -, ht, -⟩
  · rw [h] at ht; cases ht
  · rw [fatal, hf]
    rfl
  · rw [h] at ht; cases ht

theorem samples_of_transient (h : ∀ a ∈ again, a.transient = true) : samples again = [] :=
  List.filterMap_eq_nil_iff.mpr fun a ha => sample?_of_transient (h a ha)

/-- Without a fatal one among them, arrivals are samples and transient. -/
theorem length_eq_of_not_fatal (h : ∀ a ∈ as, a.fatal = false) :
    as.length = (samples as).length + as.countP transient := by
  induction as with
  | nil => rfl
  | cons a as ih =>
    have ih := ih fun b hb => h b (List.mem_cons_of_mem a hb)
    have ha := h a List.mem_cons_self
    rcases kind_of_arrival a with ⟨ns, rfl, ht, -⟩ | ⟨hs, ht, -⟩ | ⟨e, -, -, hf⟩
    · rw [List.countP_cons_of_neg (by simp [ht])]
      simp only [samples, List.filterMap_cons, sample?, List.length_cons] at ih ⊢
      omega
    · rw [List.countP_cons_of_pos ht]
      simp only [samples, List.filterMap_cons, hs, List.length_cons] at ih ⊢
      omega
    · rw [fatal_of_failure hf] at ha
      cases ha

end

end Arrival

/-! ## (2) What is taken -/

open Arrival

/-- A number of samples is wanted: the arrivals that are used up for it, and what comes of them. -/
inductive Taking (patience : Nat) : Nat → List Arrival → Except IoError (List Int32) → Prop where
  | enough : Taking patience 0 [] (.ok [])
  | sample {n : Nat} {again rest : List Arrival} {r : Except IoError (List Int32)} (ns : Int32)
      (ha : ∀ a ∈ again, a.transient = true) (hl : again.length < patience) (h : Taking patience n rest r) :
      Taking patience (n + 1) (again ++ .sample ns :: rest) (r.map (ns :: ·))
  | failure {n : Nat} {again : List Arrival} {x : Arrival} {e : IoError} (ha : ∀ a ∈ again, a.transient = true)
      (hl : again.length < patience) (hx : x.failure? = some e) : Taking patience (n + 1) (again ++ [x]) (.error e)

section

variable {p q m n : Nat} {as again front rest : List Arrival} {values : List Int32} {e : IoError} {x : Arrival}
  {r : Except IoError (List Int32)}

theorem samples_again_sample (ns : Int32) (ha : ∀ a ∈ again, a.transient = true) :
    samples (again ++ .sample ns :: rest) = ns :: samples rest := by
  rw [samples_append, samples_of_transient ha, List.nil_append]
  rfl

theorem not_fatal_again_sample {ns : Int32} (ha : ∀ a ∈ again, a.transient = true)
    (h : ∀ a ∈ rest, a.fatal = false) : ∀ a ∈ again ++ .sample ns :: rest, a.fatal = false := by
  intro a hm
  rcases List.mem_append.mp hm with hm | hm
  · exact not_fatal_of_transient (ha a hm)
  rcases List.mem_cons.mp hm with rfl | hm
  · rfl
  · exact h a hm

theorem map_eq_ok {α β : Type} {f : α → β} {r : Except IoError α} {b : β} (h : r.map f = .ok b) :
    ∃ a, r = .ok a ∧ f a = b := by
  cases r with
  | error e => cases h
  | ok a =>
    cases h
    exact ⟨a, rfl, rfl⟩

theorem map_eq_error {α β : Type} {f : α → β} {r : Except IoError α} {e : IoError} (h : r.map f = .error e) :
    r = .error e := by
  cases r with
  | error x =>
    cases h
    rfl
  | ok a => cases h

theorem values_of_taking (h : Taking p n as (.ok values)) :
    values = samples as ∧ values.length = n ∧ ∀ a ∈ as, a.fatal = false := by
  generalize hr : Except.ok values = r at h
  induction h generalizing values with
  | enough =>
    cases hr
    exact ⟨rfl, rfl, nofun⟩
  | sample ns ha hl h ih =>
    obtain ⟨more, rfl, rfl⟩ := map_eq_ok hr.symm
    obtain ⟨hv, hn, hf⟩ := ih rfl
    refine ⟨?_, by rw [List.length_cons, hn], not_fatal_again_sample ha hf⟩
    rw [samples_again_sample ns ha, hv]
  | failure ha hl hx => cases hr

/-- Before an arrival that is used up there are fewer samples than wanted. -/
theorem samples_take_of_taking (h : Taking p n as r) {k : Nat} (hk : k < as.length) :
    (samples (as.take k)).length < n := by
  induction h generalizing k with
  | enough => cases hk
  | @sample n again rest r ns ha hl h ih =>
    by_cases hl : k ≤ again.length
    · rw [List.take_append_of_le_length hl, samples_of_transient fun a hm => ha a (List.mem_of_mem_take hm)]
      simp
    · obtain ⟨d, rfl⟩ : ∃ d, k = again.length + 1 + d := ⟨k - again.length - 1, by omega⟩
      have hd : d < rest.length := by
        simp only [List.length_append, List.length_cons] at hk
        omega
      rw [List.take_append, List.take_of_length_le (by omega),
        show again.length + 1 + d - again.length = d + 1 by omega, List.take_succ_cons, samples_again_sample ns ha,
        List.length_cons]
      have := ih hd
      omega
  | @failure n again x e ha hl hx =>
    have hk : k ≤ again.length := by
      simp only [List.length_append, List.length_singleton] at hk
      omega
    rw [List.take_append_of_le_length hk, samples_of_transient fun a hm => ha a (List.mem_of_mem_take hm)]
    simp

theorem last_of_taking (h : Taking p n as (.ok values)) : as = [] ∨ ∃ ns, as.getLast? = some (.sample ns) := by
  generalize hr : Except.ok values = r at h
  induction h generalizing values with
  | enough => exact Or.inl rfl
  | sample ns ha hl h ih =>
    obtain ⟨more, rfl, -⟩ := map_eq_ok hr.symm
    rcases ih rfl with rfl | ⟨last, hlast⟩
    · exact Or.inr ⟨ns, by simp⟩
    · exact Or.inr ⟨last, by rw [List.getLast?_append, List.getLast?_cons, hlast]; rfl⟩
  | failure ha hl hx => cases hr

theorem failure_of_taking (h : Taking p n as (.error e)) :
    ∃ front x, as = front ++ [x] ∧ (∀ a ∈ front, a.fatal = false) ∧ x.failure? = some e ∧ (samples front).length < n := by
  generalize hr : Except.error e = r at h
  induction h with
  | enough => cases hr
  | @sample n again rest r ns ha hl h ih =>
    obtain ⟨front, x, rfl, hf, hx, hn⟩ := ih (map_eq_error hr.symm).symm
    refine ⟨again ++ .sample ns :: front, x, by simp, not_fatal_again_sample ha hf, hx, ?_⟩
    rw [samples_again_sample ns ha, List.length_cons]
    omega
  | @failure n again x e' ha hl hx =>
    cases hr
    refine ⟨again, x, rfl, fun a hm => not_fatal_of_transient (ha a hm), hx, ?_⟩
    rw [samples_of_transient ha]
    simp

/-! ## (3) What can be taken -/

theorem taking_mono (h : Taking p n as r) (hpq : p ≤ q) : Taking q n as r := by
  induction h with
  | enough => exact .enough
  | sample ns ha hl h ih => exact .sample ns ha (by omega) ih
  | failure ha hl hx => exact .failure ha (by omega) hx

theorem transient_snoc (ha : ∀ a ∈ again, a.transient = true) (hx : x.transient = true) :
    ∀ a ∈ again ++ [x], a.transient = true := by
  intro a hm
  rcases List.mem_append.mp hm with hm | hm
  · exact ha a hm
  · rw [List.mem_singleton.mp hm]
    exact hx

/-- Enough samples without a fatal arrival among them; the first of them may already have been tried for. -/
theorem exists_taking_again (hf : ∀ a ∈ as, a.fatal = false) (hn : n + 1 ≤ (samples as).length)
    (ha : ∀ a ∈ again, a.transient = true) (hl : again.length + as.length < p) :
    ∃ front rest values, as = front ++ rest ∧ Taking p (n + 1) (again ++ front) (.ok values) := by
  induction as generalizing again n with
  | nil => simp [samples] at hn
  | cons a as ih =>
    have hf' : ∀ b ∈ as, b.fatal = false := fun b hb => hf b (List.mem_cons_of_mem a hb)
    rw [List.length_cons] at hl
    rcases kind_of_arrival a with ⟨ns, rfl, -, -⟩ | ⟨hs, ht, -⟩ | ⟨e, -, -, hx⟩
    · cases n with
      | zero => exact ⟨[.sample ns], as, [ns], rfl, .sample ns ha (by omega) .enough⟩
      | succ n =>
        have hn : n + 1 ≤ (samples as).length := by
          simp only [samples, List.filterMap_cons, sample?, List.length_cons] at hn ⊢
          omega
        obtain ⟨front, rest, values, rfl, h⟩ := ih hf' hn (List.forall_mem_nil _) (by simp; omega)
        exact ⟨.sample ns :: front, rest, ns :: values, rfl, .sample ns ha (by omega) h⟩
    · have hn : n + 1 ≤ (samples as).length := by
        simpa only [samples, List.filterMap_cons, hs] using hn
      obtain ⟨front, rest, values, rfl, h⟩ := ih hf' hn (transient_snoc ha ht) (by simp; omega)
      refine ⟨a :: front, rest, values, rfl, ?_⟩
      rwa [List.append_assoc, List.singleton_append] at h
    · have ha := hf a List.mem_cons_self
      rw [fatal_of_failure hx] at ha
      cases ha

theorem exists_taking (hf : ∀ a ∈ as, a.fatal = false) (hn : n ≤ (samples as).length) (hl : as.length < p) :
    ∃ front rest values, as = front ++ rest ∧ Taking p n front (.ok values) := by
  cases n with
  | zero => exact ⟨[], as, [], rfl, .enough⟩
  | succ n => exact exists_taking_again hf hn (List.forall_mem_nil _) (by simpa using hl)

theorem taking_of_few_again (hf : ∀ a ∈ as, a.fatal = false) (hx : x.failure? = some e)
    (hn : (samples as).length < n) (ha : ∀ a ∈ again, a.transient = true) (hl : again.length + as.length < p) :
    Taking p n (again ++ (as ++ [x])) (.error e) := by
  induction as generalizing again n with
  | nil =>
    obtain ⟨n, rfl⟩ : ∃ k, n = k + 1 := ⟨n - 1, by omega⟩
    exact .failure ha (by simpa using hl) hx
  | cons a as ih =>
    have hf' : ∀ b ∈ as, b.fatal = false := fun b hb => hf b (List.mem_cons_of_mem a hb)
    rw [List.length_cons] at hl
    rcases kind_of_arrival a with ⟨ns, rfl, -, -⟩ | ⟨hs, ht, -⟩ | ⟨e', -, -, hx'⟩
    · obtain ⟨n, rfl⟩ : ∃ k, n = k + 1 := ⟨n - 1, by omega⟩
      have hn : (samples as).length < n := by
        simp only [samples, List.filterMap_cons, sample?, List.length_cons] at hn ⊢
        omega
      exact .sample ns ha (by omega) (ih hf' hn (List.forall_mem_nil _) (by simp; omega))
    · have hn : (samples as).length < n := by
        simpa only [samples, List.filterMap_cons, hs] using hn
      have h := ih hf' hn (transient_snoc ha ht) (by simp; omega)
      rwa [List.append_assoc, List.singleton_append] at h
    · have ha := hf a List.mem_cons_self
      rw [fatal_of_failure hx'] at ha
      cases ha

theorem taking_of_few (hf : ∀ a ∈ as, a.fatal = false) (hx : x.failure? = some e) (hn : (samples as).length < n)
    (hl : as.length < p) : Taking p n (as ++ [x]) (.error e) :=
  taking_of_few_again hf hx hn (List.forall_mem_nil _) (by simpa using hl)

/-! ## (4) Rows -/

/-- Samples that are wanted after others. -/
theorem taking_append (h : Taking p m front (.ok values)) (h' : Taking p n rest r) :
    Taking p (m + n) (front ++ rest) (r.map (values ++ ·)) := by
  generalize hr : Except.ok values = r₁ at h
  induction h generalizing values with
  | enough =>
    cases hr
    rw [Nat.zero_add]
    cases r <;> exact h'
  | @sample k again front r₁ ns ha hl h ih =>
    obtain ⟨more, rfl, rfl⟩ := map_eq_ok hr.symm
    have hs := Taking.sample ns ha hl (ih rfl)
    rw [List.append_assoc, List.cons_append, show k + 1 + n = k + n + 1 by omega]
    cases r <;> exact hs
  | failure ha hl hx => cases hr

theorem taking_add_of_error (h : Taking p m as (.error e)) (n : Nat) : Taking p (m + n) as (.error e) := by
  generalize hr : Except.error e = r at h
  induction h with
  | enough => cases hr
  | @sample k again rest r ns ha hl h ih =>
    have hs := Taking.sample ns ha hl (ih (map_eq_error hr.symm).symm)
    rw [map_eq_error hr.symm] at hs ⊢
    rwa [show k + 1 + n = k + n + 1 by omega]
  | @failure k again x e' ha hl hx =>
    cases hr
    rw [show k + 1 + n = k + n + 1 by omega]
    exact .failure ha hl hx

/-- Where the first of the wanted samples end, or the failure before there are as many. -/
theorem taking_split (h : Taking p (m + n) as r) :
    (∃ front rest values r', as = front ++ rest ∧ Taking p m front (.ok values) ∧ Taking p n rest r' ∧
      r = r'.map (values ++ ·)) ∨ ∃ e, Taking p m as (.error e) ∧ r = .error e := by
  induction m generalizing as r with
  | zero =>
    rw [Nat.zero_add] at h
    refine Or.inl ⟨[], as, [], r, rfl, .enough, h, ?_⟩
    cases r <;> rfl
  | succ m ih =>
    rw [show m + 1 + n = m + n + 1 by omega] at h
    cases h with
    | @sample _ again rest r ns ha hl h =>
      rcases ih h with ⟨front, back, values, r', rfl, hf, hb, rfl⟩ | ⟨e, he, rfl⟩
      · refine Or.inl ⟨again ++ .sample ns :: front, back, ns :: values, r', by simp, .sample ns ha hl hf, hb, ?_⟩
        cases r' <;> rfl
      · exact Or.inr ⟨e, .sample ns ha hl he, rfl⟩
    | @failure _ again x e ha hl hx => exact Or.inr ⟨e, .failure ha hl hx, rfl⟩

end

/-- Rows of `n` samples each are wanted: the arrivals that are used up for each, and what comes of them. -/
inductive TakingRows (patience n : Nat) : Nat → List (List Arrival) → Except IoError (List (List Int32)) → Prop where
  | done : TakingRows patience n 0 [] (.ok [])
  | row {k : Nat} {as : List Arrival} {rows : List (List Arrival)} {values : List Int32}
      {r : Except IoError (List (List Int32))} (h : Taking patience n as (.ok values))
      (h' : TakingRows patience n k rows r) : TakingRows patience n (k + 1) (as :: rows) (r.map (values :: ·))
  | failure {k : Nat} {as : List Arrival} {e : IoError} (h : Taking patience n as (.error e)) :
      TakingRows patience n (k + 1) [as] (.error e)

section

variable {p q n k : Nat} {rows : List (List Arrival)} {as : List Arrival} {values : List (List Int32)}
  {r : Except IoError (List (List Int32))}

theorem takingRows_mono (h : TakingRows p n k rows r) (hpq : p ≤ q) : TakingRows q n k rows r := by
  induction h with
  | done => exact .done
  | row h h' ih => exact .row (taking_mono h hpq) ih
  | failure h => exact .failure (taking_mono h hpq)

theorem taking_flatten (h : TakingRows p n k rows r) : Taking p (n * k) rows.flatten (r.map List.flatten) := by
  induction h with
  | done => exact .enough
  | @row k as rows values r h h' ih =>
    have ha := taking_append h ih
    rw [Nat.mul_succ, Nat.add_comm, List.flatten_cons]
    cases r <;> exact ha
  | @failure k as e h =>
    rw [Nat.mul_succ, Nat.add_comm, List.flatten_singleton]
    exact taking_add_of_error h (n * k)

theorem exists_rows {r : Except IoError (List Int32)} (h : Taking p (n * k) as r) :
    ∃ rows r', rows.flatten = as ∧ TakingRows p n k rows r' ∧ r = r'.map List.flatten := by
  induction k generalizing as r with
  | zero =>
    cases h
    exact ⟨[], .ok [], rfl, .done, rfl⟩
  | succ k ih =>
    rw [Nat.mul_succ, Nat.add_comm] at h
    rcases taking_split h with ⟨front, rest, values, r', rfl, hf, hr, rfl⟩ | ⟨e, he, rfl⟩
    · obtain ⟨rows, r', rfl, hrows, rfl⟩ := ih hr
      refine ⟨front :: rows, _, rfl, .row hf hrows, ?_⟩
      cases r' <;> rfl
    · exact ⟨[as], .error e, List.flatten_singleton, .failure he, rfl⟩

/-- Each row has its samples, in their order. -/
theorem values_of_takingRows (h : TakingRows p n k rows (.ok values)) :
    values = rows.map samples ∧ rows.length = k ∧ ∀ as ∈ rows, (samples as).length = n := by
  generalize hr : Except.ok values = r at h
  induction h generalizing values with
  | done =>
    cases hr
    exact ⟨rfl, rfl, nofun⟩
  | @row k as rows v r h h' ih =>
    obtain ⟨more, rfl, rfl⟩ := map_eq_ok hr.symm
    obtain ⟨hv, hk, hn⟩ := ih rfl
    obtain ⟨rfl, hl, -⟩ := values_of_taking h
    refine ⟨by rw [hv]; rfl, by rw [List.length_cons, hk], fun as hm => ?_⟩
    rcases List.mem_cons.mp hm with rfl | hm
    · exact hl
    · exact hn as hm
  | failure h => cases hr

end

end ClockDiscipline
