/-
  ClockDiscipline.Proofs.SettingLists — lists of whole numbers among the settings.

  Commas stand between the items of a list. Blanks around an item do not count, and an
  item that is nothing but blanks is none. A whole number is written in decimal digits,
  one at least, after a `+` or no sign, and after a `-` where the numbers of its type can be
  negative; and it has to be a number of that type. An item that is written otherwise
  spoils the list: the value is an error as a whole, whatever the other items are.

  Proved: (1) an integer is read exactly from the texts that denote it
  (`integer?_eq_some_iff`), and a word likewise (`read?_uint32_iff`, `read?_int64_iff`);
  (2) a value has one row of items (`itemized_iff`); (3) a list is what its items denote,
  and one item alone is read as it would be without a list (`yields_of_reads`), for both
  types of words (`a_list_has_the_numbers_of_its_items`).
-/

import ClockDiscipline.Proofs.OptionRow
import ClockDiscipline.Proofs.SettingLines
import Mathlib.Data.List.Induction
import Mathlib.Data.Nat.Digits.Defs

namespace ClockDiscipline

/-! ## (1) Numbers -/

namespace Decimal

/-- Decimal digits and the number that they stand for, the last one counting ones. -/
structure Digits (cs : List Char) (n : Nat) : Prop where
  some_digit : cs ≠ []
  all_digits : ∀ c ∈ cs, isDigit c = true
  number : n = Nat.ofDigits 10 (cs.map digitValue).reverse

/-- Texts of an integer. Without `signed` there are none of negative ones, and none that say `-0`. -/
inductive Denotes (signed : Bool) : List Char → Int → Prop where
  | plain {cs : List Char} {n : Nat} (h : Digits cs n) : Denotes signed cs n
  | plus {cs : List Char} {n : Nat} (h : Digits cs n) : Denotes signed ('+' :: cs) n
  | minus {cs : List Char} {n : Nat} (hs : signed = true) (h : Digits cs n) : Denotes signed ('-' :: cs) (-n)

theorem value_eq_ofDigits (cs : List Char) : value cs = Nat.ofDigits 10 (cs.map digitValue).reverse := by
  induction cs using List.reverseRecOn with
  | nil => rfl
  | append_singleton cs c ih =>
    rw [value_concat, ih, List.map_append, List.map_singleton, List.reverse_concat, Nat.ofDigits_cons, Nat.add_comm]

theorem natural?_eq_some_iff {cs : List Char} {n : Nat} : natural? cs = some n ↔ Digits cs n := by
  unfold natural?
  rw [value_eq_ofDigits]
  constructor
  · intro h
    split at h
    · rename_i hc
      simp only [Bool.and_eq_true, Bool.not_eq_true', List.isEmpty_eq_false_iff, List.all_eq_true] at hc
      exact ⟨hc.1, hc.2, (Option.some.inj h).symm⟩
    · cases h
  · intro h
    rw [if_pos, h.number]
    simpa using ⟨h.some_digit, h.all_digits⟩

/-- No sign is a digit. -/
theorem head_of_digits {c : Char} {cs : List Char} {n : Nat} (h : Digits (c :: cs) n) : c ≠ '+' ∧ c ≠ '-' := by
  have hc := h.all_digits c List.mem_cons_self
  constructor
  · intro he
    rw [he] at hc
    exact absurd hc (by decide)
  · intro he
    rw [he] at hc
    exact absurd hc (by decide)

theorem integer?_eq_some_iff {signed : Bool} {cs : List Char} {i : Int} :
    integer? signed cs = some i ↔ Denotes signed cs i := by
  constructor
  · intro h
    unfold integer? at h
    split at h
    · obtain ⟨n, hn, rfl⟩ := Option.map_eq_some_iff.mp h
      exact .plus (natural?_eq_some_iff.mp hn)
    · split at h
      · rename_i hs
        simp only [Option.map_eq_some_iff, Option.bind_eq_bind, Option.bind_eq_some_iff, Option.pure_def,
          Option.some.injEq] at h
        obtain ⟨i, ⟨n, hn, rfl⟩, rfl⟩ := h
        exact .minus hs (natural?_eq_some_iff.mp hn)
      · cases h
    · obtain ⟨n, hn, rfl⟩ := Option.map_eq_some_iff.mp h
      exact .plain (natural?_eq_some_iff.mp hn)
  · intro h
    cases h with
    | plus h => simp [integer?, natural?_eq_some_iff.mpr h]
    | minus hs h => simp [integer?, hs, natural?_eq_some_iff.mpr h]
    | plain h =>
      unfold integer?
      split
      · exact absurd rfl (head_of_digits h).1
      · exact absurd rfl (head_of_digits h).2
      · rw [natural?_eq_some_iff.mpr h]
        rfl

end Decimal

namespace Config

/-- What the items of a list say, as a list of one type reads them. -/
def Reads (α : Type) [Setting α] (denotes : List Char → α → Prop) : Prop :=
  ∀ item v, (Setting.read? (String.ofList item) : Option α) = some v ↔ denotes item v

theorem read?_uint32_iff : Reads UInt32 fun item v => Decimal.Denotes false item (v.toNat : Int) := by
  intro item v
  change (Decimal.integer? false (String.ofList item).toList).bind uint32? = some v ↔
    Decimal.Denotes false item v.toNat
  rw [String.toList_ofList, Option.bind_eq_some_iff, ← Decimal.integer?_eq_some_iff]
  constructor
  · intro h
    obtain ⟨i, hi, hv⟩ := h
    rw [toNat_of_uint32? hv]
    exact hi
  · intro h
    exact ⟨v.toNat, h, uint32?_toNat v⟩

theorem read?_int64_iff : Reads Int64 fun item v => Decimal.Denotes true item v.toInt := by
  intro item v
  change (Decimal.integer? true (String.ofList item).toList).bind int64? = some v ↔ Decimal.Denotes true item v.toInt
  rw [String.toList_ofList, Option.bind_eq_some_iff, ← Decimal.integer?_eq_some_iff]
  constructor
  · intro h
    obtain ⟨i, hi, hv⟩ := h
    rw [toInt_of_int64? hv]
    exact hi
  · intro h
    exact ⟨v.toInt, h, int64?_toInt v⟩

/-! ## (2) Items -/

/-- The items of a value: what stands between its commas, without the blanks around it, where there is anything
    left. -/
def Itemized (raw : List Char) (its : List (List Char)) : Prop :=
  ∃ parts bare, parts ≠ [] ∧ (∀ p ∈ parts, ',' ∉ p) ∧ [','].intercalate parts = raw ∧
    List.Forall₂ Text.Trimmed parts bare ∧ its = bare.filter (· ≠ [])

theorem pieces_eq_splitOn (sep : Char) (cs : List Char) : Text.pieces sep cs = cs.splitOn sep := by
  induction cs with
  | nil => rfl
  | cons c cs ih =>
    rw [Text.pieces, List.splitOn_cons_eq_if_modifyHead, ih]
    by_cases hc : c = sep
    · simp [hc]
    · rw [if_neg hc, if_neg (by simpa using hc)]
      cases hp : cs.splitOn sep with
      | nil => exact absurd hp (List.splitOn_ne_nil sep cs)
      | cons p ps => rfl

theorem not_mem_of_mem_pieces {sep : Char} {cs p : List Char} (h : p ∈ Text.pieces sep cs) : sep ∉ p := by
  induction cs generalizing p with
  | nil =>
    rw [Text.pieces, List.mem_singleton] at h
    simp [h]
  | cons c cs ih =>
    rw [Text.pieces] at h
    split at h
    · rcases List.mem_cons.mp h with h | h
      · simp [h]
      · exact ih h
    · rename_i hc
      cases hp : Text.pieces sep cs with
      | nil => exact absurd hp (Text.pieces_ne_nil sep cs)
      | cons q qs =>
        simp only [hp] at h ih
        rcases List.mem_cons.mp h with h | h
        · rw [h, List.mem_cons, not_or]
          exact ⟨fun e => hc e.symm, ih List.mem_cons_self⟩
        · exact ih (List.mem_cons_of_mem q h)

theorem forall₂_trimmed_iff {parts bare : List (List Char)} :
    List.Forall₂ Text.Trimmed parts bare ↔ parts.map Text.trim = bare := by
  have ht : Text.Trimmed = fun cs t => Text.trim cs = t :=
    funext fun _ => funext fun _ => propext Text.trimmed_iff
  rw [ht, ← List.forall₂_map_left_iff, List.forall₂_eq_eq_eq]

/-- There is one way only to take a value apart. -/
theorem itemized_iff {raw : String} {its : List (List Char)} : Itemized raw.toList its ↔ items raw = its := by
  have hitems (parts : List (List Char)) : ((parts.map Text.trim).filter fun item => !item.isEmpty) =
      (parts.map Text.trim).filter (· ≠ []) := by
    refine List.filter_congr fun item _ => ?_
    cases item <;> rfl
  constructor
  · intro h
    obtain ⟨parts, bare, hne, hsep, hraw, hbare, rfl⟩ := h
    obtain rfl := forall₂_trimmed_iff.mp hbare
    rw [items, pieces_eq_splitOn, ← hraw, List.splitOn_intercalate ',' hsep hne, hitems]
  · intro h
    refine ⟨Text.pieces ',' raw.toList, _, Text.pieces_ne_nil _ _, fun p => not_mem_of_mem_pieces, ?_,
      forall₂_trimmed_iff.mpr rfl, ?_⟩
    · rw [pieces_eq_splitOn, List.intercalate_splitOn]
    · rw [← h, items, hitems]

/-- A text without commas or blanks at its ends is its own only item. -/
theorem items_of_bare {raw : String} (hc : ',' ∉ raw.toList) (ht : Text.Trimmed raw.toList raw.toList)
    (hne : raw ≠ "") : items raw = [raw.toList] := by
  rw [items, Text.pieces_of_not_mem hc, List.map_singleton, Text.trimmed_iff.mp ht]
  cases hcs : raw.toList with
  | nil => exact absurd (String.toList_eq_nil_iff.mp hcs) hne
  | cons c cs => rfl

/-! ## (3) Lists -/

/-- How a value is read as a list, and as a single one. -/
structure Yields (α : Type) [Setting α] (denotes : List Char → α → Prop) (c : Config) (key raw : String)
    (its : List (List Char)) : Prop where
  readable_iff : (∃ xs, c.list? α key = .ok (some xs)) ↔ ∀ item ∈ its, ∃ v, denotes item v
  values : ∀ xs, c.list? α key = .ok (some xs) → List.Forall₂ denotes its xs
  /-- There is no other answer but an error that names key and value. -/
  otherwise : ∀ item ∈ its, (∀ v, ¬denotes item v) → c.list? α key = .error (.invalidValue key raw)
  alone : ',' ∉ raw.toList → Text.Trimmed raw.toList raw.toList → raw ≠ "" → ∀ fallback : α,
    (∀ v, c.list? α key = .ok (some [v]) ↔ c.valueD key fallback = .ok v) ∧
      ((∀ v, c.valueD key fallback ≠ .ok v) →
        c.list? α key = .error (.invalidValue key raw) ∧ c.valueD key fallback = .error (.invalidValue key raw))

section

variable {c : Config} {key raw : String} (h : c.get? key = some raw)

include h

theorem list?_eq_ok_or_error (α : Type) [Setting α] :
    (∃ xs, c.list? α key = .ok (some xs)) ∨ c.list? α key = .error (.invalidValue key raw) := by
  cases hm : (items raw).mapM fun item => (Setting.read? (String.ofList item) : Option α) <;> simp [list?, h, hm]

variable {α : Type} [Setting α] {denotes : List Char → α → Prop} (hα : Reads α denotes)

include hα

theorem list?_eq_ok_iff {xs : List α} : c.list? α key = .ok (some xs) ↔ List.Forall₂ denotes (items raw) xs := by
  have hread : (fun item v => (Setting.read? (String.ofList item) : Option α) = some v) = denotes :=
    funext fun item => funext fun v => propext (hα item v)
  rw [← hread, ← mapM_eq_some_iff]
  cases hm : (items raw).mapM fun item => (Setting.read? (String.ofList item) : Option α) <;> simp [list?, h, hm]

/-- One item that denotes nothing spoils the list, and nothing else does. -/
theorem list?_eq_error_iff : c.list? α key = .error (.invalidValue key raw) ↔
    ∃ item ∈ items raw, ∀ v, ¬denotes item v := by
  have hnone (item : List Char) : (Setting.read? (String.ofList item) : Option α) = none ↔ ∀ v, ¬denotes item v := by
    rw [Option.eq_none_iff_forall_ne_some]
    exact forall_congr' fun v => not_congr (hα item v)
  simp only [← hnone, ← mapM_eq_none_iff]
  cases hm : (items raw).mapM fun item => (Setting.read? (String.ofList item) : Option α) <;> simp [list?, h, hm]

theorem valueD_eq_ok_iff {fallback v : α} : c.valueD key fallback = .ok v ↔ denotes raw.toList v := by
  rw [← hα, String.ofList_toList]
  cases hv : (Setting.read? raw : Option α) <;> simp [valueD, h, hv]

theorem valueD_eq_error {fallback : α} (hbad : ∀ v, ¬denotes raw.toList v) :
    c.valueD key fallback = .error (.invalidValue key raw) := by
  cases hv : (Setting.read? raw : Option α) with
  | none => simp [valueD, h, hv]
  | some v =>
    refine absurd ((hα _ v).mp ?_) (hbad v)
    rw [String.ofList_toList, hv]

theorem yields_of_reads : Yields α denotes c key raw (items raw) where
  readable_iff := by
    have herror := list?_eq_error_iff h hα
    rcases list?_eq_ok_or_error h α with ⟨xs, hok⟩ | hno
    · refine iff_of_true ⟨xs, hok⟩ fun item hitem => ?_
      by_contra hbad
      cases hok.symm.trans (herror.mpr ⟨item, hitem, not_exists.mp hbad⟩)
    · refine iff_of_false ?_ ?_
      · intro ⟨xs, hok⟩
        cases hok.symm.trans hno
      · intro hall
        obtain ⟨item, hitem, hbad⟩ := herror.mp hno
        obtain ⟨v, hv⟩ := hall item hitem
        exact hbad v hv
  values xs hxs := (list?_eq_ok_iff h hα).mp hxs
  otherwise item hitem hbad := (list?_eq_error_iff h hα).mpr ⟨item, hitem, hbad⟩
  alone := by
    intro hc ht hne fallback
    have hits := items_of_bare hc ht hne
    constructor
    · intro v
      rw [list?_eq_ok_iff h hα, valueD_eq_ok_iff h hα, hits]
      simp
    · intro hbad
      simp only [ne_eq, valueD_eq_ok_iff h hα] at hbad
      refine ⟨(list?_eq_error_iff h hα).mpr ⟨raw.toList, ?_, hbad⟩, valueD_eq_error h hα hbad⟩
      rw [hits]
      exact List.mem_singleton_self _

end

/-- A value is read as a list of words exactly if each of its items denotes one, and the list has these in the order
    of the items. Otherwise the error names the key and the whole value. A value that is an item and nothing else is
    read as a list of that number exactly if it is read as the number alone, with the same error if it is none. -/
theorem a_list_has_the_numbers_of_its_items {c : Config} {key raw : String} (h : c.get? key = some raw) :
    ∃ its, (∀ l, Itemized raw.toList l ↔ its = l) ∧
      Yields UInt32 (fun item v => Decimal.Denotes false item v.toNat) c key raw its ∧
      Yields Int64 (fun item v => Decimal.Denotes true item v.toInt) c key raw its :=
  ⟨items raw, fun _ => itemized_iff, yields_of_reads h read?_uint32_iff, yields_of_reads h read?_int64_iff⟩

/-- An item of no characters does not count, and `-0` is a number only where there are negative ones. -/
theorem minus_zero_spoils_a_list_without_signs :
    let c := parse "points = 100, +200,,-0"
    let its := ["100".toList, "+200".toList, "-0".toList]
    c.get? "points" = some "100, +200,,-0" ∧ Itemized "100, +200,,-0".toList its ∧
      c.list? UInt32 "points" = .error (.invalidValue "points" "100, +200,,-0") ∧
      c.list? Int64 "points" = .ok (some [100, 200, 0]) ∧
      List.Forall₂ (fun item (v : Int64) => Decimal.Denotes true item v.toInt) its [100, 200, 0] := by
  intro c its
  have h : c.get? "points" = some "100, +200,,-0" := by decide +kernel
  obtain ⟨l, hl, hwords, hsigned⟩ := a_list_has_the_numbers_of_its_items h
  have hits : Itemized "100, +200,,-0".toList its := itemized_iff.mpr (by decide +kernel)
  obtain rfl := (hl its).mp hits
  have hlist : c.list? Int64 "points" = .ok (some [100, 200, 0]) := by rfl
  refine ⟨h, hits, hwords.otherwise "-0".toList (by decide) fun v hv => ?_, hlist, hsigned.values _ hlist⟩
  have hread := Decimal.integer?_eq_some_iff.mpr hv
  cases hread

end Config

end ClockDiscipline
