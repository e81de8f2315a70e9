/-
  ClockDiscipline.Proofs.JsonText — a JSON value is read back from its text.

  Written values stand in front of a rest that no number can run into: a comma, a closing
  bracket or brace, or nothing. A reader takes exactly the value off the front. Its fuel has
  to last for the depth of what it reads and for the length of each list. Twice the number of
  characters is enough: a value costs one at least, and a member of an object three more.

  Proved: (1) numbers (`readNumber?_integer`) and (2) texts (`readText?_writeText`) are read
  back, characters that are escaped included; (3) so are values (`readValue?_write`), and
  whole texts (`read?_render`).
-/

import ClockDiscipline.Json.Reader

namespace ClockDiscipline

/-! ## (1) Numbers -/

/-- Only zero is written with a zero in front. -/
theorem Decimal.head?_digits {n : Nat} (h : 0 < n) : (digits n).head? ≠ some '0' := by
  induction n using Nat.strongRecOn with
  | ind n ih =>
    by_cases small : n < 10
    · rw [digits, if_pos small]
      have : ∀ d, d < 10 → 0 < d → [digitChar d].head? ≠ some '0' := by decide
      exact this n small h
    · obtain ⟨c, cs, hc⟩ := List.exists_cons_of_ne_nil (digits_ne_nil (n / 10))
      have early := ih (n / 10) (by omega) (by omega)
      rw [hc] at early
      rwa [digits, if_neg small, hc]

theorem Decimal.integer_ne_nil (n : Int) : integer n ≠ [] := by
  unfold integer
  split
  · exact List.cons_ne_nil _ _
  · exact digits_ne_nil _

theorem Decimal.digits_zero : digits 0 = ['0'] := by
  rw [digits, if_pos (by decide)]
  rfl

namespace Json

open Decimal (isDigit digits)
open ClockDiscipline.Text (hexValue?)

/-- What may follow a value. -/
def Ended (rest : List Char) : Prop := ∀ c cs, rest = c :: cs → c = ',' ∨ c = ']' ∨ c = '\x7d'

theorem ended_nil : Ended [] := nofun

theorem ended_cons {c : Char} {rest : List Char} (h : c = ',' ∨ c = ']' ∨ c = '\x7d') : Ended (c :: rest) := by
  rintro _ _ ⟨⟩
  exact h

section

variable {rest : List Char} (hr : Ended rest)

include hr

theorem readDigits?_append (ds : List Char) (hd : ∀ c ∈ ds, isDigit c = true) (hn : ds ≠ []) :
    readDigits? (ds ++ rest) = some (ds, rest) := by
  have ht : rest.takeWhile isDigit = [] ∧ rest.dropWhile isDigit = rest := by
    rcases rest with _ | ⟨c, cs⟩
    · exact ⟨rfl, rfl⟩
    · rcases hr c cs rfl with rfl | rfl | rfl <;> exact ⟨rfl, rfl⟩
  rw [readDigits?, List.takeWhile_append_of_pos hd, List.dropWhile_append_of_pos hd, ht.1, ht.2, List.append_nil]
  obtain ⟨d, ds, rfl⟩ := List.exists_cons_of_ne_nil hn
  rfl

theorem readFraction?_of_ended : readFraction? rest = some (false, rest) := by
  rcases rest with _ | ⟨c, cs⟩
  · rfl
  · rcases hr c cs rfl with rfl | rfl | rfl <;> rfl

theorem readExponent?_of_ended : readExponent? rest = some (false, rest) := by
  rcases rest with _ | ⟨c, cs⟩
  · rfl
  · rcases hr c cs rfl with rfl | rfl | rfl <;> rfl

theorem readSize?_digits (negative : Bool) {n : Nat} (h : negative = true → n ≠ 0) :
    readSize? negative (digits n ++ rest) = some (.int (if negative then -(n : Int) else n), rest) := by
  have hz : ¬((digits n).head? = some '0' ∧ digits n ≠ ['0']) := by
    rintro ⟨h0, h1⟩
    rcases Nat.eq_zero_or_pos n with rfl | hn
    · exact h1 Decimal.digits_zero
    · exact Decimal.head?_digits hn h0
  have hb : (negative && n == 0) = false := by
    cases negative
    · rfl
    · simpa using h rfl
  simp only [readSize?, readDigits?_append hr (digits n) (Decimal.digits_isDigit n) (Decimal.digits_ne_nil n), if_neg hz,
    readFraction?_of_ended hr, readExponent?_of_ended hr, Decimal.value_digits, hb, Option.bind_eq_bind, Option.bind_some,
    Bool.or_false, Option.pure_def, Bool.false_eq_true, if_false]

/-- A number starts with its sign or with a digit. -/
theorem readNumber?_integer (n : Int) : readNumber? (Decimal.integer n ++ rest) = some (.int n, rest) := by
  unfold Decimal.integer
  split
  · rename_i hn
    have h := readSize?_digits hr true (n := n.natAbs) fun _ => by omega
    rw [if_pos rfl, Int.ofNat_natAbs_of_nonpos (by omega), Int.neg_neg] at h
    exact h
  · rename_i hn
    have h := readSize?_digits hr false (n := n.natAbs) nofun
    rw [if_neg (by decide), Int.natAbs_of_nonneg (by omega)] at h
    rw [← h]
    obtain ⟨c, cs, hc⟩ := List.exists_cons_of_ne_nil (Decimal.digits_ne_nil n.natAbs)
    have hd := Decimal.digits_isDigit n.natAbs c (by simp [hc])
    rw [hc, List.cons_append, readNumber?]
    rintro _ ⟨⟩
    exact absurd hd (by decide)

end

/-! ## (2) Texts -/

theorem hexValue?_hexDigit {d : Nat} (h : d < 16) : hexValue? (hexDigit d) = some d := by
  have : ∀ d, d < 16 → hexValue? (hexDigit d) = some d := by decide
  exact this d h

/-- A control character is named by its number. -/
theorem hexEscape?_of_control {c : Char} (h : c.toNat < 32) :
    hexEscape? '0' '0' (hexDigit (c.toNat / 16)) (hexDigit (c.toNat % 16)) = some (.char c) := by
  have h0 : hexValue? '0' = some 0 := rfl
  have hn : ((0 * 16 + 0) * 16 + c.toNat / 16) * 16 + c.toNat % 16 = c.toNat := by omega
  simp only [hexEscape?, h0, hexValue?_hexDigit (d := c.toNat / 16) (by omega),
    hexValue?_hexDigit (d := c.toNat % 16) (by omega), Option.bind_eq_bind, Option.bind_some, Option.pure_def, hn]
  rw [unit16, if_neg (by omega), if_neg (by omega), Char.ofNat_toNat]

section

variable (cs : List Char)

/-- A character that stands for itself. -/
theorem readUnits?_cons {c : Char} (h1 : c ≠ '"') (h2 : c ≠ '\\') (h3 : ¬c.toNat < 32) :
    readUnits? (c :: cs) = (readUnits? cs).map fun p => (.char c :: p.1, p.2) := by
  rw [readUnits?, if_neg h3]
  · cases readUnits? cs <;> rfl
  · exact h1
  · rintro _ _ _ _ _ rfl
    exact absurd rfl h2
  · rintro _ _ rfl
    exact absurd rfl h2

/-- A character that is named by a letter. -/
theorem readUnits?_escape {c e : Char} (h : shortEscape? e = some c) :
    readUnits? ('\\' :: e :: cs) = (readUnits? cs).map fun p => (.char c :: p.1, p.2) := by
  rw [readUnits?, h, Option.bind_eq_bind, Option.bind_some]
  · cases readUnits? cs <;> rfl
  · rintro _ _ _ _ _ rfl
    have none_of_u : shortEscape? 'u' = none := rfl
    rw [none_of_u] at h
    cases h

/-- A character that is named by its number. -/
theorem readUnits?_hexEscape {c d e f g : Char} (h : hexEscape? d e f g = some (.char c)) :
    readUnits? ('\\' :: 'u' :: d :: e :: f :: g :: cs) = (readUnits? cs).map fun p => (.char c :: p.1, p.2) := by
  rw [readUnits?, h, Option.bind_eq_bind, Option.bind_some]
  cases readUnits? cs <;> rfl

theorem readUnits?_writeChar (c : Char) :
    readUnits? (writeChar c ++ cs) = (readUnits? cs).map fun p => (.char c :: p.1, p.2) := by
  -- five letters name a character that is given as such, two one that is given by its number
  have named : ∀ e d : Char, shortEscape? e = some d → c = d ∨ c.toNat = d.toNat →
      readUnits? ('\\' :: e :: cs) = (readUnits? cs).map fun p => (.char c :: p.1, p.2) := by
    intro e d he hd
    have hc : c = d := hd.elim id Char.toNat_inj.1
    exact readUnits?_escape cs (hc ▸ he)
  unfold writeChar
  split
  · exact named _ '"' rfl (.inl ‹_›)
  split
  · exact named _ '\\' rfl (.inl ‹_›)
  split
  · exact named _ '\n' rfl (.inl ‹_›)
  split
  · exact named _ '\r' rfl (.inl ‹_›)
  split
  · exact named _ '\t' rfl (.inl ‹_›)
  split
  · exact named _ '\x08' rfl (.inr ‹_›)
  split
  · exact named _ '\x0c' rfl (.inr ‹_›)
  split
  · exact readUnits?_hexEscape cs (hexEscape?_of_control ‹_›)
  · exact readUnits?_cons cs ‹_› ‹_› ‹_›

end

theorem readUnits?_writeChars (cs rest : List Char) :
    readUnits? (writeChars cs ('"' :: rest)) = some (cs.map .char, rest) := by
  induction cs with
  | nil => simp [writeChars, readUnits?]
  | cons c cs ih => rw [writeChars, readUnits?_writeChar, ih, Option.map_some, List.map_cons]

theorem joined?_map_char (cs : List Char) : joined? (cs.map .char) = some cs := by
  induction cs with
  | nil => rfl
  | cons c cs ih => rw [List.map_cons, joined?, ih, Option.map_some]

theorem readText?_writeText (t : Text) (rest : List Char) :
    ∃ cs, writeText t rest = '"' :: cs ∧ readText? cs = some (t, rest) := by
  cases t with
  | plain s =>
    refine ⟨_, rfl, ?_⟩
    simp only [readText?, readUnits?_writeChars, joined?_map_char, Option.map_some, String.ofList_toList]
  | garbled => exact ⟨_, rfl, rfl⟩

/-! ## (3) Values -/

theorem skip_cons {c : Char} (h : isSpace c = false) (cs : List Char) : skip (c :: cs) = c :: cs := by
  rw [skip, List.dropWhile_cons_of_neg (by simp [h])]

/-- A number starts with its sign or a digit. -/
theorem exists_integer (n : Int) (rest : List Char) :
    ∃ c cs, Decimal.integer n ++ rest = c :: cs ∧ (c = '-' ∨ isDigit c = true) := by
  obtain ⟨c, cs, hc⟩ := List.exists_cons_of_ne_nil (Decimal.integer_ne_nil n)
  refine ⟨c, cs ++ rest, by rw [hc, List.cons_append], ?_⟩
  unfold Decimal.integer at hc
  split at hc
  · cases hc
    exact .inl rfl
  · exact .inr (Decimal.digits_isDigit n.natAbs c (by simp [hc]))

theorem isSpace_of_number {c : Char} (h : c = '-' ∨ isDigit c = true) : isSpace c = false := by
  have out : ∀ d : Char, ¬(d = '-' ∨ isDigit d = true) → (c == d) = false := fun d hd =>
    beq_eq_false_iff_ne.2 fun same => hd (same ▸ h)
  simp only [isSpace, out ' ' (by decide), out '\t' (by decide), out '\n' (by decide), out '\r' (by decide), Bool.or_false]

/-- A value starts with neither a blank nor what closes a list or an object. -/
theorem exists_write (j : Json) (rest : List Char) :
    ∃ c cs, write j rest = c :: cs ∧ isSpace c = false ∧ c ≠ ']' ∧ c ≠ '\x7d' := by
  rcases j with _ | _ | n | _ | t | items | members
  · exact ⟨_, _, rfl, by decide⟩
  · rename_i b
    cases b <;> exact ⟨_, _, rfl, by decide⟩
  · obtain ⟨c, cs, hc, h⟩ := exists_integer n rest
    refine ⟨c, cs, hc, ?_⟩
    exact ⟨isSpace_of_number h, by rintro rfl; simp [isDigit] at h, by rintro rfl; simp [isDigit] at h⟩
  · exact ⟨_, _, rfl, by decide⟩
  · obtain ⟨cs, hc, -⟩ := readText?_writeText t rest
    exact ⟨_, cs, hc, by decide⟩
  · cases items <;> exact ⟨_, _, rfl, by decide⟩
  · rcases members with _ | ⟨⟨k, v⟩, ms⟩ <;> exact ⟨_, _, rfl, by decide⟩

theorem lt_length_append (front : List Char) (h : front ≠ []) (rest : List Char) :
    rest.length < (front ++ rest).length := by
  have := List.length_pos_iff.2 h
  rw [List.length_append]
  omega

theorem lt_length_writeChars (cs rest : List Char) : rest.length < (writeChars cs ('"' :: rest)).length := by
  induction cs with
  | nil => exact Nat.lt_succ_self _
  | cons c cs ih =>
    rw [writeChars, List.length_append]
    omega

/-- A text costs its two quotes. -/
theorem lt_length_writeText (t : Text) (rest : List Char) : rest.length + 1 < (writeText t rest).length := by
  cases t with
  | plain s => exact Nat.succ_lt_succ (lt_length_writeChars s.toList rest)
  | garbled =>
    have h : ('"' :: rest).length < ("\"\\ud800".toList ++ '"' :: rest).length := lt_length_append _ (by decide) _
    exact h

/-- A member costs two quotes and a colon besides its value. -/
theorem lt_length_member (k : Text) (v : Json) (rest : List Char) :
    (write v rest).length + 2 < (writeText k (':' :: write v rest)).length :=
  lt_length_writeText k (':' :: write v rest)

mutual

/-- A value costs one character at least. -/
theorem lt_length_write : ∀ (j : Json) (rest : List Char), rest.length < (write j rest).length
  | .null, rest => lt_length_append _ (by decide) rest
  | .bool true, rest => lt_length_append _ (by decide) rest
  | .bool false, rest => lt_length_append _ (by decide) rest
  | .int n, rest => lt_length_append _ (Decimal.integer_ne_nil n) rest
  | .real, rest => lt_length_append _ (by decide) rest
  | .text t, rest => Nat.lt_of_succ_lt (lt_length_writeText t rest)
  | .array [], rest => lt_length_append ['[', ']'] (by decide) rest
  | .array (v :: vs), rest =>
    Nat.lt_trans (lt_length_writeItems vs rest) (Nat.lt_succ_of_lt (lt_length_write v _))
  | .object [], rest => lt_length_append ['\x7b', '\x7d'] (by decide) rest
  | .object ((k, v) :: ms), rest => by
    have h1 := lt_length_writeMembers ms rest
    have h2 := lt_length_write v (writeMembers ms rest)
    have h3 := lt_length_member k v (writeMembers ms rest)
    rw [write, List.length_cons]
    omega

theorem lt_length_writeItems : ∀ (vs : List Json) (rest : List Char), rest.length < (writeItems vs rest).length
  | [], _ => Nat.lt_succ_self _
  | v :: vs, rest =>
    Nat.lt_trans (lt_length_writeItems vs rest) (Nat.lt_succ_of_lt (lt_length_write v _))

theorem lt_length_writeMembers : ∀ (ms : List (Text × Json)) (rest : List Char),
    rest.length < (writeMembers ms rest).length
  | [], _ => Nat.lt_succ_self _
  | (k, v) :: ms, rest => by
    have h1 := lt_length_writeMembers ms rest
    have h2 := lt_length_write v (writeMembers ms rest)
    have h3 := lt_length_member k v (writeMembers ms rest)
    rw [writeMembers, List.length_cons]
    omega

end

theorem ended_writeItems (vs : List Json) (rest : List Char) : Ended (writeItems vs rest) := by
  cases vs
  · exact ended_cons (.inr (.inl rfl))
  · exact ended_cons (.inl rfl)

theorem ended_writeMembers (ms : List (Text × Json)) (rest : List Char) : Ended (writeMembers ms rest) := by
  rcases ms with _ | ⟨⟨k, v⟩, ms⟩
  · exact ended_cons (.inr (.inr rfl))
  · exact ended_cons (.inl rfl)

/-- A value that starts as a number does is one. -/
theorem readValue?_of_number {c : Char} (h : c = '-' ∨ isDigit c = true) (fuel : Nat) (cs : List Char) :
    readValue? (fuel + 1) (c :: cs) = readNumber? (c :: cs) := by
  have out : ∀ d : Char, ¬(d = '-' ∨ isDigit d = true) → c ≠ d := fun d hd same => hd (same ▸ h)
  rw [readValue?, skip_cons (isSpace_of_number h)]
  split <;> rename_i same
  · cases same
  all_goals first
    | rfl
    | exact absurd (List.cons.inj same).1 (out _ (by decide))

section

variable {c : Char} {cs mid rest : List Char} {fuel : Nat}

theorem readValue?_array {v : Json} {vs : List Json} (hs : isSpace c = false) (hc : c ≠ ']')
    (hv : readValue? fuel (c :: cs) = some (v, mid)) (hvs : readItems? fuel mid = some (vs, rest)) :
    readValue? (fuel + 1) ('[' :: c :: cs) = some (.array (v :: vs), rest) := by
  rw [readValue?, skip_cons (by decide)]
  simp only [skip_cons hs]
  split
  · rename_i same
    exact absurd (List.cons.inj same).1 hc
  · simp only [hv, hvs, Option.bind_eq_bind, Option.bind_some, Option.pure_def]

theorem readValue?_object {m : Text × Json} {ms : List (Text × Json)} (hs : isSpace c = false) (hc : c ≠ '\x7d')
    (hm : readMember? fuel (c :: cs) = some (m, mid)) (hms : readMembers? fuel mid = some (ms, rest)) :
    readValue? (fuel + 1) ('\x7b' :: c :: cs) = some (.object (m :: ms), rest) := by
  rw [readValue?, skip_cons (by decide)]
  simp only [skip_cons hs]
  split
  · rename_i same
    exact absurd (List.cons.inj same).1 hc
  · simp only [hm, hms, Option.bind_eq_bind, Option.bind_some, Option.pure_def]

end

theorem readMember?_write (k : Text) {v : Json} {rest : List Char} {fuel : Nat}
    (hv : readValue? fuel (write v rest) = some (v, rest)) :
    readMember? (fuel + 1) (writeText k (':' :: write v rest)) = some ((k, v), rest) := by
  obtain ⟨cs, hc, hk⟩ := readText?_writeText k (':' :: write v rest)
  rw [hc, readMember?, skip_cons (by decide)]
  simp only [hk, skip_cons (c := ':') (by decide), hv, Option.bind_eq_bind, Option.bind_some, Option.pure_def]

theorem readNumber?_real {rest : List Char} (hr : Ended rest) :
    readNumber? ('0' :: '.' :: '0' :: rest) = some (.real, rest) := by
  have h0 : readDigits? ('0' :: '.' :: '0' :: rest) = some (['0'], '.' :: '0' :: rest) := rfl
  have h1 : readDigits? ('0' :: rest) = some (['0'], rest) := readDigits?_append hr ['0'] (List.forall_mem_singleton.2 rfl) nofun
  have h2 : readFraction? ('.' :: '0' :: rest) = some (true, rest) := by rw [readFraction?, h1, Option.map_some]
  rw [readNumber?, readSize?, h0]
  · simp [h2, readExponent?_of_ended hr]
  · nofun

mutual

/-- The fuel lasts for the characters up to the rest. -/
theorem readValue?_write : ∀ (j : Json) (fuel : Nat) {rest : List Char}, Ended rest →
    2 * (write j rest).length ≤ fuel + 2 * rest.length → readValue? fuel (write j rest) = some (j, rest)
  | j, 0, rest, _, hf => by
    have := lt_length_write j rest
    omega
  | .null, fuel + 1, rest, _, _ => by
    simp [write, readValue?, skip_cons, isSpace, readWord?]
  | .bool true, fuel + 1, rest, _, _ => by
    simp [write, readValue?, skip_cons, isSpace, readWord?]
  | .bool false, fuel + 1, rest, _, _ => by
    simp [write, readValue?, skip_cons, isSpace, readWord?]
  | .int n, fuel + 1, rest, hr, _ => by
    obtain ⟨c, cs, hc, h⟩ := exists_integer n rest
    rw [write, hc, readValue?_of_number h, ← hc, readNumber?_integer hr]
  | .real, fuel + 1, rest, hr, _ => by
    change readValue? (fuel + 1) ('0' :: '.' :: '0' :: rest) = _
    rw [readValue?_of_number (by decide), readNumber?_real hr]
  | .text t, fuel + 1, rest, _, _ => by
    obtain ⟨cs, hc, h⟩ := readText?_writeText t rest
    rw [write, hc, readValue?, skip_cons (by decide)]
    change (readText? cs).map _ = _
    rw [h, Option.map_some]
  | .array [], fuel + 1, rest, _, _ => by
    rw [write, readValue?, skip_cons (by decide)]
    rfl
  | .array (v :: vs), fuel + 1, rest, _, hf => by
    have h1 := lt_length_writeItems vs rest
    have h2 := lt_length_write v (writeItems vs rest)
    rw [write, List.length_cons] at hf
    have hv := readValue?_write v fuel (ended_writeItems vs rest) (by omega)
    have hvs := readItems?_writeItems vs fuel rest (by omega)
    obtain ⟨c, cs, hc, hs, hn, -⟩ := exists_write v (writeItems vs rest)
    rw [write, hc]
    exact readValue?_array hs hn (hc ▸ hv) hvs
  | .object [], fuel + 1, rest, _, _ => by
    rw [write, readValue?, skip_cons (by decide)]
    rfl
  | .object ((k, v) :: ms), fuel + 1, rest, _, hf => by
    have h1 := lt_length_writeMembers ms rest
    have h2 := lt_length_write v (writeMembers ms rest)
    have h3 := lt_length_member k v (writeMembers ms rest)
    rw [write, List.length_cons] at hf
    obtain ⟨fuel, rfl⟩ : ∃ n, fuel = n + 1 := ⟨fuel - 1, by omega⟩
    have hv := readValue?_write v fuel (ended_writeMembers ms rest) (by omega)
    have hms := readMembers?_writeMembers ms (fuel + 1) rest (by omega)
    obtain ⟨cs, hc, -⟩ := readText?_writeText k (':' :: write v (writeMembers ms rest))
    rw [write, hc]
    exact readValue?_object (by decide) (by decide) (hc ▸ readMember?_write k hv) hms

theorem readItems?_writeItems : ∀ (vs : List Json) (fuel : Nat) (rest : List Char),
    2 * (writeItems vs rest).length ≤ fuel + 2 * rest.length → readItems? fuel (writeItems vs rest) = some (vs, rest)
  | vs, 0, rest, hf => by
    have := lt_length_writeItems vs rest
    omega
  | [], fuel + 1, rest, _ => by
    rw [writeItems, readItems?, skip_cons (by decide)]
    rfl
  | v :: vs, fuel + 1, rest, hf => by
    have h1 := lt_length_writeItems vs rest
    have h2 := lt_length_write v (writeItems vs rest)
    rw [writeItems, List.length_cons] at hf
    have hv := readValue?_write v fuel (ended_writeItems vs rest) (by omega)
    have hvs := readItems?_writeItems vs fuel rest (by omega)
    rw [writeItems, readItems?, skip_cons (by decide)]
    simp only [hv, hvs, Option.bind_eq_bind, Option.bind_some, Option.pure_def]

theorem readMembers?_writeMembers : ∀ (ms : List (Text × Json)) (fuel : Nat) (rest : List Char),
    2 * (writeMembers ms rest).length ≤ fuel + 2 * rest.length →
    readMembers? fuel (writeMembers ms rest) = some (ms, rest)
  | ms, 0, rest, hf => by
    have := lt_length_writeMembers ms rest
    omega
  | [], fuel + 1, rest, _ => by
    rw [writeMembers, readMembers?, skip_cons (by decide)]
    rfl
  | (k, v) :: ms, fuel + 1, rest, hf => by
    have h1 := lt_length_writeMembers ms rest
    have h2 := lt_length_write v (writeMembers ms rest)
    have h3 := lt_length_member k v (writeMembers ms rest)
    rw [writeMembers, List.length_cons] at hf
    obtain ⟨fuel, rfl⟩ : ∃ n, fuel = n + 1 := ⟨fuel - 1, by omega⟩
    have hv := readValue?_write v fuel (ended_writeMembers ms rest) (by omega)
    have hms := readMembers?_writeMembers ms (fuel + 1) rest (by omega)
    rw [writeMembers, readMembers?, skip_cons (by decide)]
    simp only [readMember?_write k hv, hms, Option.bind_eq_bind, Option.bind_some, Option.pure_def]

end

theorem read?_render (j : Json) : read? (render j) = some j := by
  have h := readValue?_write j (2 * (write j []).length + 2) ended_nil (by omega)
  rw [read?, render, String.toList_ofList]
  simp only [h]
  rfl

end Json

end ClockDiscipline
