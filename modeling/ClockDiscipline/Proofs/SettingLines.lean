/-
  ClockDiscipline.Proofs.SettingLines — what a settings text says, line by line.

  A line feed ends a line, and a carriage return right before it goes with it. A line
  says a value of a key if, with the blanks at its ends taken off, it does not begin with
  `#` and has a `=`: the key is what stands before the first one, the value what stands
  after it, each without the blanks at its ends. Key and value may be empty. Of two lines
  that say something of one key the later one counts.

  Proved: (1) trimming takes off blanks and leaves none at an end (`trimmed_iff`); (2) the
  lines of a text, and that cutting it at line feeds alone leaves the same to say
  (`filterMap_lines`); (3) a line is read as what it says (`entry?_eq_some_iff`);
  (4) so that a key has the value of the latest line that says one, and a text set behind
  another one keeps what the other says of the keys that it does not mention
  (`a_key_has_what_its_latest_line_says`).
-/

import ClockDiscipline.Config
import Mathlib.Data.List.TakeWhile

namespace ClockDiscipline

namespace Text

/-! ## (1) Blanks -/

/-- What stands between the blanks at the ends of a text. -/
structure Trimmed (cs t : List Char) : Prop where
  between : ∃ l r, cs = l ++ t ++ r ∧ (∀ c ∈ l, isBlank c = true) ∧ ∀ c ∈ r, isBlank c = true
  head : ∀ c, t.head? = some c → isBlank c = false
  last : ∀ c, t.getLast? = some c → isBlank c = false

theorem head_dropWhile {l : List Char} {c : Char} (h : (l.dropWhile isBlank).head? = some c) : isBlank c = false := by
  have hn := List.head?_dropWhile_not isBlank l
  rw [h] at hn
  exact hn

theorem dropWhile_of_head {l : List Char} (h : ∀ c, l.head? = some c → isBlank c = false) :
    l.dropWhile isBlank = l := by
  cases l with
  | nil => rfl
  | cons c l => rw [List.dropWhile_cons_of_neg (by simp [h c rfl])]

theorem trimmed_trim (cs : List Char) : Trimmed cs (trim cs) := by
  let ends := ((cs.dropWhile isBlank).reverse.takeWhile isBlank).reverse
  have hm : trim cs ++ ends = cs.dropWhile isBlank := by
    unfold trim ends
    rw [← List.reverse_append, List.takeWhile_append_dropWhile, List.reverse_reverse]
  refine ⟨⟨cs.takeWhile isBlank, ends, ?_, ?_, ?_⟩, ?_, ?_⟩
  · rw [List.append_assoc, hm, List.takeWhile_append_dropWhile]
  · intro c hc
    exact List.mem_takeWhile_imp hc
  · intro c hc
    exact List.mem_takeWhile_imp (List.mem_reverse.mp hc)
  · intro c hc
    refine head_dropWhile (l := cs) ?_
    rw [← hm, List.head?_append, hc]
    rfl
  · intro c hc
    unfold trim at hc
    rw [List.getLast?_reverse] at hc
    exact head_dropWhile hc

/-- Trimming is the only way to take the blanks off. -/
theorem trimmed_iff {cs t : List Char} : Trimmed cs t ↔ trim cs = t := by
  constructor
  · rintro ⟨⟨l, r, rfl, hl, hr⟩, hh, ht⟩
    have h1 : (l ++ t ++ r).dropWhile isBlank = (t ++ r).dropWhile isBlank := by
      rw [List.append_assoc, List.dropWhile_append_of_pos hl]
    unfold trim
    rw [h1]
    cases t with
    | nil =>
      rw [List.nil_append, List.dropWhile_eq_nil_iff.mpr hr]
      rfl
    | cons c t =>
      rw [dropWhile_of_head (l := c :: t ++ r) fun d hd => hh d hd, List.reverse_append,
        List.dropWhile_append_of_pos fun d hd => hr d (List.mem_reverse.mp hd),
        dropWhile_of_head fun d hd => ht d (by rwa [List.head?_reverse] at hd), List.reverse_reverse]
  · rintro rfl
    exact trimmed_trim cs

/-- A blank at the end is taken off like the others. -/
theorem trim_concat (cs : List Char) {c : Char} (hc : isBlank c = true) : trim (cs ++ [c]) = trim cs := by
  obtain ⟨⟨l, r, h, hl, hr⟩, hh, ht⟩ := trimmed_trim cs
  refine trimmed_iff.mp ⟨⟨l, r ++ [c], ?_, hl, fun d hd => ?_⟩, hh, ht⟩
  · conv => lhs; rw [h]
    simp only [List.append_assoc]
  · rcases List.mem_append.mp hd with hd | hd
    · exact hr d hd
    · exact List.mem_singleton.mp hd ▸ hc

/-! ## (2) Lines -/

/-- The lines of a text. A line feed ends a line, and a carriage return right before it goes with it; after the last
    line feed there is a line only where something stands. -/
def lines : List Char → List (List Char)
  | [] => []
  | '\n' :: cs => [] :: lines cs
  | '\r' :: '\n' :: cs => [] :: lines cs
  | c :: cs =>
    match lines cs with
    | [] => [[c]]
    | l :: ls => (c :: l) :: ls

example : lines "a\r\n\nb\rc\n".toList = ["a".toList, [], "b\rc".toList] := by decide

/-- Without a carriage return at the end. -/
def chomp (l : List Char) : List Char := if l.getLast? = some '\r' then l.dropLast else l

theorem lines_cons {c : Char} {cs : List Char} (hf : c ≠ '\n') (hr : c = '\r' → cs.head? ≠ some '\n') :
    lines (c :: cs) = match lines cs with
      | [] => [[c]]
      | l :: ls => (c :: l) :: ls := by
  refine lines.eq_4 c cs hf fun cs' hc hcs => ?_
  subst hcs
  exact hr hc rfl

theorem lines_of_not_mem {l : List Char} (h : '\n' ∉ l) (hl : l ≠ []) : lines l = [l] := by
  induction l with
  | nil => exact absurd rfl hl
  | cons c l ih =>
    obtain ⟨hc, h⟩ := not_or.mp (List.mem_cons.not.mp h)
    rw [lines_cons (fun e => hc e.symm) fun _ hn => h (List.mem_of_mem_head? hn)]
    cases l with
    | nil => rfl
    | cons d l => rw [ih h (List.cons_ne_nil d l)]

theorem chomp_cons {c : Char} {l : List Char} (h : c = '\r' → l ≠ []) : chomp (c :: l) = c :: chomp l := by
  unfold chomp
  cases l with
  | nil =>
    have hc : c ≠ '\r' := fun hc => h hc rfl
    simp [hc]
  | cons d l =>
    rw [List.getLast?_cons_cons, List.dropLast_cons_of_ne_nil (List.cons_ne_nil d l)]
    split <;> rfl

/-- What stands before the first line feed is a line, but for the carriage return. -/
theorem lines_append {l : List Char} (h : '\n' ∉ l) (cs : List Char) :
    lines (l ++ '\n' :: cs) = chomp l :: lines cs := by
  induction l with
  | nil => rfl
  | cons c l ih =>
    obtain ⟨hc, h⟩ := not_or.mp (List.mem_cons.not.mp h)
    by_cases hr : c = '\r' ∧ l = []
    · obtain ⟨rfl, rfl⟩ := hr
      rfl
    · have hne : c = '\r' → l ≠ [] := fun h1 h2 => hr ⟨h1, h2⟩
      rw [List.cons_append, lines_cons (fun e => hc e.symm), ih h, chomp_cons hne]
      intro h1 h2
      cases l with
      | nil => exact hne h1 rfl
      | cons d l => exact h (List.mem_of_mem_head? h2)

theorem pieces_append (sep : Char) (as bs : List Char) :
    pieces sep (as ++ sep :: bs) = pieces sep as ++ pieces sep bs := by
  induction as with
  | nil => simp [pieces]
  | cons c as ih =>
    by_cases hc : c = sep
    · simp [pieces, hc, ih]
    · simp only [List.cons_append, pieces, if_neg hc, ih]
      cases hp : pieces sep as with
      | nil => exact absurd hp (pieces_ne_nil sep as)
      | cons p ps => rfl

theorem pieces_of_not_mem {sep : Char} {cs : List Char} (h : sep ∉ cs) : pieces sep cs = [cs] := by
  induction cs with
  | nil => rfl
  | cons c cs ih =>
    obtain ⟨hc, h⟩ := not_or.mp (List.mem_cons.not.mp h)
    simp only [pieces, if_neg fun e => hc (Eq.symm e), ih h]

/-- A reader that does not heed a carriage return at the end of a line, and to whom an empty line says nothing, is
    told the same by the pieces between the line feeds as by the lines. -/
theorem filterMap_lines {α : Type} {f : List Char → Option α} (hf : ∀ l, f (chomp l) = f l) (he : f [] = none)
    (cs : List Char) : (lines cs).filterMap f = (pieces '\n' cs).filterMap f := by
  -- By the length of the text, cut at its first line feed.
  induction h : cs.length using Nat.strongRecOn generalizing cs with
  | ind n ih =>
    by_cases hn : '\n' ∈ cs
    · obtain ⟨l, rest, rfl, hl⟩ := List.eq_append_cons_of_mem hn
      have hlt : rest.length < n := by
        rw [List.length_append, List.length_cons] at h
        omega
      rw [lines_append hl, pieces_append, pieces_of_not_mem hl, List.singleton_append]
      simp only [List.filterMap_cons, hf l, ih rest.length hlt rest rfl]
    · rw [pieces_of_not_mem hn]
      by_cases hl : cs = []
      · simp [hl, lines, he]
      · rw [lines_of_not_mem hn hl]

theorem cutAt?_append {sep : Char} {a : List Char} (h : sep ∉ a) (b : List Char) :
    cutAt? sep (a ++ sep :: b) = some (a, b) := by
  induction a with
  | nil => simp [cutAt?]
  | cons c a ih =>
    obtain ⟨hc, h⟩ := not_or.mp (List.mem_cons.not.mp h)
    simp [cutAt?, Ne.symm hc, ih h]

end Text

namespace Config

/-! ## (3) What a line says -/

/-- A line says that a key has a value. -/
def Says (line : List Char) (key value : String) : Prop :=
  ∃ body before after, Text.Trimmed line body ∧ body.head? ≠ some '#' ∧ body = before ++ '=' :: after ∧ '=' ∉ before ∧
    Text.Trimmed before key.toList ∧ Text.Trimmed after value.toList

theorem ofList_eq_iff {cs : List Char} {s : String} : String.ofList cs = s ↔ cs = s.toList := by
  constructor
  · rintro rfl
    exact String.toList_ofList.symm
  · rintro rfl
    exact String.ofList_toList

theorem entry?_eq_some_iff {line : List Char} {key value : String} :
    entry? line = some (key, value) ↔ Says line key value := by
  constructor
  · intro h
    by_cases hc : (Text.trim line).head? = some '#'
    · simp [hc, entry?] at h
    · simp only [if_neg hc, entry?] at h
      obtain ⟨⟨before, after⟩, hcut, hp⟩ := Option.map_eq_some_iff.mp h
      obtain ⟨hb, hn⟩ := Text.cutAt?_eq_some hcut
      simp only [Prod.mk.injEq, ofList_eq_iff] at hp
      exact ⟨_, before, after, Text.trimmed_trim line, hc, hb, hn, Text.trimmed_iff.mpr hp.1, Text.trimmed_iff.mpr hp.2⟩
  · rintro ⟨body, before, after, hl, hc, rfl, hn, hk, hv⟩
    have hl := Text.trimmed_iff.mp hl
    have hk := ofList_eq_iff.mpr (Text.trimmed_iff.mp hk)
    have hv := ofList_eq_iff.mpr (Text.trimmed_iff.mp hv)
    simp only [hl, entry?, if_neg hc, Text.cutAt?_append hn, Option.map_some, hk, hv]

theorem entry?_chomp (line : List Char) : entry? (Text.chomp line) = entry? line := by
  have ht : Text.trim (Text.chomp line) = Text.trim line := by
    unfold Text.chomp
    split
    · rename_i h
      obtain ⟨hne, h⟩ := List.getLast?_eq_some_iff.mp h
      rw [h, List.dropLast_concat, Text.trim_concat _ (by decide)]
    · rfl
  simp only [ht, entry?]

/-! ## (4) What a text says -/

theorem entries_parse (text : String) : (parse text).entries = ((Text.lines text.toList).filterMap entry?).reverse := by
  rw [Text.filterMap_lines entry?_chomp rfl]
  rfl

theorem get?_parse_iff {text key value : String} :
    (parse text).get? key = some value ↔ ∃ before line after, Text.lines text.toList = before ++ line :: after ∧
      Says line key value ∧ ∀ later ∈ after, ∀ w, ¬Says later key w := by
  unfold get?
  rw [entries_parse, List.lookup_eq_some_iff]
  constructor
  · rintro ⟨l₁, l₂, h, hl⟩
    rw [List.reverse_eq_append_iff, List.reverse_cons, List.append_assoc, List.singleton_append] at h
    obtain ⟨before, rest, hr, -, h⟩ := List.filterMap_eq_append_iff.mp h
    obtain ⟨silent, line, after, hn, -, hline, h⟩ := List.filterMap_eq_cons_iff.mp h
    refine ⟨before ++ silent, line, after, by rw [hr, hn, List.append_assoc], entry?_eq_some_iff.mp hline,
      fun later hm w hw => ?_⟩
    have hmem : (key, w) ∈ l₁ := by
      rw [← List.mem_reverse, ← h]
      exact List.mem_filterMap.mpr ⟨later, hm, entry?_eq_some_iff.mpr hw⟩
    simpa using hl _ hmem
  · rintro ⟨before, line, after, h, hline, hlater⟩
    refine ⟨(after.filterMap entry?).reverse, (before.filterMap entry?).reverse, ?_, fun p hp => ?_⟩
    · rw [h, List.filterMap_append, List.filterMap_cons_some (entry?_eq_some_iff.mpr hline)]
      simp
    · obtain ⟨later, hm, hp⟩ := List.mem_filterMap.mp (List.mem_reverse.mp hp)
      obtain ⟨k, w⟩ := p
      have hne : key ≠ k := by
        rintro rfl
        exact hlater later hm w (entry?_eq_some_iff.mp hp)
      simpa using hne

theorem get?_parse_append (first second key : String) :
    (parse (first ++ "\n" ++ second)).get? key = ((parse second).get? key).or ((parse first).get? key) := by
  have ht : (first ++ "\n" ++ second).toList = first.toList ++ '\n' :: second.toList := by
    rw [String.toList_append, String.toList_append, List.append_assoc]
    rfl
  unfold get? parse
  rw [ht, Text.pieces_append, List.filterMap_append, List.reverse_append, List.lookup_append]

/-- A key has the value that the latest line to speak of it says, and none if no line speaks of it. Of two texts one
    after the other the second one counts where it speaks of a key, and else the first. -/
theorem a_key_has_what_its_latest_line_says :
    (∀ text key value : String, (parse text).get? key = some value ↔
      ∃ before line after, Text.lines text.toList = before ++ line :: after ∧ Says line key value ∧
        ∀ later ∈ after, ∀ w, ¬Says later key w) ∧
      ∀ first second key : String,
        (parse (first ++ "\n" ++ second)).get? key = ((parse second).get? key).or ((parse first).get? key) :=
  ⟨fun _ _ _ => get?_parse_iff, get?_parse_append⟩

end Config

end ClockDiscipline
