/-
  ClockDiscipline.Proofs.Respelling — records that others have written.

  The JSON text of a record may come from elsewhere: with its fields in another order, with
  fields of unknown names among them, or as the bare array of its fields. A respelling of a
  value does any of this at any depth, to each object in its own way.

  Two objects take no further member: that of a span, which refuses a name that it does not
  know, and the one around an action's code, which is no record but a variant and what it
  carries. With a further member in one of them a record is not read
  (`an_unknown_field_of_a_span_is_refused`).

  Proved: (1) a respelled object still has its fields, respelled (`fields?_of_respelled`), and
  no others if it takes none (`hasStrangers_of_respelled`); (2) so words, lists and records
  are read from every respelling (`reads_word`, `reads_list`, `Layout.reads_write`), and
  (3) each record of the daemon is; (4) and from the texts of its respellings
  (`records_are_read_however_they_are_spelled`).
-/

import ClockDiscipline.Json.Records
import ClockDiscipline.Proofs.JsonText
import ClockDiscipline.Proofs.OptionRow
import Mathlib.Data.List.Perm.Basic

namespace ClockDiscipline.Json

/-- The names of the object around an action's code. -/
def codeNames : List String := ["Unknown"]

/-- Other ways to write a value. An object with the names of one of the `closed` lists takes no further member. -/
inductive Respelled (closed : List (List String)) : Json → Json → Prop
  | same (j : Json) : Respelled closed j j
  | items {xs ys : List Json} : List.Forall₂ (Respelled closed) xs ys → Respelled closed (.array xs) (.array ys)
  /-- The fields in any order, among others of unknown names. -/
  | members {fields others all : List (String × Json)} {vs : List Json} :
      List.Forall₂ (Respelled closed) (fields.map (·.2)) vs →
      (∀ f ∈ others, f.1 ∉ fields.map (·.1)) → (others = [] ∨ fields.map (·.1) ∉ closed) →
      all.Perm ((fields.map (·.1)).zip vs ++ others) → Respelled closed (ofFields fields) (ofFields all)
  /-- A record as the array of its fields. -/
  | row {fields : List (String × Json)} {vs : List Json} : fields.map (·.1) ≠ codeNames →
      List.Forall₂ (Respelled closed) (fields.map (·.2)) vs → Respelled closed (ofFields fields) (.array vs)

variable {closed : List (List String)}

/-! ## (1) Respelled objects -/

theorem ofFields_inj {fields others : List (String × Json)} (h : ofFields fields = ofFields others) : fields = others := by
  refine List.map_injective_iff.2 ?_ (Json.object.inj h)
  rintro ⟨k, v⟩ ⟨l, w⟩ same
  simpa using same

/-- Neither the order nor members of other names matter to what is found by a name. -/
theorem only?_of_perm {ms others all : List (Text × Json)} {name : String} {v : Json}
    (perm : all.Perm (ms ++ others)) (strange : ∀ m ∈ others, m.1 ≠ .plain name) (found : only? ms name = some v) :
    only? all name = some v := by
  have none_of_others : others.filter (fun m => m.1 = .plain name) = [] :=
    List.filter_eq_nil_iff.2 fun m hm => by simpa using strange m hm
  have perm := perm.filter fun m => decide (m.1 = .plain name)
  rw [List.filter_append, none_of_others, List.append_nil] at perm
  unfold only? at found ⊢
  split at found
  · rename_i m hm
    rw [hm] at perm
    rwa [List.perm_singleton.1 perm]
  · cases found

theorem fields?_of_perm {names : List String} {vs : List Json} {others all : List (String × Json)} (once : names.Nodup)
    (enough : names.length = vs.length) (strange : ∀ f ∈ others, f.1 ∉ names)
    (perm : all.Perm (names.zip vs ++ others)) : fields? names (ofFields all) = some vs := by
  have fst : (names.zip vs).map (·.1) = names := List.map_fst_zip (by omega)
  rw [ofFields, fields?, if_neg (by simp), mapM_eq_some_iff, List.forall₂_iff_zip]
  refine ⟨enough, fun {name v} mem => ?_⟩
  have found := only?_eq_some (fst.symm ▸ once) mem
  have perm := perm.map fun f => ((.plain f.1, f.2) : Text × Json)
  rw [List.map_append] at perm
  refine only?_of_perm perm ?_ found
  intro m hm
  obtain ⟨f, hf, rfl⟩ := List.mem_map.1 hm
  rintro ⟨⟩
  exact strange f hf (List.of_mem_zip mem).1

/-- A respelled record has its fields, respelled, and by them it is read. -/
theorem fields?_of_respelled {names : List String} {values : List Json} {j : Json} (once : names.Nodup)
    (enough : names.length = values.length) (h : Respelled closed (.ofFields (names.zip values)) j) :
    ∃ vs, List.Forall₂ (Respelled closed) values vs ∧ fields? names j = some vs := by
  have fst : (names.zip values).map (·.1) = names := List.map_fst_zip (by omega)
  have snd : (names.zip values).map (·.2) = values := List.map_snd_zip (by omega)
  generalize hw : ofFields (names.zip values) = w at h
  cases h with
  | same => exact ⟨values, List.forall₂_same.2 fun v _ => .same v, hw ▸ fields?_ofFields once enough⟩
  | items => cases hw
  | members hvs strange _ perm =>
    obtain rfl := ofFields_inj hw
    rw [fst] at strange perm
    rw [snd] at hvs
    exact ⟨_, hvs, fields?_of_perm once (enough.trans hvs.length_eq) strange perm⟩
  | row _ hvs =>
    obtain rfl := ofFields_inj hw
    rw [snd] at hvs
    exact ⟨_, hvs, by rw [fields?, if_pos (hvs.length_eq ▸ enough.symm)]⟩

/-- The object of a closed list takes no further member. -/
theorem hasStrangers_of_respelled {names : List String} {values : List Json} {j : Json} (shut : names ∈ closed)
    (enough : names.length = values.length) (h : Respelled closed (.ofFields (names.zip values)) j) :
    hasStrangers names j = false := by
  have fst : (names.zip values).map (·.1) = names := List.map_fst_zip (by omega)
  have known : ∀ fields : List (String × Json), (∀ f ∈ fields, f.1 ∈ names) →
      hasStrangers names (ofFields fields) = false := by
    intro fields hf
    simpa [hasStrangers, ofFields] using fun k v hm => hf (k, v) hm
  generalize hw : ofFields (names.zip values) = w at h
  cases h with
  | same => exact hw ▸ known _ fun f hf => (List.of_mem_zip hf).1
  | items => cases hw
  | members _ _ extra perm =>
    obtain rfl := ofFields_inj hw
    rw [fst] at extra perm
    obtain rfl := extra.resolve_right (not_not_intro shut)
    rw [List.append_nil] at perm
    exact known _ fun f hf => (List.of_mem_zip (perm.mem_iff.1 hf)).1
  | row => rfl

/-! ## (2) Reading -/

/-- Every respelling of a value is read as this value. -/
def Reads (closed : List (List String)) (α : Type) [Coded α] : Prop :=
  ∀ (a : α) (j : Json), Respelled closed (encode a) j → decode? j = some a

section

variable {α : Type} [Coded α]

/-- What is neither a list nor an object has one spelling. -/
theorem reads_word (law : ∀ a : α, decode? (encode a) = some a) (no_items : ∀ (a : α) xs, encode a ≠ .array xs)
    (no_members : ∀ (a : α) ms, encode a ≠ .object ms) : Reads closed α := by
  intro a j h
  generalize hw : encode a = w at h
  cases h with
  | same => exact hw ▸ law a
  | items => exact absurd hw (no_items a _)
  | members => exact absurd hw (no_members a _)
  | row => exact absurd hw (no_members a _)

theorem reads_list (h : Reads closed α) : Reads closed (List α) := by
  intro xs j hj
  change Respelled closed (.array (xs.map encode)) j at hj
  generalize hw : Json.array (xs.map encode) = w at hj
  cases hj with
  | same => exact hw ▸ decode?_encode_list (fun a => h a _ (.same _)) xs
  | items hys =>
    cases hw
    exact mapM_eq_some_iff.2 ((List.forall₂_map_left_iff.1 hys).flip.imp fun y a hy => h a y hy)
  | members => cases hw
  | row => cases hw

end

theorem Layout.reads_write {α : Type} {l : Layout α} (once : l.names.Nodup) {a : α} {j : Json}
    (enough : l.names.length = (l.values a).length)
    (back : ∀ vs, List.Forall₂ (Respelled closed) (l.values a) vs → l.build? vs = some a)
    (h : Respelled closed (l.write a) j) : l.read? j = some a := by
  obtain ⟨vs, hvs, hj⟩ := fields?_of_respelled once enough h
  rw [Layout.read?, hj, Option.bind_some, back vs hvs]

theorem reads_bool : Reads closed Bool := reads_word decode?_encode_bool nofun nofun

theorem reads_string : Reads closed String := reads_word decode?_encode_string nofun nofun

theorem reads_uint16 : Reads closed UInt16 := reads_word decode?_encode_uint16 nofun nofun

theorem reads_uint32 : Reads closed UInt32 := reads_word decode?_encode_uint32 nofun nofun

theorem reads_uint64 : Reads closed UInt64 := reads_word decode?_encode_uint64 nofun nofun

theorem reads_int32 : Reads closed Int32 := reads_word decode?_encode_int32 nofun nofun

theorem reads_int64 : Reads closed Int64 := reads_word decode?_encode_int64 nofun nofun

/-! ## (3) The records of the daemon -/

theorem reads_phaseError : Reads closed PhaseError := by
  intro p j h
  refine Layout.reads_write (l := phaseErrorLayout) (by decide) rfl (fun vs hvs => ?_) h
  obtain _ | ⟨h1, _ | ⟨h2, _ | _⟩⟩ := hvs
  simp [phaseErrorLayout, reads_int64 _ _ h1, reads_int64 _ _ h2]

theorem reads_controlInput : Reads closed ControlInput := by
  intro i j h
  refine Layout.reads_write (l := controlInputLayout) (by decide) rfl (fun vs hvs => ?_) h
  obtain _ | ⟨h1, _ | ⟨h2, _ | ⟨h3, _ | ⟨h4, _ | ⟨h5, _ | ⟨h6, _ | ⟨h7, _ | _⟩⟩⟩⟩⟩⟩⟩ := hvs
  simp [controlInputLayout, reads_phaseError _ _ h1, reads_bool _ _ h2, reads_bool _ _ h3, reads_uint16 _ _ h4,
    reads_int32 _ _ h5, reads_uint32 _ _ h6, reads_uint32 _ _ h7]

/-- The object around a code is read if it takes no further member. -/
theorem reads_action (shut : codeNames ∈ closed) : Reads closed Action := by
  intro a j h
  cases a with
  | unknown code =>
    change Respelled closed (ofFields [("Unknown", encode code)]) j at h
    generalize hw : ofFields [("Unknown", encode code)] = w at h
    cases h with
    | same => exact hw ▸ decode?_encode_action (.unknown code)
    | items => cases hw
    | members hvs _ extra perm =>
      obtain rfl := ofFields_inj hw
      -- Nothing besides the code is left, and one member has one order.
      obtain rfl := extra.resolve_right (not_not_intro shut)
      obtain _ | ⟨h1, _ | _⟩ := hvs
      obtain rfl := List.perm_singleton.1 perm
      change (decode? _).map Action.unknown = _
      rw [reads_uint32 _ _ h1, Option.map_some]
    | row record =>
      obtain rfl := ofFields_inj hw
      exact absurd rfl record
  | _ =>
    cases h
    rfl

theorem reads_controlOutput (shut : codeNames ∈ closed) : Reads closed ControlOutput := by
  intro o j h
  refine Layout.reads_write (l := controlOutputLayout) (by decide) rfl (fun vs hvs => ?_) h
  obtain _ | ⟨h1, _ | ⟨h2, _ | ⟨h3, _ | _⟩⟩⟩ := hvs
  simp [controlOutputLayout, reads_action shut _ _ h1, reads_uint32 _ _ h2, reads_int32 _ _ h3]

theorem reads_plan : Reads closed Calibration.Plan := by
  intro p j h
  refine Layout.reads_write (l := planLayout) (by decide) rfl (fun vs hvs => ?_) h
  obtain _ | ⟨h1, _ | ⟨h2, _ | _⟩⟩ := hvs
  simp [planLayout, reads_list reads_uint32 _ _ h1, reads_uint32 _ _ h2]

theorem reads_results : Reads closed Calibration.Results := by
  intro r j h
  refine Layout.reads_write (l := resultsLayout) (by decide) rfl (fun vs hvs => ?_) h
  obtain _ | ⟨h1, _ | _⟩ := hvs
  simp [resultsLayout, reads_list (reads_list reads_int64) _ _ h1]

theorem reads_polarity : Reads closed Polarity := reads_word decode?_encode_polarity nofun nofun

/-- A span is read if its object takes no further member. -/
theorem reads_span (shut : spanLayout.names ∈ closed) : Reads closed Span := by
  intro s j h
  have known : hasStrangers spanLayout.names j = false := hasStrangers_of_respelled shut rfl h
  change (if hasStrangers spanLayout.names j then none else spanLayout.read? j) = some s
  rw [known, if_neg Bool.false_ne_true]
  refine Layout.reads_write (l := spanLayout) (by decide) rfl (fun vs hvs => ?_) h
  obtain _ | ⟨h1, _ | ⟨h2, _ | _⟩⟩ := hvs
  simp [spanLayout, reads_uint64 _ _ h1, reads_uint32 _ _ h2, Span.ofParts?_self]

theorem reads_settings (shut : spanLayout.names ∈ closed) : Reads closed Settings := by
  intro s j h
  refine Layout.reads_write (l := settingsLayout) (by decide) rfl (fun vs hvs => ?_) h
  obtain _ | ⟨h1, _ | ⟨h2, _ | ⟨h3, _ | ⟨h4, _ | ⟨h5, _ | ⟨h6, _ | ⟨h7, _ | _⟩⟩⟩⟩⟩⟩⟩ := hvs
  simp [settingsLayout, reads_uint32 _ _ h1, reads_string _ _ h2, reads_polarity _ _ h3, reads_bool _ _ h4,
    reads_string _ _ h5, reads_span shut _ _ h6, reads_span shut _ _ h7]

/-! ## (4) Texts -/

def serialize {α : Type} [Coded α] (a : α) : String := render (encode a)

def deserialize? {α : Type} [Coded α] (s : String) : Option α := (read? s).bind decode?

/-- A value is read from its own text, and from every text that respells it. -/
def Recovered (closed : List (List String)) (α : Type) [Coded α] : Prop :=
  ∀ a : α, deserialize? (serialize a) = some a ∧
    ∀ j, Respelled closed (encode a) j →
      deserialize? (render j) = some a ∧ ∀ s, read? s = some j → deserialize? s = some a

theorem recovered_of_reads {α : Type} [Coded α] (h : Reads closed α) : Recovered closed α := by
  have read : ∀ (a : α) j s, Respelled closed (encode a) j → read? s = some j → deserialize? s = some a := by
    intro a j s hj hs
    rw [deserialize?, hs, Option.bind_some, h a j hj]
  intro a
  exact ⟨read a _ _ (.same _) (read?_render _), fun j hj => ⟨read a j _ hj (read?_render j), fun s hs => read a j s hj hs⟩⟩

/-- The objects that take no further member: those of spans, and those around an action's code. -/
def shut : List (List String) := [spanLayout.names, codeNames]

/-- Every record is read from its own text, and from every text in which its objects have their fields in another order or
    fields of unknown names besides, or are the arrays of their fields. Spans and codes alone take no other fields. -/
theorem records_are_read_however_they_are_spelled :
    Recovered shut PhaseError ∧ Recovered shut ControlInput ∧ Recovered shut ControlOutput ∧ Recovered shut Action ∧
      Recovered shut Calibration.Plan ∧ Recovered shut Calibration.Results ∧ Recovered shut Polarity ∧
      Recovered shut Settings := by
  have spans : spanLayout.names ∈ shut := List.mem_cons_self
  have codes : codeNames ∈ shut := List.mem_cons_of_mem _ List.mem_cons_self
  exact ⟨recovered_of_reads reads_phaseError, recovered_of_reads reads_controlInput,
    recovered_of_reads (reads_controlOutput codes), recovered_of_reads (reads_action codes), recovered_of_reads reads_plan,
    recovered_of_reads reads_results, recovered_of_reads reads_polarity, recovered_of_reads (reads_settings spans)⟩

/-- An input from its last field to its first, an unknown one before them, with the phase as an array. -/
def backwardInput : Json :=
  ofFields [("x", .null), ("coarse_setpoint", .int 5), ("fine_setpoint", .int 4), ("qerr", .int (-3)),
    ("temperature", .int 2), ("lock", .bool false), ("valid", .bool true),
    ("phase_error", .array [.int (-1), .int 999999999])]

theorem an_input_is_read_backward :
    let input : ControlInput := ⟨⟨-1, 999999999⟩, true, false, 2, -3, 4, 5⟩
    Respelled shut (encode input) backwardInput ∧ deserialize? (render backwardInput) = some input := by
  intro input
  have phase : Respelled shut (encode input.phase) (.array [.int (-1), .int 999999999]) :=
    .row (by decide) (.cons (.same _) (.cons (.same _) .nil))
  have strange : ∀ f ∈ [("x", Json.null)],
      f.1 ∉ (controlInputLayout.names.zip (controlInputLayout.values input)).map (·.1) := by decide
  have spelled : Respelled shut (encode input) backwardInput :=
    .members (.cons phase (List.forall₂_same.2 fun v _ => .same v)) strange (.inr (by decide)) (List.reverse_perm _).symm
  exact ⟨spelled, ((records_are_read_however_they_are_spelled.2.1 input).2 _ spelled).1⟩

/-- The standard settings, with a field too many in the longest wait for an edge. -/
def strangeSettings : Json :=
  ofFields [("turns", .int 0), ("pps_device", .str ""), ("polarity", .str "Normal"), ("debug", .bool false),
    ("libod_config_path", .str ""), ("pps_timeout", ofFields [("secs", .int 4), ("nanos", .int 0), ("x", .int 1)]),
    ("cycle_delay", ofFields [("secs", .int 5), ("nanos", .int 0)])]

def strangeAction : Json := ofFields [("Unknown", .int 5), ("x", .int 1)]

/-- If every object took further members, these would be respellings. They are not read. -/
theorem an_unknown_field_of_a_span_is_refused :
    (Respelled [] (encode Settings.standard) strangeSettings ∧
      (deserialize? (render strangeSettings) : Option Settings) = none) ∧
    Respelled [] (encode (Action.unknown 5)) strangeAction ∧
      (deserialize? (render strangeAction) : Option Action) = none := by
  have settings : Respelled [] (encode Settings.standard) strangeSettings := by
    have strange : ∀ f ∈ [("x", Json.int 1)],
        f.1 ∉ (spanLayout.names.zip (spanLayout.values Settings.standard.ppsTimeout)).map (·.1) := by decide
    have wait : Respelled [] (encode Settings.standard.ppsTimeout)
        (ofFields [("secs", .int 4), ("nanos", .int 0), ("x", .int 1)]) :=
      .members (.cons (.same _) (.cons (.same _) .nil)) strange (.inr List.not_mem_nil) (.refl _)
    have values : List.Forall₂ (Respelled []) (settingsLayout.values Settings.standard) _ :=
      .cons (.same _) (.cons (.same _) (.cons (.same _) (.cons (.same _) (.cons (.same _) (.cons wait
        (.cons (.same _) .nil))))))
    exact .members values (List.forall_mem_nil _) (.inl rfl) (.refl _)
  have action : Respelled [] (encode (Action.unknown 5)) strangeAction := by
    have strange : ∀ f ∈ [("x", Json.int 1)], f.1 ∉ [("Unknown", encode (5 : UInt32))].map (·.1) := by decide
    exact .members (.cons (.same _) .nil) strange (.inr List.not_mem_nil) (.refl _)
  refine ⟨⟨settings, ?_⟩, action, ?_⟩
  all_goals
    rw [deserialize?, read?_render, Option.bind_some]
    rfl

end ClockDiscipline.Json
