/-
  ClockDiscipline.Json.Codec — values as JSON and back.

  This stands for the reading and writing that `serde` derives for the records, and assumes
  what its documentation says of it. A record is written as an object of its fields. It is
  read from an object in which each field occurs exactly once, in any order and among
  members of other names, or from the array of its fields in the order of their
  declaration. Integers are read from JSON integers within their range and from nothing
  else.

  Proved: (1) words and texts read back as they were written; (2) so do lists of what
  does; (3) and records whose parts are put together again from their fields.
-/

import ClockDiscipline.Json.Value
import ClockDiscipline.Number.Word

namespace ClockDiscipline

namespace Json

class Coded (α : Type) where
  encode : α → Json
  decode? : Json → Option α

export Coded (encode decode?)

def int? : Json → Option Int
  | .int n => some n
  | _ => none

instance : Coded Bool where
  encode := .bool
  decode?
    | .bool b => some b
    | _ => none

instance : Coded String where
  encode := .str
  decode?
    | .text (.plain s) => some s
    | _ => none

instance : Coded UInt16 where
  encode n := .int (n.toNat : Int)
  decode? j := (int? j).bind uint16?

instance : Coded UInt32 where
  encode n := .int (n.toNat : Int)
  decode? j := (int? j).bind uint32?

instance : Coded UInt64 where
  encode n := .int (n.toNat : Int)
  decode? j := (int? j).bind uint64?

instance : Coded Int32 where
  encode n := .int n.toInt
  decode? j := (int? j).bind int32?

instance : Coded Int64 where
  encode n := .int n.toInt
  decode? j := (int? j).bind int64?

instance {α : Type} [Coded α] : Coded (List α) where
  encode xs := .array (xs.map encode)
  decode?
    | .array items => items.mapM decode?
    | _ => none

/-! ## Records -/

/-- The value of the only member of this name. -/
def only? (members : List (Text × Json)) (name : String) : Option Json :=
  match members.filter fun m => m.1 = .plain name with
  | [m] => some m.2
  | _ => none

/-- The values of a record's fields in the order of `names`. -/
def fields? (names : List String) : Json → Option (List Json)
  | .array items => if items.length = names.length then some items else none
  | .object members => if members.any fun m => m.1 = .garbled then none else names.mapM (only? members)
  | _ => none

/-- Whether an object has members of other names. -/
def hasStrangers (names : List String) : Json → Bool
  | .object members => members.any fun m => !names.any fun name => m.1 = .plain name
  | _ => false

/-- How values of one type are taken apart into named fields and put together again. -/
structure Layout (α : Type) where
  names : List String
  values : α → List Json
  build? : List Json → Option α

namespace Layout

def write {α : Type} (l : Layout α) (a : α) : Json := .ofFields (l.names.zip (l.values a))

def read? {α : Type} (l : Layout α) (j : Json) : Option α := (fields? l.names j).bind l.build?

end Layout

/-- One of a few names. A name without a value is written as a text or as an object with a null. -/
def unitName? : Json → Option String
  | .text (.plain s) => some s
  | .object [(.plain s, .null)] => some s
  | _ => none

/-! ## (1) Words and texts -/

theorem decode?_encode_bool (b : Bool) : decode? (encode b) = some b := rfl

theorem decode?_encode_string (s : String) : decode? (encode s) = some s := rfl

theorem decode?_encode_uint16 (n : UInt16) : decode? (encode n) = some n := uint16?_toNat n

theorem decode?_encode_uint32 (n : UInt32) : decode? (encode n) = some n := uint32?_toNat n

theorem decode?_encode_uint64 (n : UInt64) : decode? (encode n) = some n := uint64?_toNat n

theorem decode?_encode_int32 (n : Int32) : decode? (encode n) = some n := int32?_toInt n

theorem decode?_encode_int64 (n : Int64) : decode? (encode n) = some n := int64?_toInt n

/-! ## (2) Lists -/

theorem decode?_encode_list {α : Type} [Coded α] (law : ∀ a : α, decode? (encode a) = some a) (xs : List α) :
    decode? (encode xs) = some xs := by
  change (xs.map encode).mapM decode? = some xs
  induction xs with
  | nil => rfl
  | cons a xs ih => simp [List.mapM_cons, law, ih]

/-! ## (3) Records -/

/-- A name that occurs once has its value. -/
theorem only?_eq_some {fields : List (String × Json)} (once : (fields.map (·.1)).Nodup) {name : String} {v : Json}
    (mem : (name, v) ∈ fields) : only? (fields.map fun f => (.plain f.1, f.2)) name = some v := by
  have key : (fields.filter fun f => f.1 = name) = [(name, v)] := by
    induction fields with
    | nil => cases mem
    | cons f fs ih =>
      rw [List.map_cons, List.nodup_cons] at once
      cases mem with
      | head =>
        rw [List.filter_cons_of_pos (by simp), List.filter_eq_nil_iff.2]
        intro g hg same
        have same : g.1 = name := by simpa using same
        exact once.1 (List.mem_map.2 ⟨g, hg, same⟩)
      | tail _ later =>
        rw [List.filter_cons_of_neg, ih once.2 later]
        intro same
        have same : f.1 = name := by simpa using same
        exact once.1 (List.mem_map.2 ⟨(name, v), later, same.symm⟩)
  unfold only?
  rw [List.filter_map]
  have same : ((fun m : Text × Json => decide (m.1 = .plain name)) ∘ fun f : String × Json => (.plain f.1, f.2)) =
      fun f => decide (f.1 = name) := by
    funext f; simp
  rw [same, key]
  rfl

/-- Fields of different names are found again. -/
theorem fields?_ofFields {names : List String} {values : List Json} (once : names.Nodup)
    (enough : names.length = values.length) : fields? names (.ofFields (names.zip values)) = some values := by
  have plain : ((names.zip values).map fun f => ((.plain f.1, f.2) : Text × Json)).any (fun m => m.1 = .garbled) = false := by
    simp
  have fst : (names.zip values).map (·.1) = names := List.map_fst_zip (by omega)
  have found : ∀ (ns : List String) (vs : List Json), ns.length = vs.length → (∀ f ∈ ns.zip vs, f ∈ names.zip values) →
      ns.mapM (only? ((names.zip values).map fun f => (.plain f.1, f.2))) = some vs := by
    intro ns
    induction ns with
    | nil =>
      intro vs len _
      cases vs with
      | nil => rfl
      | cons v vs => cases len
    | cons n ns ih =>
      intro vs len sub
      cases vs with
      | nil => cases len
      | cons v vs =>
        have head := only?_eq_some (fst.symm ▸ once) (sub (n, v) (by simp))
        have tail := ih vs (by simpa using len) fun f hf => sub f (by simp [hf])
        simp [List.mapM_cons, head, tail]
  unfold fields? ofFields
  simp only [plain]
  exact found names values enough fun f hf => hf

theorem Layout.read?_write {α : Type} (l : Layout α) (once : l.names.Nodup) (a : α)
    (enough : l.names.length = (l.values a).length) (back : l.build? (l.values a) = some a) :
    l.read? (l.write a) = some a := by
  rw [Layout.read?, Layout.write, fields?_ofFields once enough, Option.bind_some, back]

end Json

end ClockDiscipline
