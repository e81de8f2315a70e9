/-
  ClockDiscipline.Proofs.PipeSamples — samples that go through a pipe.

  A device that is opened on a pipe finds bytes in it, takes them off its front and adds the
  offsets that are written at its end, four bytes each time. It is waited for, read and
  written in any order, but for each read there is a wait before it that answered with a
  sample. Between any two calls the rest of the world may change as it likes.

  Bytes are samples one after another, with a rest at their end that may be too short for
  one. Without such a rest every write finds the pipe filled up to the end of a sample, and
  what was read and what is still in the pipe are together what was in it at first and what
  was written since. With it, and with nothing written, the last read is the one that comes
  upon the rest, and it fails.

  Proved: (1) any bytes are samples and a rest, in one way (`exists_samples`,
  `samples_unique`); (2) what a wait, a read and a shift do to the pipe (`wait_of_filled`,
  `wait_of_empty`, `read_of_filled`, `shift_of_holds`), and that a released device refuses
  every call from then on (`refuses_of_release`); (3) what each call keeps, and so a history
  of them (`follows_of_does`, `follows_of_history`); (4) a pipe gives back what was put in
  (`a_pipe_gives_back_what_was_put_in`).
-/

import ClockDiscipline.Device.Channel
import ClockDiscipline.Proofs.Answering
import ClockDiscipline.Proofs.Beside
import ClockDiscipline.Proofs.Linked
import Mathlib

namespace ClockDiscipline

/-! ## (1) Bytes -/

namespace Channel

/-- Any four bytes are those of a sample. -/
theorem exists_encode (a b c d : UInt8) : ∃ n, encode n = [a, b, c, d] := by
  have ha := a.toNat_lt
  have hb := b.toNat_lt
  have hc := c.toNat_lt
  have hd := d.toNat_lt
  generalize hk : a.toNat + b.toNat * 256 + c.toNat * 65536 + d.toNat * 16777216 = k
  refine ⟨(UInt32.ofNat k).toInt32, ?_⟩
  have hu : (UInt32.ofNat k).toInt32.toUInt32.toNat = k := UInt32.toNat_ofNat_of_lt' (by simp [UInt32.size]; omega)
  have h0 : k % 256 = a.toNat := by omega
  have h1 : k / 256 % 256 = b.toNat := by omega
  have h2 : k / 65536 % 256 = c.toNat := by omega
  have h3 : k / 16777216 = d.toNat := by omega
  simp only [encode, hu, h0, h1, h2, h3, UInt8.ofNat_toNat]

theorem length_flatMap_encode (samples : List Int32) : (samples.flatMap encode).length = 4 * samples.length := by
  induction samples with
  | nil => rfl
  | cons n samples ih =>
    rw [List.flatMap_cons, List.length_append, ih, List.length_cons, show (encode n).length = 4 from rfl]
    omega

/-- Bytes are samples one after another, and a rest too short for one more. -/
theorem exists_samples : ∀ bytes : List UInt8,
    ∃ (samples : List Int32) (rest : List UInt8), bytes = samples.flatMap encode ++ rest ∧ rest.length < 4
  | a :: b :: c :: d :: bytes => by
    obtain ⟨samples, rest, rfl, hr⟩ := exists_samples bytes
    obtain ⟨n, hn⟩ := exists_encode a b c d
    exact ⟨n :: samples, rest, by rw [List.flatMap_cons, hn]; rfl, hr⟩
  | [] => ⟨[], [], rfl, by decide⟩
  | [a] => ⟨[], [a], rfl, by simp⟩
  | [a, b] => ⟨[], [a, b], rfl, by simp⟩
  | [a, b, c] => ⟨[], [a, b, c], rfl, by simp⟩

/-- In one way only. -/
theorem samples_unique {samples samples' : List Int32} {rest rest' : List UInt8} (hr : rest.length < 4)
    (hr' : rest'.length < 4) (h : samples.flatMap encode ++ rest = samples'.flatMap encode ++ rest') :
    samples = samples' ∧ rest = rest' := by
  induction samples generalizing samples' with
  | nil =>
    cases samples' with
    | nil => exact ⟨rfl, h⟩
    | cons n samples' =>
      have hl := congrArg List.length h
      simp only [List.length_append, length_flatMap_encode, List.length_cons, List.length_nil] at hl
      omega
  | cons n samples ih =>
    cases samples' with
    | nil =>
      have hl := congrArg List.length h
      simp only [List.length_append, length_flatMap_encode, List.length_cons, List.length_nil] at hl
      omega
    | cons n' samples' =>
      rw [List.flatMap_cons, List.flatMap_cons, List.append_assoc, List.append_assoc] at h
      obtain ⟨hn, h⟩ := List.append_inj h rfl
      have hn : some n = some n' := by rw [← decode_encode n, hn, decode_encode]
      obtain ⟨rfl, rfl⟩ := ih h
      exact ⟨by rw [Option.some.inj hn], rfl⟩

theorem decode?_of_short : ∀ {rest : List UInt8}, rest.length < 4 → decode? rest = none
  | [], _ | [_], _ | [_, _], _ | [_, _, _], _ => rfl
  | _ :: _ :: _ :: _ :: _, h => by simp at h; omega

end Channel

/-! ## (2) Calls -/

theorem Files.node?_of_find {f : Files} {path : String} {place : List String} {n : Node}
    (h : f.find path = .ok (place, n)) : f.node? place = some n := by
  simp only [Files.find, bind, Except.bind, pure, Except.pure, throw, throwThe, MonadExceptOf.throw] at h
  split at h
  · cases h
  split at h
  · cases h
  split at h
  · cases h
  split at h
  · cases h
  · split at h
    · cases h
    · cases h
      assumption
    · split at h
      · cases h
      · cases h
        assumption

theorem Files.node?_put (f : Files) (place : List String) (n : Node) : (f.put place n).node? place = some n := by
  simp [Files.node?, Files.put]

/-- A device and the files that it works on. -/
structure Port where
  channel : Channel
  files : Files

namespace Port

variable {V : Type}

def channelSlot : Slot (Beside Port V) Channel where
  get w := w.own.channel
  set c w := { w with own := { w.own with channel := c } }

def filesSlot : Slot (Beside Port V) Files where
  get w := w.own.files
  set f w := { w with own := { w.own with files := f } }

/-- The device as a collaborator. Signals come from the rest of the world. -/
def device (name : String) (signalled : Act V Bool) : EdgeSource (Act (Beside Port V)) :=
  Channel.source name channelSlot.cell filesSlot.cell (Beside.aside signalled)

/-- The device is open on a pipe with these bytes in it. -/
structure Holds (place : List String) (queue : List UInt8) (p : Port) : Prop where
  opened : ∃ offset, p.channel.handle = some (place, offset)
  queued : p.files.node? place = some (.pipe queue)

/-- What a read makes of the bytes that it gets. -/
def reading (bytes : List UInt8) : Except IoError Int32 :=
  match Channel.decode? bytes with
  | some n => .ok n
  | none => .error (Channel.shortRead bytes.length)

/-- Whatever is asked of the device fails. -/
def Refuses (pps : EdgeSource (Act (Beside Port V))) (p : Port) : Prop :=
  ∃ e : IoError, e.isTransient = false ∧ ∀ x, (∀ t, pps.wait t ⟨p, x⟩ = .ok (.error e) ⟨p, x⟩) ∧
    pps.read ⟨p, x⟩ = .ok (.error e) ⟨p, x⟩ ∧ ∀ ns, pps.shift ns ⟨p, x⟩ = .ok (.error e) ⟨p, x⟩

section

variable {name : String} {signalled : Act V Bool} {place : List String} {queue : List UInt8} {p : Port}

theorem wait_eq (t : Span) (x : V) : (device name signalled).wait t ⟨p, x⟩ =
    (match p.channel.ready p.files with
      | .error e => pure (.error e)
      | .ok true => pure (.ok .dataReady)
      | .ok false => do if ← Beside.aside signalled then return .ok .interrupted else return .ok .timeout :
        Act (Beside Port V) (Except IoError EdgeEvent)) ⟨p, x⟩ :=
  rfl

theorem read_of_some {answer : Except IoError Int32} {c : Channel} {f : Files}
    (h : p.channel.read? p.files = some (answer, c, f)) (x : V) :
    (device name signalled).read ⟨p, x⟩ = .ok answer ⟨⟨c, f⟩, x⟩ := by
  refine (Act.bind_of_ok rfl _).trans ((Act.bind_of_ok rfl _).trans ?_)
  rw [show channelSlot.get (⟨p, x⟩ : Beside Port V) = p.channel from rfl,
    show filesSlot.get (⟨p, x⟩ : Beside Port V) = p.files from rfl, h]
  rfl

theorem shift_eq (ns : Int32) (x : V) : (device name signalled).shift ns ⟨p, x⟩ =
    .ok (p.channel.shift p.files ns).1 ⟨⟨(p.channel.shift p.files ns).2.1, (p.channel.shift p.files ns).2.2⟩, x⟩ :=
  rfl

theorem ready_of_holds (h : Holds place queue p) : p.channel.ready p.files = .ok (!queue.isEmpty) := by
  obtain ⟨offset, ho⟩ := h.opened
  simp only [Channel.ready, ho, h.queued, Node.readable, Option.map_some, Option.getD_some]

theorem holds_put (p : Port) (offset : Nat) : Holds place queue
    ⟨{ p.channel with handle := some (place, offset) }, p.files.put place (.pipe queue)⟩ :=
  ⟨⟨offset, rfl⟩, Files.node?_put _ _ _⟩

/-- Bytes in the pipe end every wait. -/
theorem wait_of_filled (h : Holds place queue p) (hq : queue ≠ []) (t : Span) (x : V) :
    (device name signalled).wait t ⟨p, x⟩ = .ok (.ok .dataReady) ⟨p, x⟩ := by
  rw [wait_eq, ready_of_holds h, List.isEmpty_eq_false_iff.mpr hq]
  rfl

/-- A wait for an empty pipe leaves it alone, and ends without a sample. -/
theorem wait_of_empty (h : Holds place [] p) {t : Span} {x : V} {r : Except IoError EdgeEvent} {w : Beside Port V}
    (hw : (device name signalled).wait t ⟨p, x⟩ = .ok r w) : w.own = p ∧ r ≠ .ok .dataReady := by
  rw [wait_eq, ready_of_holds h] at hw
  obtain ⟨b, u, hb, hw⟩ := Act.bind_ok hw
  have hu := Beside.own_of_aside hb
  cases b
  all_goals
    cases hw
    exact ⟨hu, nofun⟩

theorem exists_wait_of_empty (hs : Act.Answers signalled) (h : Holds place [] p) (t : Span) (x : V) :
    ∃ r w, (device name signalled).wait t ⟨p, x⟩ = .ok r w := by
  obtain ⟨b, y, hb⟩ := hs x
  have hb : Beside.aside signalled (⟨p, x⟩ : Beside Port V) = .ok b ⟨p, y⟩ := Beside.aside_ok_iff.mpr ⟨hb, rfl⟩
  rw [wait_eq, ready_of_holds h]
  cases b
  all_goals exact ⟨_, _, Act.bind_of_ok hb _⟩

/-- A read takes up to four bytes off the front. -/
theorem read_of_filled (h : Holds place queue p) (hq : queue ≠ []) :
    ∃ q, Holds place (queue.drop 4) q ∧
      ∀ x : V, (device name signalled).read ⟨p, x⟩ = .ok (reading (queue.take 4)) ⟨q, x⟩ := by
  obtain ⟨offset, ho⟩ := h.opened
  obtain ⟨b, queue, rfl⟩ := List.exists_cons_of_ne_nil hq
  refine ⟨_, holds_put p (offset + ((b :: queue).take 4).length), fun x => read_of_some ?_ x⟩
  simp only [Channel.read?, ho, h.queued, Node.read?, Option.map_some]
  rfl

/-- An offset is written at the end. -/
theorem shift_of_holds (h : Holds place queue p) (ns : Int32) :
    ∃ q, Holds place (queue ++ Channel.encode ns) q ∧
      ∀ x : V, (device name signalled).shift ns ⟨p, x⟩ = .ok (.ok ()) ⟨q, x⟩ := by
  obtain ⟨offset, ho⟩ := h.opened
  refine ⟨_, holds_put p (offset + 4), fun x => ?_⟩
  rw [shift_eq]
  simp only [Channel.shift, ho, h.queued, Node.write]

/-- A released device. -/
theorem refuses_of_released (h : p.channel.handle = none) : Refuses (device name signalled) p := by
  refine ⟨Channel.released, rfl, fun x => ⟨fun t => ?_, ?_, fun ns => ?_⟩⟩
  · rw [wait_eq, Channel.ready, h]
    rfl
  · exact read_of_some (by rw [Channel.read?, h]) x
  · rw [shift_eq, Channel.shift, h]

end

/-! ## (3) Histories -/

/-- Samples one after another, and a rest that may be too short for one. -/
structure Stock where
  samples : List Int32
  rest : List UInt8

namespace Stock

def bytes (s : Stock) : List UInt8 := s.samples.flatMap Channel.encode ++ s.rest

/-- What reads make of them. -/
def readings (s : Stock) : List (Except IoError Int32) :=
  s.samples.map .ok ++ if s.rest = [] then [] else [reading s.rest]

/-- With more samples at the end. -/
def filled (s : Stock) (more : List Int32) : Stock := { s with samples := s.samples ++ more }

theorem filled_append (s : Stock) (more last : List Int32) : s.filled (more ++ last) = (s.filled more).filled last := by
  rw [filled, filled, filled, List.append_assoc]

theorem readings_of_whole {s : Stock} (h : s.rest = []) : s.readings = s.samples.map .ok := by
  rw [readings, if_pos h, List.append_nil]

theorem readings_eq_nil_iff {s : Stock} : s.readings = [] ↔ s.bytes = [] := by
  obtain ⟨samples, rest⟩ := s
  rcases samples with _ | ⟨n, samples⟩
  · by_cases hr : rest = [] <;> simp [readings, bytes, hr]
  · simp [readings, bytes, Channel.encode]

/-- The first four bytes are the first sample; where no sample is left, they are the rest. -/
theorem exists_next {s : Stock} (hs : s.bytes ≠ []) (hr : s.rest.length < 4) :
    ∃ s' : Stock, s.bytes.drop 4 = s'.bytes ∧ s.readings = reading (s.bytes.take 4) :: s'.readings ∧
      (s'.rest = [] ∨ s'.rest = s.rest) := by
  obtain ⟨samples, rest⟩ := s
  rcases samples with _ | ⟨n, samples⟩
  · have hn : rest ≠ [] := hs
    refine ⟨⟨[], []⟩, List.drop_eq_nil_of_le (Nat.le_of_lt hr), ?_, Or.inl rfl⟩
    show (if rest = [] then [] else [reading rest]) = [reading (rest.take 4)]
    rw [if_neg hn, List.take_of_length_le (Nat.le_of_lt hr)]
  · refine ⟨⟨samples, rest⟩, rfl, ?_, Or.inr rfl⟩
    have hn : reading (Channel.encode n) = .ok n := by rw [reading, Channel.decode_encode]
    rw [show (bytes ⟨n :: samples, rest⟩).take 4 = Channel.encode n from rfl, hn]
    rfl

/-- A sample more at the end, where nothing is in the way. -/
theorem filled_of_whole {s : Stock} (h : s.rest = []) (n : Int32) :
    (s.filled [n]).bytes = s.bytes ++ Channel.encode n ∧ (s.filled [n]).readings = s.readings ++ [.ok n] := by
  have h' : (s.filled [n]).rest = [] := h
  constructor
  · rw [bytes, bytes, h', h, List.append_nil, List.append_nil, filled, List.flatMap_append, List.flatMap_singleton]
  · rw [readings_of_whole h, readings_of_whole h', filled, List.map_append, List.map_singleton]

end Stock

/-- A call, with what came of it. -/
inductive Happening where
  | waited (timeout : Span) (r : Except IoError EdgeEvent)
  | read (r : Except IoError Int32)
  | shifted (ns : Int32) (r : Except IoError Unit)

namespace Happening

def answer? : Happening → Option (Except IoError Int32)
  | .read r => some r
  | _ => none

def offset? : Happening → Option Int32
  | .shifted ns (.ok ()) => some ns
  | _ => none

/-- Whether a read may come next, if one could before. -/
def readable (before : Bool) : Happening → Bool
  | .waited _ (.ok .dataReady) => true
  | .read _ => false
  | _ => before

end Happening

/-- What the reads answered. -/
def answers (hs : List Happening) : List (Except IoError Int32) := hs.filterMap Happening.answer?

/-- The offsets that were written. -/
def offsets (hs : List Happening) : List Int32 := hs.filterMap Happening.offset?

/-- Before every read there was a wait that answered with a sample, and no other read since. -/
def Heeds : (readable : Bool) → List Happening → Prop
  | _, [] => True
  | readable, h :: hs => (h.answer? ≠ none → readable = true) ∧ Heeds (h.readable readable) hs

/-- One call, with the rest of the world as it may be then. -/
inductive Does (pps : EdgeSource (Act (Beside Port V))) (p : Port) : Happening → Port → Prop where
  | waited {t r q x y} (h : pps.wait t ⟨p, x⟩ = .ok r ⟨q, y⟩) : Does pps p (.waited t r) q
  | read {r q x y} (h : pps.read ⟨p, x⟩ = .ok r ⟨q, y⟩) : Does pps p (.read r) q
  | shifted {ns r q x y} (h : pps.shift ns ⟨p, x⟩ = .ok r ⟨q, y⟩) : Does pps p (.shifted ns r) q

/-- What a pipe still holds that held one stock at first and has this history. -/
structure Follows (place : List String) (first : Stock) (hs : List Happening) (readable : Bool) (p : Port) (s : Stock) :
    Prop where
  holds : Holds place s.bytes p
  rest : s.rest = [] ∨ s.rest = first.rest
  /-- What was read and what can still be read. -/
  balance : answers hs ++ s.readings = (first.filled (offsets hs)).readings
  filled : readable = true → s.bytes ≠ []

section

variable {name : String} {signalled : Act V Bool} {place : List String} {first s : Stock} {hs : List Happening}
  {h : Happening} {readable : Bool} {p q : Port}

theorem answers_concat (hs : List Happening) (h : Happening) : answers (hs ++ [h]) = answers hs ++ h.answer?.toList :=
  filterMap_concat _ _ _

theorem offsets_concat (hs : List Happening) (h : Happening) : offsets (hs ++ [h]) = offsets hs ++ h.offset?.toList :=
  filterMap_concat _ _ _

theorem Follows.short (hf : Follows place first hs readable p s) (hr : first.rest.length < 4) : s.rest.length < 4 := by
  rcases hf.rest with h | h
  · rw [h]
    decide
  · rwa [h]

/-- A wait changes nothing, and answers with a sample only if something can be read. -/
theorem follows_of_waited (hf : Follows place first hs readable p s) {t : Span} {r : Except IoError EdgeEvent} {x : V}
    {w : Beside Port V} (hd : (device name signalled).wait t ⟨p, x⟩ = .ok r w) :
    Follows place first (hs ++ [.waited t r]) ((Happening.waited t r).readable readable) w.own s := by
  have hwr : w.own = p ∧ (r = .ok .dataReady → s.bytes ≠ []) := by
    by_cases he : s.bytes = []
    · obtain ⟨hw, hr⟩ := wait_of_empty (he ▸ hf.holds) hd
      exact ⟨hw, fun h => absurd h hr⟩
    · rw [wait_of_filled hf.holds he] at hd
      cases hd
      exact ⟨rfl, fun _ => he⟩
  obtain ⟨hw, hr⟩ := hwr
  rw [hw]
  refine ⟨hf.holds, hf.rest, ?_, ?_⟩
  · rw [answers_concat, offsets_concat]
    simpa [Happening.answer?, Happening.offset?] using hf.balance
  · rcases r with e | (_ | _ | _)
    · exact hf.filled
    · exact fun _ => hr rfl
    · exact hf.filled
    · exact hf.filled

theorem follows_of_read (hf : Follows place first hs true p s) (hr : first.rest.length < 4) {r : Except IoError Int32}
    {x : V} {w : Beside Port V} (hd : (device name signalled).read ⟨p, x⟩ = .ok r w) :
    ∃ s', Follows place first (hs ++ [.read r]) false w.own s' := by
  have hs := hf.filled rfl
  obtain ⟨s', hb, hreadings, hrest⟩ := Stock.exists_next hs (hf.short hr)
  obtain ⟨q, hq, hd'⟩ := read_of_filled hf.holds hs
  rw [hd' x] at hd
  cases hd
  refine ⟨s', hb ▸ hq, ?_, ?_, nofun⟩
  · rcases hrest with h | h
    · exact Or.inl h
    · rw [h]
      exact hf.rest
  · rw [answers_concat, offsets_concat]
    simpa [Happening.answer?, Happening.offset?, hreadings] using hf.balance

theorem follows_of_shifted (hf : Follows place first hs readable p s) (hw : first.rest = []) {ns : Int32}
    {r : Except IoError Unit} {x : V} {w : Beside Port V} (hd : (device name signalled).shift ns ⟨p, x⟩ = .ok r w) :
    Follows place first (hs ++ [.shifted ns r]) readable w.own (s.filled [ns]) := by
  obtain ⟨q, hq, hd'⟩ := shift_of_holds hf.holds ns
  rw [hd' x] at hd
  cases hd
  have hsw : s.rest = [] := hf.rest.elim id (·.trans hw)
  obtain ⟨hbytes, hreadings⟩ := Stock.filled_of_whole hsw ns
  refine ⟨hbytes ▸ hq, Or.inl hsw, ?_, fun _ => ?_⟩
  · have hfirst := (Stock.filled_of_whole (s := first.filled (offsets hs)) hw ns).2
    rw [answers_concat, offsets_concat, hreadings]
    simp only [Happening.answer?, Happening.offset?, Option.toList_none, Option.toList_some, List.append_nil]
    rw [Stock.filled_append, hfirst, ← List.append_assoc, hf.balance]
  · rw [hbytes]
    exact List.append_ne_nil_of_right_ne_nil _ nofun

/-- Where a rest is too short for a sample, nothing may be written behind it. -/
theorem follows_of_does (hf : Follows place first hs readable p s) (hr : first.rest.length < 4)
    (hw : first.rest = [] ∨ h.offset? = none) (hh : h.answer? ≠ none → readable = true)
    (hd : Does (device name signalled) p h q) : ∃ s', Follows place first (hs ++ [h]) (h.readable readable) q s' := by
  cases hd with
  | waited hd => exact ⟨s, follows_of_waited hf hd⟩
  | read hd =>
    cases hh nofun
    exact follows_of_read hf hr hd
  | @shifted ns r _ x y hd =>
    rcases hw with hw | hw
    · exact ⟨_, follows_of_shifted hf hw hd⟩
    · -- A write does not fail, so that one that wrote nothing is none.
      obtain ⟨q', -, hd'⟩ := shift_of_holds hf.holds ns
      rw [hd' x] at hd
      cases hd
      cases hw

theorem follows_of_history {more : List Happening} (hf : Follows place first hs readable p s)
    (hr : first.rest.length < 4) (hw : first.rest = [] ∨ ∀ h ∈ more, h.offset? = none) (hh : Heeds readable more)
    (hd : Linked (Does (device name signalled)) p more q) :
    ∃ readable s', Follows place first (hs ++ more) readable q s' := by
  -- What happens next belongs to the history of the rest.
  induction hd generalizing hs readable s with
  | nil p =>
    rw [List.append_nil]
    exact ⟨readable, s, hf⟩
  | @cons p u q h more hd _ ih =>
    rw [List.forall_mem_cons] at hw
    obtain ⟨s', hf⟩ := follows_of_does hf hr (hw.imp_right And.left) hh.1 hd
    obtain ⟨readable, s', hf⟩ := ih hf (hw.imp_right And.right) hh.2
    rw [List.append_assoc] at hf
    exact ⟨readable, s', hf⟩

end

/-! ## (4) The device -/

/-- How a device answers that has this history, where these are all the answers to its reads up to now and from now on,
    if nothing more is written. -/
structure Delivers (pps : EdgeSource (Act (Beside Port V))) (due : List (Except IoError Int32)) (hs : List Happening)
    (p : Port) : Prop where
  /-- In their order, none left out and none twice. -/
  reads : answers hs <+: due
  /-- A wait ends with a sample as long as there is something to read. -/
  wait : ∀ t x, ∃ r y, pps.wait t ⟨p, x⟩ = .ok r ⟨p, y⟩ ∧ (r = .ok .dataReady ↔ answers hs ≠ due)
  read : answers hs ≠ due → ∃ r q, answers hs ++ [r] <+: due ∧ ∀ x, pps.read ⟨p, x⟩ = .ok r ⟨q, x⟩
  shift : ∀ ns, ∃ q, ∀ x, pps.shift ns ⟨p, x⟩ = .ok (.ok ()) ⟨q, x⟩

section

variable {name : String} {signalled : Act V Bool} {place : List String} {first s : Stock} {hs : List Happening}
  {readable : Bool} {p : Port}

theorem delivers_of_follows (ha : Act.Answers signalled) (hf : Follows place first hs readable p s)
    (hr : first.rest.length < 4) : Delivers (device name signalled) (first.filled (offsets hs)).readings hs p := by
  have hleft : answers hs ≠ (first.filled (offsets hs)).readings ↔ s.bytes ≠ [] := by
    rw [← hf.balance, ne_eq, List.self_eq_append_right, Stock.readings_eq_nil_iff]
  refine ⟨⟨_, hf.balance⟩, fun t x => ?_, fun hn => ?_, fun ns => ?_⟩
  · rw [hleft]
    by_cases he : s.bytes = []
    · have hp := he ▸ hf.holds
      obtain ⟨r, w, hw⟩ : ∃ r w, (device name signalled).wait t ⟨p, x⟩ = .ok r w := exists_wait_of_empty ha hp t x
      obtain ⟨hown, hnot⟩ := wait_of_empty hp hw
      exact ⟨r, w.others, hown ▸ hw, iff_of_false hnot fun h => h he⟩
    · exact ⟨_, x, wait_of_filled hf.holds he t x, iff_of_true rfl he⟩
  · have hb := hleft.mp hn
    obtain ⟨s', -, hreadings, -⟩ := Stock.exists_next hb (hf.short hr)
    obtain ⟨q, -, hq⟩ := read_of_filled hf.holds hb
    refine ⟨_, q, ⟨s'.readings, ?_⟩, hq⟩
    rw [← hf.balance, hreadings, List.append_assoc]
    rfl
  · obtain ⟨q, -, hq⟩ := shift_of_holds hf.holds ns
    exact ⟨q, hq⟩

/-- A device that refuses all calls is not moved by them. -/
theorem eq_of_refuses {pps : EdgeSource (Act (Beside Port V))} {h : Happening} {q : Port} (hp : Refuses pps p)
    (hd : Does pps p h q) : q = p := by
  obtain ⟨e, -, hp⟩ := hp
  cases hd with
  | @waited t r _ x y hd =>
    rw [(hp x).1 t] at hd
    cases hd
    rfl
  | @read r _ x y hd =>
    rw [(hp x).2.1] at hd
    cases hd
    rfl
  | @shifted ns r _ x y hd =>
    rw [(hp x).2.2 ns] at hd
    cases hd
    rfl

theorem refuses_of_history {pps : EdgeSource (Act (Beside Port V))} {more : List Happening} {q : Port}
    (hp : Refuses pps p) (hd : Linked (Does pps) p more q) : Refuses pps q := by
  induction hd with
  | nil p => exact hp
  | cons h _ ih => exact ih (eq_of_refuses hp h ▸ hp)

/-- A release leaves the device released, and so it stays. -/
theorem refuses_of_release (p : Port) : ∃ q, (∀ x, (device name signalled).release ⟨p, x⟩ = .ok () ⟨q, x⟩) ∧
    ∀ more q', Linked (Does (device name signalled)) q more q' → Refuses (device name signalled) q' :=
  ⟨{ p with channel := p.channel.release }, fun _ => rfl, fun _ _ => refuses_of_history (refuses_of_released rfl)⟩

/-- A pipe of samples gives back these and the offsets that are written, each once and in this order. One with a rest that
    is too short for a sample gives back its samples, if nothing is written, and then fails one read. A released device
    refuses everything. -/
theorem a_pipe_gives_back_what_was_put_in (ha : Act.Answers signalled) {f : Files} {path : String} {bytes : List UInt8}
    (hf : f.find path = .ok (place, .pipe bytes)) :
    ∃ (opened : Channel) (samples : List Int32) (rest : List UInt8), Channel.openAt f path = .ok opened ∧
      bytes = samples.flatMap Channel.encode ++ rest ∧ rest.length < 4 ∧
      (4 ∣ bytes.length → ∀ hs p, Heeds false hs → Linked (Does (device path signalled)) ⟨opened, f⟩ hs p →
        Delivers (device path signalled) ((samples ++ offsets hs).map .ok) hs p) ∧
      (¬4 ∣ bytes.length → ∃ e : IoError, e.kindOf = .unexpectedEof ∧ e.isTransient = false ∧
        ∀ hs p, offsets hs = [] → Heeds false hs → Linked (Does (device path signalled)) ⟨opened, f⟩ hs p →
          Delivers (device path signalled) (samples.map .ok ++ [.error e]) hs p) ∧
      ∀ p, ∃ q, (∀ x, (device path signalled).release ⟨p, x⟩ = .ok () ⟨q, x⟩) ∧
        ∀ more q', Linked (Does (device path signalled)) q more q' → Refuses (device path signalled) q' := by
  obtain ⟨samples, rest, hbytes, hrest⟩ := Channel.exists_samples bytes
  have hlen : bytes.length = 4 * samples.length + rest.length := by
    rw [hbytes, List.length_append, Channel.length_flatMap_encode]
  have hopen : Channel.openAt f path = .ok ⟨path, some (place, 0)⟩ := by rw [Channel.openAt, hf]
  let first : Stock := ⟨samples, rest⟩
  have hfirst : Follows place first [] false ⟨⟨path, some (place, 0)⟩, f⟩ first := by
    refine ⟨⟨⟨0, rfl⟩, ?_⟩, Or.inr rfl, ?_, nofun⟩
    · rw [Files.node?_of_find hf, hbytes]
      rfl
    · show first.readings = Stock.readings ⟨samples ++ [], rest⟩
      rw [List.append_nil]
  refine ⟨_, samples, rest, hopen, hbytes, hrest, fun h4 hs p hh hd => ?_, fun h4 => ?_, refuses_of_release⟩
  · have hr : rest = [] := List.length_eq_zero_iff.mp (by omega)
    obtain ⟨_, _, hfol⟩ := follows_of_history hfirst hrest (Or.inl hr) hh hd
    have hdue := Stock.readings_of_whole (s := first.filled (offsets hs)) hr
    exact hdue ▸ delivers_of_follows ha hfol hrest
  · have hr : rest ≠ [] := fun h => h4 (by rw [hlen, h]; exact Nat.dvd_mul_right 4 _)
    refine ⟨Channel.shortRead rest.length, rfl, rfl, fun hs p hw hh hd => ?_⟩
    have hnone : ∀ h ∈ hs, h.offset? = none := List.filterMap_eq_nil_iff.mp hw
    obtain ⟨_, _, hfol⟩ := follows_of_history hfirst hrest (Or.inr hnone) hh hd
    have hdue : (first.filled (offsets hs)).readings = samples.map .ok ++ [.error (Channel.shortRead rest.length)] := by
      rw [show offsets hs = [] from hw, Stock.filled, List.append_nil, Stock.readings, if_neg hr, reading,
        Channel.decode?_of_short hrest]
    exact hdue ▸ delivers_of_follows ha hfol hrest

end

/-- A pipe in the working directory. -/
def piped (bytes : List UInt8) : Files := Files.standard.put (Files.home ++ ["pps"]) (.pipe bytes)

/-- A signal may be waiting, which the next wait in vain takes. -/
def pending : Act Bool Bool := fun signal => .ok signal false

/-- One sample of 7 ns and an offset written before it was read; and one of 7 ns with a byte too much. -/
theorem the_least_offset_is_read_after_a_sample :
    (∃ p, Linked (Does (device "pps" pending)) ⟨⟨"pps", some (Files.home ++ ["pps"], 0)⟩, piped [7, 0, 0, 0]⟩
        [.shifted Int32.minValue (.ok ()), .waited .zero (.ok .dataReady), .read (.ok 7)] p ∧
      Delivers (device "pps" pending) [.ok 7, .ok Int32.minValue]
        [.shifted Int32.minValue (.ok ()), .waited .zero (.ok .dataReady), .read (.ok 7)] p) ∧
    ∃ p e, Linked (Does (device "pps" pending)) ⟨⟨"pps", some (Files.home ++ ["pps"], 0)⟩, piped [7, 0, 0, 0, 9]⟩
        [.waited .zero (.ok .dataReady), .read (.ok 7)] p ∧ IoError.kindOf e = .unexpectedEof ∧
      Delivers (device "pps" pending) [.ok 7, .error e] [.waited .zero (.ok .dataReady), .read (.ok 7)] p := by
  have ha : Act.Answers pending := fun signal => ⟨signal, false, rfl⟩
  have hf : ∀ bytes, (piped bytes).find "pps" = .ok (Files.home ++ ["pps"], .pipe bytes) := fun bytes => by
    cbv
  constructor
  · obtain ⟨opened, samples, rest, hopen, hbytes, hrest, hwhole, -⟩ :=
      a_pipe_gives_back_what_was_put_in ha (hf [7, 0, 0, 0])
    obtain ⟨rfl, -⟩ : [7] = samples ∧ [] = rest := Channel.samples_unique (by decide) hrest hbytes
    rw [Channel.openAt, hf] at hopen
    cases hopen
    have hd : Linked (Does (device "pps" pending)) ⟨⟨"pps", some (Files.home ++ ["pps"], 0)⟩, piped [7, 0, 0, 0]⟩
        [.shifted Int32.minValue (.ok ()), .waited .zero (.ok .dataReady), .read (.ok 7)] _ :=
      .cons (.shifted (x := false) (y := false) rfl) (.cons (.waited (x := true) (y := true) rfl)
        (.cons (.read (x := false) (y := false) rfl) (.nil _)))
    exact ⟨_, hd, hwhole (by decide) _ _ (by simp [Heeds, Happening.answer?, Happening.readable]) hd⟩
  · obtain ⟨opened, samples, rest, hopen, hbytes, hrest, -, hstray, -⟩ :=
      a_pipe_gives_back_what_was_put_in ha (hf [7, 0, 0, 0, 9])
    obtain ⟨rfl, -⟩ : [7] = samples ∧ [9] = rest := Channel.samples_unique (by decide) hrest hbytes
    rw [Channel.openAt, hf] at hopen
    cases hopen
    obtain ⟨e, he, -, hstray⟩ := hstray (by decide)
    have hd : Linked (Does (device "pps" pending)) ⟨⟨"pps", some (Files.home ++ ["pps"], 0)⟩, piped [7, 0, 0, 0, 9]⟩
        [.waited .zero (.ok .dataReady), .read (.ok 7)] _ :=
      .cons (.waited (x := true) (y := true) rfl) (.cons (.read (x := false) (y := false) rfl) (.nil _))
    exact ⟨_, e, hd, he, hstray _ _ rfl (by simp [Heeds, Happening.answer?, Happening.readable]) hd⟩

end Port

end ClockDiscipline
