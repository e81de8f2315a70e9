/-
  ClockDiscipline.Device.Channel — the character device that reports phase errors.

  Samples and shifts are four bytes each, least significant first. Reading and writing
  move one common position. A read that gives fewer bytes than a sample is a failure and
  never a sample; so is anything that is asked of a released channel.

  Proved: (1) a sample reads back as it was written (`decode_encode`).
-/

import ClockDiscipline.Device.File
import ClockDiscipline.Halt
import ClockDiscipline.Rig

namespace ClockDiscipline

/-- A device, and where its file is while it is open. -/
structure Channel where
  name : String
  handle : Option (List String × Nat)
  deriving DecidableEq, Repr, Inhabited

namespace Channel

/-- Four bytes, least significant first. -/
def encode (n : Int32) : List UInt8 :=
  let u := n.toUInt32.toNat
  [UInt8.ofNat (u % 256), UInt8.ofNat (u / 256 % 256), UInt8.ofNat (u / 65536 % 256), UInt8.ofNat (u / 16777216)]

def decode? : List UInt8 → Option Int32
  | [a, b, c, d] => some (UInt32.ofNat (a.toNat + b.toNat * 256 + c.toNat * 65536 + d.toNat * 16777216)).toInt32
  | _ => none

def released : IoError := .custom .notConnected "PPS device already closed"

def shortRead (n : Nat) : IoError :=
  .custom .unexpectedEof ("short read of " ++ Decimal.text n ++ " bytes from PPS device")

/-- Open a device for reading and writing. -/
def openAt (f : Files) (path : String) : Except IoError Channel :=
  match f.find path with
  | .error e => .error e
  | .ok (_, .directory) => .error (.os 21)
  | .ok (place, _) => .ok ⟨path, some (place, 0)⟩

/-- Whether a sample, or the end, is there to be read. -/
def ready (p : Channel) (f : Files) : Except IoError Bool :=
  match p.handle with
  | none => .error released
  | some (place, _) => .ok (((f.node? place).map Node.readable).getD true)

/-- Read one sample. Nothing where the reader has to wait. -/
def read? (p : Channel) (f : Files) : Option (Except IoError Int32 × Channel × Files) :=
  match p.handle with
  | none => some (.error released, p, f)
  | some (place, offset) =>
    match f.node? place with
    | none => some (.error (.os 9), p, f)
    | some node => (node.read? 4 offset).map fun r =>
      ((match decode? r.1 with
        | some n => .ok n
        | none => .error (shortRead r.1.length)),
        { p with handle := some (place, offset + r.1.length) }, f.put place r.2)

/-- Write a shift of the phase counter. -/
def shift (p : Channel) (f : Files) (ns : Int32) : Except IoError Unit × Channel × Files :=
  match p.handle with
  | none => (.error released, p, f)
  | some (place, offset) =>
    match f.node? place with
    | none => (.error (.os 9), p, f)
    | some node =>
      match node.write offset (encode ns) with
      | .error e => (.error e, p, f)
      | .ok node => (.ok (), { p with handle := some (place, offset + 4) }, f.put place node)

def release (p : Channel) : Channel := { p with handle := none }

section

variable {m : Type → Type} [Monad m] [MonadExceptOf Halt m]

/-- The device as a collaborator. A wait for a silent device ends by the signal that comes meanwhile, if one
    does, and else by its timeout; a read of a silent device ends only by a signal. `signalled` takes the
    signal that is under way, if there is one. -/
def source (name : String) (cell : Cell m Channel) (files : Cell m Files) (signalled : m Bool) : EdgeSource m where
  name := name
  wait _ := do
    match (← cell.get).ready (← files.get) with
    | .error e => return .error e
    | .ok true => return .ok .dataReady
    | .ok false => if ← signalled then return .ok .interrupted else return .ok .timeout
  read := do
    match (← cell.get).read? (← files.get) with
    | some (answer, p, f) =>
      cell.set p
      files.set f
      return answer
    | none => if ← signalled then return .error (.os 4) else throw .stalled
  shift ns := do
    let (answer, p, f) := (← cell.get).shift (← files.get) ns
    cell.set p
    files.set f
    return answer
  release := cell.modify Channel.release

end

/-! ## (1) Samples keep their value -/

theorem decode_encode (n : Int32) : decode? (encode n) = some n := by
  have h := n.toUInt32.toNat_lt
  simp only [encode, decode?, Option.some.injEq, UInt8.toNat_ofNat']
  have : n.toUInt32.toNat % 256 % 2 ^ 8 + n.toUInt32.toNat / 256 % 256 % 2 ^ 8 * 256 +
      n.toUInt32.toNat / 65536 % 256 % 2 ^ 8 * 65536 + n.toUInt32.toNat / 16777216 % 2 ^ 8 * 16777216 = n.toUInt32.toNat := by
    omega
  rw [this, UInt32.ofNat_toNat]
  rfl

end Channel

end ClockDiscipline
