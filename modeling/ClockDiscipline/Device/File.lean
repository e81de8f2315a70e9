/-
  ClockDiscipline.Device.File — the files that a run sees.

  A file is bytes, a pipe (a queue of bytes that someone else keeps open, so it is never
  at its end), a directory, or one of three standard devices. Files are found by their
  path from the working directory or from the root; a missing part, a part that is no
  directory and an overlong name fail as the system has them fail. The working directory
  has a name that no path can give: ways lead out of it, and back only to the root.
-/

import ClockDiscipline.IoError

namespace ClockDiscipline

inductive Node where
  | file (bytes : Array UInt8)
  | pipe (queue : List UInt8)
  | directory
  /-- Empty to read, takes anything. -/
  | null
  /-- Zeros to read, takes anything. -/
  | zero
  /-- Zeros to read, takes nothing. -/
  | full
  deriving DecidableEq, Repr, Inhabited

namespace Node

/-- Whether a reader finds something at once, be it the end. -/
def readable : Node → Bool
  | .pipe queue => !queue.isEmpty
  | _ => true

/-- Up to `n` bytes from an offset on, and what is left; nothing where a reader has to wait. -/
def read? (n offset : Nat) : Node → Option (List UInt8 × Node)
  | .file bytes => some ((bytes.extract offset (offset + n)).toList, .file bytes)
  | .pipe [] => none
  | .pipe queue => some (queue.take n, .pipe (queue.drop n))
  | .directory => some ([], .directory)
  | .null => some ([], .null)
  | .zero => some (List.replicate n 0, .zero)
  | .full => some (List.replicate n 0, .full)

/-- Write at an offset; a pipe takes the bytes at its end. -/
def write (offset : Nat) (data : List UInt8) : Node → Except IoError Node
  | .file bytes => .ok (.file (bytes.take offset ++ data ++ bytes.drop (offset + data.length)))
  | .pipe queue => .ok (.pipe (queue ++ data))
  | .full => .error (.os 28)
  | .directory => .error (.os 21)
  | node => .ok node

end Node

/-- Files by the parts of their path from the root, which is the part `/`. -/
structure Files where
  nodes : List (List String × Node)
  deriving Repr, Inhabited

namespace Files

/-- Where temporary files live. -/
def temporary : List String := ["/", "tmp"]

/-- The working directory. Its name has no character, so no part of a path names it. -/
def home : List String := temporary ++ [""]

/-- An empty working directory and the standard devices. -/
def standard : Files := ⟨[(["/"], .directory), (temporary, .directory), (home, .directory), (["/", "dev"], .directory),
  (["/", "dev", "null"], .null), (["/", "dev", "zero"], .zero), (["/", "dev", "full"], .full)]⟩

/-- The parts of a path between its slashes; empty parts do not count. -/
def parts (path : String) : List String := (path.splitOn "/").filter fun p => p != ""

/-- Where a path starts. -/
def origin (path : String) : List String := if path.toList.head? = some '/' then ["/"] else home

def node? (f : Files) (place : List String) : Option Node := f.nodes.lookup place

def put (f : Files) (place : List String) (n : Node) : Files :=
  ⟨(place, n) :: f.nodes.filter fun e => e.1 != place⟩

/-- Walk down the parts from a place; `.` stays and `..` goes back. -/
def walk (f : Files) (place : List String) : List String → Except IoError (List String)
  | [] => .ok place
  | part :: rest =>
    match f.node? place with
    | some .directory =>
      if part = "." then walk f place rest
      else if part = ".." then walk f (if place = ["/"] then place else place.dropLast) rest
      else if 255 < part.utf8ByteSize then .error (.os 36)
      else walk f (place ++ [part]) rest
    | some _ => .error (.os 20)
    | none => .error (.os 2)

/-- The place of an existing file. -/
def find (f : Files) (path : String) : Except IoError (List String × Node) := do
  if path = "" then throw (.os 2)
  if path.toList.contains '\x00' then throw (.custom .invalidInput "file name contained an unexpected NUL byte")
  if 4096 ≤ path.utf8ByteSize then throw (.os 36)
  let place ← f.walk (origin path) (parts path)
  match f.node? place with
  | none => throw (.os 2)
  | some .directory => return (place, .directory)
  | some n => if path.toList.getLast? = some '/' then throw (.os 20) else return (place, n)

/-- The whole text of a file. Nothing where it has no end. -/
def readText (f : Files) (path : String) : Option (Except IoError String) :=
  match f.find path with
  | .error e => some (.error e)
  | .ok (_, .file bytes) =>
    some (match String.fromUTF8? ⟨bytes⟩ with
      | some text => .ok text
      | none => .error (.custom .invalidData "stream did not contain valid UTF-8"))
  | .ok (_, .null) => some (.ok "")
  | .ok (_, .directory) => some (.error (.os 21))
  | .ok _ => none

/-- The bytes of a file, if it is one. -/
def bytes? (f : Files) (path : String) : Option (List UInt8) :=
  match f.find path with
  | .ok (_, .file bytes) => some bytes.toList
  | .ok (_, .pipe queue) => some queue
  | .ok (_, .null) => some []
  | _ => none

end Files

end ClockDiscipline
