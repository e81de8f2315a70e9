/-
  ClockDiscipline.Config — flat settings, one `key=value` a line.

  A line is cut at its first `=` and blanks are taken off both parts. Blank lines, lines
  that start with `#` and lines without `=` say nothing. Of two lines with the same key
  the later one counts. Values are read as the type that the caller asks for; a value
  that does not read as that type is an error that names key and value.
-/

import ClockDiscipline.Error
import ClockDiscipline.Number.Scalar
import ClockDiscipline.Number.Word
import ClockDiscipline.Text.Blank

namespace ClockDiscipline

structure Config where
  /-- The file the settings were read from, empty if there is none. -/
  path : String
  /-- Keys and values, the latest line first. -/
  entries : List (String × String)
  deriving Repr, Inhabited

/-- Types that a value can be read as. -/
class Setting (α : Type) where
  read? : String → Option α

instance : Setting UInt32 where
  read? s := (Decimal.integer? false s.toList).bind uint32?

instance : Setting Int64 where
  read? s := (Decimal.integer? true s.toList).bind int64?

instance : Setting Bool where
  read? s :=
    if s = "true" ∨ s = "yes" ∨ s = "on" ∨ s = "1" then some true
    else if s = "false" ∨ s = "no" ∨ s = "off" ∨ s = "0" then some false
    else none

instance {R : Type} [Numeral R] : Setting R where
  read? := Numeral.read?

namespace Config

/-- What one line says. -/
def entry? (line : List Char) : Option (String × String) :=
  let line := Text.trim line
  if line.head? = some '#' then none
  else (Text.cutAt? '=' line).map fun p => (String.ofList (Text.trim p.1), String.ofList (Text.trim p.2))

/-- The settings that a text says, without a file of their own. -/
def parse (text : String) : Config := ⟨"", ((Text.pieces '\n' text.toList).filterMap entry?).reverse⟩

/-- The settings of a file, from what reading it gave. -/
def ofFile (path : String) : Except IoError String → Except Error Config
  | .ok text => .ok { parse text with path }
  | .error cause => .error (.configRead path cause)

def get? (c : Config) (key : String) : Option String := c.entries.lookup key

def getD (c : Config) (key fallback : String) : String := (c.get? key).getD fallback

/-- A value that has no sensible default. -/
def require (c : Config) (key : String) : Except Error String :=
  match c.get? key with
  | some value => .ok value
  | none => .error (.missingKey key c.path)

/-- A value read as `α`, or the fallback if the key is not there. -/
def valueD {α : Type} [Setting α] (c : Config) (key : String) (fallback : α) : Except Error α :=
  match c.get? key with
  | none => .ok fallback
  | some raw =>
    match Setting.read? raw with
    | some value => .ok value
    | none => .error (.invalidValue key raw)

/-- The comma-separated items of a value; blank items do not count. -/
def items (raw : String) : List (List Char) := ((Text.pieces ',' raw.toList).map Text.trim).filter fun item => !item.isEmpty

/-- A list of values, `none` if the key is not there. One bad item makes the whole value bad. -/
def list? (α : Type) [Setting α] (c : Config) (key : String) : Except Error (Option (List α)) :=
  match c.get? key with
  | none => .ok none
  | some raw =>
    match (items raw).mapM fun item => (Setting.read? (String.ofList item) : Option α) with
    | some values => .ok (some values)
    | none => .error (.invalidValue key raw)

end Config

end ClockDiscipline
