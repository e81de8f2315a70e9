/-
  ClockDiscipline.LogFilter — which entries are shown.

  A filter is a list of directives between commas. A directive is a level for everything,
  or a target with a level behind `=`, or a selector in square brackets between the two:

      debug      oscillatord=info      oscillatord[{message}]=debug

  A target stands for all targets that start with it, and alone it shows everything. A
  selector can name a span or fields of an entry. Of the directives that fit an entry the
  one with the longest target decides, then the one with more fields, then the later one;
  where none fits the entry is not shown. A text that is no filter is none.

  Where a directive has its parts is counted in bytes without the blanks around it, but
  they are taken from the whole piece between the commas: blanks in front shift every
  part, and blanks behind belong to the last one.
-/

import ClockDiscipline.Journal
import ClockDiscipline.Number.Decimal
import ClockDiscipline.Number.FloatText
import ClockDiscipline.Pattern.Reader
import ClockDiscipline.Text.Bytes

namespace ClockDiscipline

namespace LogFilter

/-- What fits is shown up to rank `rank`. -/
structure Directive where
  /-- Start of the targets that fit. -/
  target : String
  /-- Fields that an entry needs to fit. -/
  fields : List String
  /-- Whether only what is told inside of a span fits. -/
  inSpan : Bool
  rank : Nat
  deriving DecidableEq, Repr

/-- A level by its rank or by its name in any case. -/
def rank? (text : List Char) : Option Nat :=
  match Decimal.integer? false text with
  | some n => if n ≤ 5 then some n.toNat else none
  | none =>
    match String.ofList (text.map Char.toLower) with
    | "off" => some 0
    | "error" => some 1
    | "warn" => some 2
    | "info" => some 3
    | "debug" => some 4
    | "trace" => some 5
    | _ => none

/-- The level behind `=`; nothing there shows everything. -/
def levelRank? (text : List Char) : Option Nat := if text.isEmpty then some 5 else rank? text

/-- Whether a directive without a selector in front can start so. -/
def startsTarget (c : Char) : Bool := Text.isAlphanumeric c || c == '-' || c == ':' || c == '_'

/-- What follows a selector, at a position of the piece. -/
def withLevel? (piece : List Char) (d : Directive) (position : Nat) : List Char → Option Directive
  | [] => some d
  | '=' :: _ => do
    let rank ← levelRank? (← Text.dropBytes? (position + 1) piece)
    return { d with rank }
  | _ => none

/-- Whether the value of a field is a number or a pattern. -/
def isFieldValue (value : List Char) : Bool := (FloatText.read? (String.ofList value)).isSome || isPattern value

/-- A field of a selector. Values are looked at in spans only. -/
def withField? (d : Directive) (field : List Char) : Option Directive :=
  match Text.pieces '=' field with
  | _ :: value :: _ => if isFieldValue value then some { d with inSpan := true } else none
  | _ => some { d with fields := [String.ofList field] }

/-- The selector whose inside starts at a position of the piece. -/
def selector? (piece : List Char) (target : String) (start : Nat) (inside : List Char) : Option Directive := do
  let span := inside.takeWhile fun c => c != ']' && c != '\x7b'
  let stop := start + Text.byteSize span
  let _ ← Text.between? start stop piece
  match inside.drop span.length with
  | ']' :: rest => withLevel? piece ⟨target, [], true, 5⟩ (stop + 1) rest
  | '\x7b' :: rest =>
    let field := rest.takeWhile (· != '\x7d')
    let start := stop + 1
    let stop := start + Text.byteSize field
    match rest.drop field.length with
    | '\x7d' :: ']' :: rest =>
      if field.isEmpty then none
      else
        let d ← withField? ⟨target, [], !span.isEmpty, 5⟩ (← Text.between? start stop piece)
        withLevel? piece d (stop + 2) rest
    | _ => none
  | _ => none

/-- One piece between commas. -/
def directive? (piece : List Char) : Option Directive :=
  let inner := Text.trim piece
  match inner with
  | [] => none
  | '[' :: inside => selector? piece "" 1 inside
  | c :: _ =>
    if !startsTarget c then none
    else
      let front := inner.takeWhile fun c => c != '[' && c != '='
      let size := Text.byteSize front
      match inner.drop front.length with
      | [] =>
        match rank? piece with
        | some rank => some ⟨"", [], false, rank⟩
        | none => some ⟨String.ofList piece, [], false, 5⟩
      | mark :: rest => do
        let target := String.ofList (← Text.takeBytes? size piece)
        if mark = '=' then
          let rank ← levelRank? (← Text.dropBytes? (size + 1) piece)
          return ⟨target, [], false, rank⟩
        else selector? piece target (size + 1) rest

/-- Entries have a message and no other field, and are told outside of any span. -/
def Directive.fits (d : Directive) (e : Entry) : Bool :=
  !d.inSpan && d.target.toList.isPrefixOf e.topic.target.toList && d.fields.all (· == "message")

/-- Whether a directive gives way to another that fits too. -/
def Directive.yields (d other : Directive) : Bool :=
  d.target.length < other.target.length ||
    d.target.length == other.target.length && d.fields.length ≤ other.fields.length

end LogFilter

structure LogFilter where
  directives : List LogFilter.Directive
  deriving DecidableEq, Repr

namespace LogFilter

/-- Everything up to a level. -/
def upTo (level : Level) : LogFilter := ⟨[⟨"", [], false, level.rank⟩]⟩

instance : Inhabited LogFilter := ⟨upTo .info⟩

/-- Pieces without a character are left out, so that a text of commas shows nothing. -/
def parse? (text : String) : Option LogFilter :=
  (((Text.pieces ',' text.toList).filter fun piece => !piece.isEmpty).mapM directive?).map LogFilter.mk

/-- The directive that decides about an entry. -/
def deciding? (f : LogFilter) (e : Entry) : Option Directive :=
  (f.directives.filter (·.fits e)).foldl (fun best d =>
    match best with
    | some b => if b.yields d then some d else best
    | none => some d) none

def shows (f : LogFilter) (e : Entry) : Bool :=
  match f.deciding? e with
  | some d => decide (e.level.rank ≤ d.rank)
  | none => false

end LogFilter

/-- The filter in force, and whether the environment chose it. -/
structure Verbosity where
  filter : LogFilter
  chosen : Bool
  deriving DecidableEq, Repr

namespace Verbosity

/-- Up to `info` unless the environment names a filter. -/
def ofEnvironment (text : Option String) : Verbosity :=
  match text.bind LogFilter.parse? with
  | some filter => ⟨filter, true⟩
  | none => ⟨.upTo .info, false⟩

/-- Show debug messages or not. A filter that the environment chose stays. -/
def showDebug (v : Verbosity) (debug : Bool) : Verbosity :=
  if v.chosen then v else ⟨.upTo (if debug then .debug else .info), false⟩

end Verbosity

end ClockDiscipline
