/-
  ClockDiscipline.Instant — moments in Universal Time, as shown lines begin with them.

  Days are counted from the first of March of the year 0, so that a leap day is the last
  day of its year. A fraction of a second shows as many groups of three digits as it
  needs.
-/

import ClockDiscipline.Number.Decimal

namespace ClockDiscipline

structure Instant where
  /-- Seconds since the start of 1970. -/
  secs : Nat
  nanos : Nat
  deriving DecidableEq, Repr

namespace Instant

/-- Days from the first of March of the year 0 to the start of 1970. -/
def epochDay : Nat := 719468

/-- Year, month and day of the day with this number. -/
def calendar (day : Nat) : Nat × Nat × Nat :=
  let era := day / 146097
  let inEra := day % 146097
  let year := (inEra - inEra / 1460 + inEra / 36524 - inEra / 146096) / 365
  let inYear := inEra - (365 * year + year / 4 - year / 100)
  let month := (5 * inYear + 2) / 153
  let date := inYear - (153 * month + 2) / 5 + 1
  if month < 10 then (era * 400 + year, month + 3, date) else (era * 400 + year + 1, month - 9, date)

def fraction (nanos : Nat) : String :=
  if nanos = 0 then ""
  else if nanos % 1000000 = 0 then "." ++ Decimal.zeroPadded 3 (nanos / 1000000 : Nat)
  else if nanos % 1000 = 0 then "." ++ Decimal.zeroPadded 6 (nanos / 1000 : Nat)
  else "." ++ Decimal.zeroPadded 9 nanos

def text (i : Instant) : String :=
  let (year, month, date) := calendar (i.secs / 86400 + epochDay)
  let s := i.secs % 86400
  Decimal.zeroPadded 4 year ++ "-" ++ Decimal.zeroPadded 2 month ++ "-" ++ Decimal.zeroPadded 2 date ++ "T" ++
    Decimal.zeroPadded 2 (s / 3600 : Nat) ++ ":" ++ Decimal.zeroPadded 2 (s / 60 % 60 : Nat) ++ ":" ++
    Decimal.zeroPadded 2 (s % 60 : Nat) ++ fraction i.nanos ++ "+00:00"

example : text ⟨951782400, 0⟩ = "2000-02-29T00:00:00+00:00" := by decide +kernel

example : text ⟨1735689599, 50000⟩ = "2024-12-31T23:59:59.000050+00:00" := by decide +kernel

end Instant

end ClockDiscipline
