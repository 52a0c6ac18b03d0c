import EscapeAudit.Decimal.Fixed

/-!
# Instants

A point in time is a number of nanoseconds since the beginning of 1970.  Its text is the date and
the time of day in universal time.  The fraction of the second has as many groups of three digits
as it needs.
-/

namespace EscapeAudit.Command

/-- A number of nanoseconds since the beginning of 1970. -/
structure Instant where
  /-- The number. -/
  nanos : Nat
  deriving DecidableEq, Repr

namespace Instant

/-- The whole seconds. -/
def seconds (i : Instant) : Nat := i.nanos / 1000000000

/-- The year, the month and the day.  Years are counted from March, so that the leap day comes last,
and in eras of 400 years, which all have the same number of days. -/
def date (i : Instant) : Nat × Nat × Nat :=
  let days := i.seconds / 86400 + 719468
  let era := days / 146097
  let dayOfEra := days % 146097
  let yearOfEra := (dayOfEra - dayOfEra / 1460 + dayOfEra / 36524 - dayOfEra / 146096) / 365
  let dayOfYear := dayOfEra - (365 * yearOfEra + yearOfEra / 4 - yearOfEra / 100)
  let monthFromMarch := (5 * dayOfYear + 2) / 153
  let day := dayOfYear - (153 * monthFromMarch + 2) / 5 + 1
  let month := if monthFromMarch < 10 then monthFromMarch + 3 else monthFromMarch - 9
  (yearOfEra + 400 * era + (if month ≤ 2 then 1 else 0), month, day)

/-- A number with leading zeros. -/
def digits (width n : Nat) : String := String.ofList (Decimal.padded width n)

/-- The date and the time of day to the second. -/
def render (i : Instant) : String :=
  let (year, month, day) := i.date
  let second := i.seconds % 86400
  s!"{digits 4 year}-{digits 2 month}-{digits 2 day}T" ++
  s!"{digits 2 (second / 3600)}:{digits 2 (second / 60 % 60)}:{digits 2 (second % 60)}"

/-- The fraction of the second. -/
def fraction (i : Instant) : String :=
  let n := i.nanos % 1000000000
  if n == 0 then ""
  else if n % 1000000 == 0 then "." ++ digits 3 (n / 1000000)
  else if n % 1000 == 0 then "." ++ digits 6 (n / 1000)
  else "." ++ digits 9 n

end Instant

end EscapeAudit.Command
