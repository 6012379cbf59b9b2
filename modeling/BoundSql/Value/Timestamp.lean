import BoundSql.Text.Basic

/-!
# Timestamps

Moments in coordinated universal time, by seconds since 1970 and nanoseconds. A
leap second is written as the second 60, and its nanoseconds are those of the
second 59 counted on past one billion.
-/

set_option autoImplicit false

namespace BoundSql

/-- A moment in coordinated universal time. -/
structure Timestamp where
  /-- Whole seconds since the beginning of 1970, leap seconds not counted. -/
  seconds : Int
  /-- Nanoseconds within the second. -/
  nanos : Nat
  deriving DecidableEq, Repr

/-- A day of the Gregorian calendar, extended to all years. -/
structure CalendarDay where
  year : Int
  month : Int
  day : Int
  deriving DecidableEq, Repr

/-- The calendar day that lies `days` days after the first of January 1970. Years
are counted from March, so that a leap day ends a year, in cycles of 400 years. -/
def CalendarDay.ofDays (days : Int) : CalendarDay :=
  let shifted := days + 719468
  let cycle := shifted / 146097
  let dayOfCycle := shifted % 146097
  let yearOfCycle :=
    (dayOfCycle - dayOfCycle / 1460 + dayOfCycle / 36524 - dayOfCycle / 146096) / 365
  let dayOfYear := dayOfCycle - (365 * yearOfCycle + yearOfCycle / 4 - yearOfCycle / 100)
  let monthFromMarch := (5 * dayOfYear + 2) / 153
  let day := dayOfYear - (153 * monthFromMarch + 2) / 5 + 1
  let month := if monthFromMarch < 10 then monthFromMarch + 3 else monthFromMarch - 9
  let year := yearOfCycle + 400 * cycle + if month ≤ 2 then 1 else 0
  ⟨year, month, day⟩

namespace Timestamp

/-- A year in four digits; one outside 0 to 9999 has a sign and at least four. -/
def yearText (year : Int) : Text :=
  if year < 0 then '-' :: Text.padded 4 year.natAbs
  else if year ≤ 9999 then Text.padded 4 year.natAbs
  else '+' :: Text.padded 4 year.natAbs

/-- A fraction of a second in three, six or nine digits, the fewest that are exact. -/
def fractionText (nanos : Nat) : Text :=
  if nanos = 0 then []
  else if nanos % 1000000 = 0 then '.' :: Text.padded 3 (nanos / 1000000)
  else if nanos % 1000 = 0 then '.' :: Text.padded 6 (nanos / 1000)
  else '.' :: Text.padded 9 nanos

/-- The moment in the form of RFC 3339, such as `2024-06-10T06:13:20Z`. -/
def text (t : Timestamp) : Text :=
  let day := CalendarDay.ofDays (t.seconds / 86400)
  let clock := (t.seconds % 86400).toNat
  let leap := t.nanos / 1000000000
  yearText day.year ++ '-' :: Text.padded 2 day.month.toNat ++
    '-' :: Text.padded 2 day.day.toNat ++ 'T' :: Text.padded 2 (clock / 3600) ++
    ':' :: Text.padded 2 (clock / 60 % 60) ++ ':' :: Text.padded 2 (clock % 60 + leap) ++
    fractionText (t.nanos % 1000000000) ++ ['Z']

/-- Microseconds since the beginning of 2000, rounded toward zero. -/
def microsSince2000 (t : Timestamp) : Int :=
  ((t.seconds - 946684800) * 1000000000 + t.nanos).tdiv 1000

end Timestamp

end BoundSql
