/-! # Instants and their RFC 3339 text

An instant counts seconds from the start of 1970 in UTC. Its text names a day of the proleptic
Gregorian calendar; a leap second is the sixtieth second of its minute. -/
namespace TicketQuery

/-- From `10 ^ 9` on the nanoseconds belong to a leap second that follows `seconds`. -/
structure Instant where
  seconds : Int
  nanos : Nat
  deriving DecidableEq, Repr

structure CivilDate where
  year : Int
  month : Nat
  day : Nat
  deriving DecidableEq, Repr

namespace CivilDate

/-- The month and day of a day of the year that starts on 1 March, where the leap day is the last.
-/
def monthAndDay (dayOfYear : Nat) : Nat × Nat :=
  let month := (5 * dayOfYear + 2) / 153
  (if month < 10 then month + 3 else month - 9, dayOfYear - (153 * month + 2) / 5 + 1)

/-- The date of a day counted from 1 March of year 0. Four hundred years have 146097 days, a century
36524 and four years 1461; the last century of the four and the last year of four are a day longer.
-/
def ofDaysFromMarch (days : Int) : CivilDate :=
  let era := days / 146097
  let dayOfEra := (days % 146097).toNat
  let yearOfEra :=
    (dayOfEra - dayOfEra / 1460 + dayOfEra / 36524 - dayOfEra / 146096) / 365
  let dayOfYear := dayOfEra - (365 * yearOfEra + yearOfEra / 4 - yearOfEra / 100)
  let md := monthAndDay dayOfYear
  ⟨era * 400 + yearOfEra + (if md.1 ≤ 2 then 1 else 0), md.1, md.2⟩

/-- The date of a day counted from 1 January 1970. -/
def ofEpochDay (days : Int) : CivilDate := ofDaysFromMarch (days + 719468)

end CivilDate

/-- A number with zeros before it to fill `width` digits. -/
def zeroPadded (width n : Nat) : String :=
  let digits := Nat.toDigits 10 n
  String.ofList (List.replicate (width - digits.length) '0' ++ digits)

/-- Years of four digits stand alone, all others have a sign. -/
def yearText (year : Int) : String :=
  if 0 ≤ year ∧ year ≤ 9999 then zeroPadded 4 year.toNat
  else (if year < 0 then "-" else "+") ++ zeroPadded 4 year.natAbs

/-- The fraction of a second in as few groups of three digits as hold it. -/
def fractionText (nanos : Nat) : String :=
  if nanos = 0 then ""
  else if nanos % 1000000 = 0 then "." ++ zeroPadded 3 (nanos / 1000000)
  else if nanos % 1000 = 0 then "." ++ zeroPadded 6 (nanos / 1000)
  else "." ++ zeroPadded 9 nanos

namespace Instant

/-- Date and time down to the whole second. -/
def secondsText (t : Instant) : String :=
  let date := CivilDate.ofEpochDay (t.seconds / 86400)
  let second := (t.seconds % 86400).toNat
  yearText date.year ++ "-" ++ zeroPadded 2 date.month ++ "-" ++ zeroPadded 2 date.day ++ "T" ++
    zeroPadded 2 (second / 3600) ++ ":" ++ zeroPadded 2 (second / 60 % 60) ++ ":" ++
    zeroPadded 2 (second % 60 + t.nanos / 1000000000)

/-- The text in queries: whole seconds. -/
def inQuery (t : Instant) : String := t.secondsText ++ "Z"

/-- The text in JSON. -/
def inJson (t : Instant) : String := t.secondsText ++ fractionText (t.nanos % 1000000000) ++ "Z"

/-- The text in SQL and in patterns. -/
def inPattern (t : Instant) : String :=
  t.secondsText ++ fractionText (t.nanos % 1000000000) ++ "+00:00"

end Instant

example : CivilDate.ofEpochDay 0 = ⟨1970, 1, 1⟩ := by decide
example : CivilDate.ofEpochDay 19782 = ⟨2024, 2, 29⟩ := by decide
example : CivilDate.ofEpochDay (-719529) = ⟨-1, 12, 31⟩ := by decide

end TicketQuery
