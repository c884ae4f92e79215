import TwoVenue.Decimal.Text

/-!
# Points in time

An instant is a number of nanoseconds since the start of 1970. `Instant.text?` is its date and time of day in UTC, as
RFC 3339 writes them: the fraction of a second only if there is one, and without final zeros. Only the years 0 to 9999
can be written.
-/

namespace TwoVenue

/-- Nanoseconds since the start of 1970. -/
abbrev Instant := Int

namespace Instant

/-- A day of the calendar. -/
structure Date where
  year : Int
  month : Nat
  day : Nat

/-- The date of a day that is `days` days after the first of January 1970. Years are counted from March on, so that the
leap day comes last, and in eras of 400 years, which all have 146097 days. -/
def dateOf (days : Int) : Date :=
  let z := days + 719468
  let era := z.fdiv 146097
  let dayOfEra := (z.fmod 146097).toNat
  let yearOfEra := (dayOfEra - dayOfEra / 1460 + dayOfEra / 36524 - dayOfEra / 146096) / 365
  let dayOfYear := dayOfEra - (365 * yearOfEra + yearOfEra / 4 - yearOfEra / 100)
  let shifted := (5 * dayOfYear + 2) / 153
  let month := if shifted < 10 then shifted + 3 else shifted - 9
  let year : Int := yearOfEra + era * 400
  { year := if month ≤ 2 then year + 1 else year
    month := month
    day := dayOfYear - (153 * shifted + 2) / 5 + 1 }

/-- A number with at least so many digits. -/
def padded (width n : Nat) : String := String.ofList (zeroPadded width n)

/-- A fraction of a second, without final zeros. -/
def fractionText (nanoseconds : Nat) : String :=
  if nanoseconds = 0 then ""
  else
    let r := Decimal.withoutZeros nanoseconds 9
    "." ++ padded r.2 r.1

/-- The date and time of day in UTC, if the year has at most four digits. -/
def text? (t : Instant) : Option String :=
  let seconds := t.fdiv 1000000000
  let nanoseconds := (t.fmod 1000000000).toNat
  let date := dateOf (seconds.fdiv 86400)
  let second := (seconds.fmod 86400).toNat
  if 0 ≤ date.year ∧ date.year ≤ 9999 then
    some (padded 4 date.year.toNat ++ "-" ++ padded 2 date.month ++ "-" ++ padded 2 date.day ++ "T" ++
      padded 2 (second / 3600) ++ ":" ++ padded 2 (second / 60 % 60) ++ ":" ++ padded 2 (second % 60) ++
      fractionText nanoseconds ++ "Z")
  else none

end Instant

end TwoVenue
