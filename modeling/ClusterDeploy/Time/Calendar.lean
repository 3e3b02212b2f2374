import ClusterDeploy.Text.Numeral

/-!
# Dates and times

Seconds since 1970 as a date and a time of day, in universal time.

## Main definitions

* `Calendar.Date`, `Calendar.dateOf` — the date of a day that is counted from 1970.
* `Calendar.display?` — the text of a second, up to the end of the year 9999.

## Implementation notes

Days are counted from the first of March of the year 0, so that a leap day is the last day of its
year. Four hundred years have 146097 days.
-/

namespace ClusterDeploy.Calendar

/-- A day of the calendar. -/
structure Date where
  year : Nat
  month : Nat
  day : Nat
  deriving DecidableEq, Repr

/-- The days from the first of March of the year 0 to the first of January 1970. -/
def epochDay : Nat := 719468

/-- The date of a day that is counted from the first of January 1970. -/
def dateOf (days : Nat) : Date :=
  let n := days + epochDay
  let era := n / 146097
  let dayOfEra := n % 146097
  let yearOfEra := (dayOfEra - dayOfEra / 1460 + dayOfEra / 36524 - dayOfEra / 146096) / 365
  let dayOfYear := dayOfEra - (365 * yearOfEra + yearOfEra / 4 - yearOfEra / 100)
  let shifted := (5 * dayOfYear + 2) / 153
  let month := if shifted < 10 then shifted + 3 else shifted - 9
  let year := yearOfEra + era * 400 + (if month ≤ 2 then 1 else 0)
  ⟨year, month, dayOfYear - (153 * shifted + 2) / 5 + 1⟩

/-- The greatest year with a text. -/
def maxYear : Nat := 9999

/-- The text of a second that is counted from the start of 1970, if its year is not too great. -/
def display? (seconds : Nat) : Option String :=
  let date := dateOf (seconds / 86400)
  let time := seconds % 86400
  if maxYear < date.year then none
  else some (String.ofList (
    Text.padded 4 date.year ++ '-' :: Text.padded 2 date.month ++ '-' :: Text.padded 2 date.day ++
      'T' :: Text.padded 2 (time / 3600) ++ ':' :: Text.padded 2 (time / 60 % 60) ++
      ':' :: Text.padded 2 (time % 60) ++ ['Z']))

end ClusterDeploy.Calendar
