/-!
# Dates

The time since the start of 1970 as a date and a time of day, in the form that it has in a log.
-/

namespace GoFlow

/-- A day of the calendar. -/
structure Date where
  year : Nat
  month : Nat
  day : Nat
deriving DecidableEq, Repr

/-- The date so many days after the first of January 1970. Years are taken to start in March, so
that the leap day is the last of its year, and come in cycles of 400. -/
def Date.ofDays (days : Nat) : Date :=
  let n := days + 719468
  let dayOfCycle := n % 146097
  let yearOfCycle :=
    (dayOfCycle - dayOfCycle / 1460 + dayOfCycle / 36524 - dayOfCycle / 146096) / 365
  let dayOfYear := dayOfCycle - (365 * yearOfCycle + yearOfCycle / 4 - yearOfCycle / 100)
  let monthFromMarch := (5 * dayOfYear + 2) / 153
  let month := if monthFromMarch < 10 then monthFromMarch + 3 else monthFromMarch - 9
  { year := n / 146097 * 400 + yearOfCycle + (if month ≤ 2 then 1 else 0)
    month
    day := dayOfYear - (153 * monthFromMarch + 2) / 5 + 1 }

/-- A number with at least so many digits. -/
def padNumber (digits n : Nat) : String :=
  let text := toString n
  String.ofList (List.replicate (digits - text.length) '0') ++ text

/-- The time so many microseconds after the start of 1970. Whole seconds have no fraction. -/
def isoTime (microseconds : Nat) : String :=
  let seconds := microseconds / 1000000
  let fraction := microseconds % 1000000
  let date := Date.ofDays (seconds / 86400)
  padNumber 4 date.year ++ "-" ++ padNumber 2 date.month ++ "-" ++ padNumber 2 date.day ++ "T"
    ++ padNumber 2 (seconds / 3600 % 24) ++ ":" ++ padNumber 2 (seconds / 60 % 60) ++ ":"
    ++ padNumber 2 (seconds % 60)
    ++ (if fraction = 0 then "" else "." ++ padNumber 6 fraction) ++ "Z"

end GoFlow
