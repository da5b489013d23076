/-!
# Instants

The time of an event, written as a date of the Gregorian calendar and a time of day in
Universal Time, with six places after the seconds.
-/

namespace MatchCriteria.Log

/-- A date of the Gregorian calendar. -/
structure Date where
  /-- The year. -/
  year : Nat
  /-- The month, from 1 on. -/
  month : Nat
  /-- The day of the month, from 1 on. -/
  day : Nat
  deriving DecidableEq, Repr

/-- The date that comes a number of days after the first of January 1970.  The days are counted
in eras of 400 years and in years that start in March, so that a leap day comes last. -/
def Date.ofDays (days : Nat) : Date :=
  let shifted := days + 719468
  let dayOfEra := shifted % 146097
  let yearOfEra :=
    (dayOfEra - dayOfEra / 1460 + dayOfEra / 36524 - dayOfEra / 146096) / 365
  let dayOfYear := dayOfEra - (365 * yearOfEra + yearOfEra / 4 - yearOfEra / 100)
  let monthFromMarch := (5 * dayOfYear + 2) / 153
  let month := if monthFromMarch < 10 then monthFromMarch + 3 else monthFromMarch - 9
  let year := yearOfEra + shifted / 146097 * 400
  ⟨if month ≤ 2 then year + 1 else year, month,
    dayOfYear - (153 * monthFromMarch + 2) / 5 + 1⟩

/-- A number with zeros in front of it up to a width. -/
def padded (width n : Nat) : String :=
  let digits := toString n
  String.ofList (List.replicate (width - digits.length) '0') ++ digits

/-- The instant a number of seconds and nanoseconds after the start of 1970. -/
def instant (seconds nanoseconds : Nat) : String :=
  let date := Date.ofDays (seconds / 86400)
  let second := seconds % 86400
  padded 4 date.year ++ "-" ++ padded 2 date.month ++ "-" ++ padded 2 date.day ++ "T" ++
    padded 2 (second / 3600) ++ ":" ++ padded 2 (second / 60 % 60) ++ ":" ++
    padded 2 (second % 60) ++ "." ++ padded 6 (nanoseconds / 1000) ++ "Z"

example : instant 1709251199 999999999 = "2024-02-29T23:59:59.999999Z" := by decide

end MatchCriteria.Log
