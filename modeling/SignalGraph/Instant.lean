/-! Points in time, counted in milliseconds from the start of 1970 in UTC. -/

set_option autoImplicit false

namespace SignalGraph

structure Instant where
  milliseconds : Int
  deriving DecidableEq

namespace Instant

/-- Year, month and day of a day counted from the start of 1970, in the Gregorian calendar.
Years are taken to start in March, which puts the leap day last. -/
def calendarDate (day : Int) : Int × Int × Int :=
  let shifted := day + 719468
  let era := shifted.fdiv 146097
  let dayOfEra := shifted.fmod 146097
  let yearOfEra := (dayOfEra - dayOfEra / 1460 + dayOfEra / 36524 - dayOfEra / 146096) / 365
  let dayOfYear := dayOfEra - (365 * yearOfEra + yearOfEra / 4 - yearOfEra / 100)
  let month := (5 * dayOfYear + 2) / 153
  let date := dayOfYear - (153 * month + 2) / 5 + 1
  let calendarMonth := if month < 10 then month + 3 else month - 9
  (yearOfEra + era * 400 + (if calendarMonth ≤ 2 then 1 else 0), calendarMonth, date)

/-- A number with zeros in front, up to a width. -/
def padded (width : Nat) (value : Int) : String :=
  let digits := Nat.toDigits 10 value.toNat
  String.ofList (List.replicate (width - digits.length) '0' ++ digits)

/-- Date and time of day, as in `2025-01-01T00:00:00.000Z`. -/
def text (instant : Instant) : String :=
  let (year, month, date) := calendarDate (instant.milliseconds.fdiv 86400000)
  let rest := instant.milliseconds.fmod 86400000
  padded 4 year ++ "-" ++ padded 2 month ++ "-" ++ padded 2 date ++ "T" ++
  padded 2 (rest / 3600000) ++ ":" ++ padded 2 (rest / 60000 % 60) ++ ":" ++
  padded 2 (rest / 1000 % 60) ++ "." ++ padded 3 (rest % 1000) ++ "Z"

end Instant

end SignalGraph
