import PortGrid.Timestamp

/-!
# Points in time by the clock

A clock counts seconds from the beginning of 1970. The day of a count is found by years that begin in March, so
that a leap day is the last of its year.

Key definitions: `Date.ofDayNumber?`, `Timestamp.ofClock?`.
-/

namespace PortGrid

/-- The day that lies the given number of days after the 1st of January 1970. -/
def Date.ofDayNumber? (days : Int) : Option Date :=
  let shifted := days + 719468
  let era := shifted / 146097
  let dayOfEra := shifted % 146097
  let yearOfEra := (dayOfEra - dayOfEra / 1460 + dayOfEra / 36524 - dayOfEra / 146096) / 365
  let dayOfYear := dayOfEra - (365 * yearOfEra + yearOfEra / 4 - yearOfEra / 100)
  let marchMonth := (5 * dayOfYear + 2) / 153
  let day := dayOfYear - (153 * marchMonth + 2) / 5 + 1
  let month := if marchMonth < 10 then marchMonth + 3 else marchMonth - 9
  let year := yearOfEra + era * 400 + (if month ≤ 2 then 1 else 0)
  Date.make? year month.toNat day.toNat

/-- The timestamp at the given seconds and nanoseconds after the beginning of 1970. -/
def Timestamp.ofClock? (seconds : Int) (nano : Nat) : Option Timestamp :=
  (Date.ofDayNumber? (seconds / 86400)).map fun date =>
    let secondOfDay := (seconds % 86400).toNat
    atMinute date (secondOfDay / 60) (secondOfDay % 60) nano

end PortGrid
