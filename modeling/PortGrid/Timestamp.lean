/-!
# Points in time

A timestamp is a date of the proleptic Gregorian calendar and a time of day in UTC with nanoseconds. Second 60
stands for a leap second. Years reach from -262143 to 262142.

Key definitions: `daysInMonth`, `Date`, `Date.make?`, `Date.next?`, `Date.previous?`, `Timestamp`.
-/

namespace PortGrid

/-- Whether the year has a 29th of February. -/
def isLeapYear (year : Int) : Bool :=
  year % 4 == 0 && (year % 100 != 0 || year % 400 == 0)

def daysInMonth (year : Int) (month : Nat) : Nat :=
  if month == 2 then (if isLeapYear year then 29 else 28)
  else if month == 4 || month == 6 || month == 9 || month == 11 then 30
  else 31

/-- Whether the numbers name a day of the calendar within its range of years. -/
def isDate (year : Int) (month day : Nat) : Bool :=
  -262143 ≤ year && year ≤ 262142 && 1 ≤ month && month ≤ 12 && 1 ≤ day && day ≤ daysInMonth year month

/-- A day of the calendar. -/
structure Date where
  year : Int
  month : Nat
  day : Nat
  valid : isDate year month day = true
deriving DecidableEq

/-- The day with the given numbers, if there is one. -/
def Date.make? (year : Int) (month day : Nat) : Option Date :=
  if h : isDate year month day = true then some ⟨year, month, day, h⟩ else none

/-- The following day, unless the calendar ends. -/
def Date.next? (d : Date) : Option Date :=
  Date.make? d.year d.month (d.day + 1) <|> Date.make? d.year (d.month + 1) 1 <|> Date.make? (d.year + 1) 1 1

/-- The day before, unless the calendar begins. -/
def Date.previous? (d : Date) : Option Date :=
  Date.make? d.year d.month (d.day - 1) <|>
    Date.make? d.year (d.month - 1) (daysInMonth d.year (d.month - 1)) <|> Date.make? (d.year - 1) 12 31

/-- A date and a time of day in UTC. -/
structure Timestamp where
  date : Date
  hour : Fin 24
  minute : Fin 60
  second : Fin 61
  nano : Fin 1000000000
deriving DecidableEq

/-- The point in time at a minute of a day, counted from midnight, and the given seconds and nanoseconds. -/
def Timestamp.atMinute (date : Date) (minuteOfDay second nano : Nat) : Timestamp where
  date := date
  hour := Fin.ofNat 24 (minuteOfDay / 60)
  minute := Fin.ofNat 60 minuteOfDay
  second := Fin.ofNat 61 second
  nano := Fin.ofNat 1000000000 nano

end PortGrid
