/-!
Dates of the Gregorian calendar, and the number of days since 1 January 1970 that a date has. The
calendar is reckoned in cycles of 400 years that begin on 1 March, so that the leap day comes last.
-/
namespace RequestLog.Time

/-- A date of the Gregorian calendar, extended to all years. -/
structure Date where
  year : Int
  month : Nat
  day : Nat
deriving DecidableEq, Repr

/-- The days of a cycle of 400 years. -/
def cycleDays : Int := 146097

/-- The days from the start of the cycle that holds 1 January 1970 to that day. -/
def epochOffset : Int := 719468

/-- The year of a cycle, counted from 0, in which a day of the cycle falls. -/
def yearOfCycle (day : Nat) : Nat :=
  (day - day / 1460 + day / 36524 - day / 146096) / 365

/-- The day of a cycle with which a year of the cycle begins. -/
def yearStart (year : Nat) : Nat :=
  365 * year + year / 4 - year / 100

/-- The day of a year with which a month begins, months being counted from March. -/
def monthStart (month : Nat) : Nat :=
  (153 * month + 2) / 5

/-- The month of a year in which a day of the year falls, months being counted from March. -/
def monthOfDay (day : Nat) : Nat :=
  (5 * day + 2) / 153

def dateInCycle (cycle : Int) (day : Nat) : Date :=
  let year := yearOfCycle day
  let dayOfYear := day - yearStart year
  let month := monthOfDay dayOfYear
  { year := cycle * 400 + Int.ofNat year + (if month < 10 then 0 else 1)
    month := if month < 10 then month + 3 else month - 9
    day := dayOfYear - monthStart month + 1 }

/-- The date of a number of days since 1 January 1970. -/
def Date.ofDays (days : Int) : Date :=
  dateInCycle ((days + epochOffset) / cycleDays) ((days + epochOffset) % cycleDays).toNat

/-- The number of days since 1 January 1970 that a date has. -/
def Date.toDays (d : Date) : Int :=
  let year := if d.month ≤ 2 then d.year - 1 else d.year
  let month := if d.month ≤ 2 then d.month + 9 else d.month - 3
  year / 400 * cycleDays
    + Int.ofNat (yearStart (year % 400).toNat + monthStart month + (d.day - 1)) - epochOffset

/-- The day of the week of a number of days since 1 January 1970, Monday being 0. -/
def weekday (days : Int) : Nat :=
  ((days + 3) % 7).toNat

def isLeapYear (year : Int) : Bool :=
  year % 4 == 0 && (year % 100 != 0 || year % 400 == 0)

def monthLength (year : Int) (month : Nat) : Nat :=
  if month = 2 then (if isLeapYear year then 29 else 28)
  else if month = 4 ∨ month = 6 ∨ month = 9 ∨ month = 11 then 30
  else 31

def Date.Valid (d : Date) : Prop :=
  1 ≤ d.month ∧ d.month ≤ 12 ∧ 1 ≤ d.day ∧ d.day ≤ monthLength d.year d.month

end RequestLog.Time
