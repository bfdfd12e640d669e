/-!
# Civil dates and day numbers

Days are numbered from 1 January 1970 in the proleptic Gregorian calendar. Years are counted from
1 March, so that the leap day ends the year, and grouped into eras of 400 years, which all have the
same number of days.
-/

namespace MailCollector.Calendar

/-- A date of the Gregorian calendar. The year may be zero or negative. -/
structure Date where
  year : Int
  month : Nat
  day : Nat
deriving DecidableEq, Repr

/-- The days of an era of 400 years. -/
def daysPerEra : Int := 146097

/-- The days from 1 March of the year 0 to 1 January 1970. -/
def epochShift : Int := 719468

/-- Whether a year has a 29 February. -/
def isLeapYear (year : Int) : Bool :=
  year % 4 == 0 && (year % 100 != 0 || year % 400 == 0)

/-- The number of days in a month, zero for a month that does not exist. -/
def daysInMonth (year : Int) (month : Nat) : Nat :=
  match month with
  | 1 | 3 | 5 | 7 | 8 | 10 | 12 => 31
  | 4 | 6 | 9 | 11 => 30
  | 2 => if isLeapYear year then 29 else 28
  | _ => 0

/-- A date exists if its month does and the month is long enough. -/
def Date.exists (d : Date) : Bool :=
  1 ≤ d.day && d.day ≤ daysInMonth d.year d.month

/-- The day number of a date. -/
def Date.toDays (d : Date) : Int :=
  let marchYear := if d.month ≤ 2 then d.year - 1 else d.year
  let yearOfEra := marchYear % 400
  let marchMonth : Int := (d.month + 9) % 12
  let dayOfYear := (153 * marchMonth + 2) / 5 + d.day - 1
  let dayOfEra := yearOfEra * 365 + yearOfEra / 4 - yearOfEra / 100 + dayOfYear
  marchYear / 400 * daysPerEra + dayOfEra - epochShift

/-- The date of a day number. -/
def Date.ofDays (days : Int) : Date :=
  let shifted := days + epochShift
  let dayOfEra := shifted % daysPerEra
  let yearOfEra := (dayOfEra - dayOfEra / 1460 + dayOfEra / 36524 - dayOfEra / 146096) / 365
  let dayOfYear := dayOfEra - (365 * yearOfEra + yearOfEra / 4 - yearOfEra / 100)
  let marchMonth := (5 * dayOfYear + 2) / 153
  let day := dayOfYear - (153 * marchMonth + 2) / 5 + 1
  let month := if marchMonth < 10 then marchMonth + 3 else marchMonth - 9
  let marchYear := yearOfEra + shifted / daysPerEra * 400
  { year := if month ≤ 2 then marchYear + 1 else marchYear
    month := month.toNat
    day := day.toNat }

/-- The day of the week of a day number, with Sunday as zero. -/
def weekday (days : Int) : Nat :=
  ((days + 4) % 7).toNat

end MailCollector.Calendar
