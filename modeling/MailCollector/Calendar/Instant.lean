import MailCollector.Calendar.Date

/-!
# Instants

An instant is a count of seconds since the start of 1970 in universal time, with nanoseconds. A leap
second has no number of its own: it is the second before it with a fraction of one second or more,
which is possible only in the last second of a minute.
-/

namespace MailCollector.Calendar

/-- The nanoseconds of a second. -/
def nanosPerSecond : Nat := 1000000000

/-- A point in universal time. The two proof fields bound the fraction and confine leap seconds to
the end of a minute. -/
structure Instant where
  seconds : Int
  nanos : Nat
  nanos_lt : nanos < 2 * nanosPerSecond
  leap_at_end : nanosPerSecond ≤ nanos → seconds % 60 = 59
deriving DecidableEq

namespace Instant

/-- The start of 1970. -/
def epoch : Instant :=
  ⟨0, 0, by decide, by decide⟩

instance : Inhabited Instant := ⟨epoch⟩

/-- The instant that lies a number of nanoseconds after the start of 1970. -/
def ofNanoseconds (n : Int) : Instant :=
  ⟨n / nanosPerSecond, (n % nanosPerSecond).toNat, by simp [nanosPerSecond]; omega,
    by simp [nanosPerSecond]; omega⟩

/-- The day number in which an instant lies. -/
def days (t : Instant) : Int := t.seconds / 86400

/-- The date of an instant. -/
def date (t : Instant) : Date := Date.ofDays t.days

/-- The second of the day, leap seconds not counted. -/
def secondOfDay (t : Instant) : Nat := (t.seconds % 86400).toNat

/-- The hour on the clock. -/
def hour (t : Instant) : Nat := t.secondOfDay / 3600

/-- The minute on the clock. -/
def minute (t : Instant) : Nat := t.secondOfDay / 60 % 60

/-- The second on the clock, 60 in a leap second. -/
def second (t : Instant) : Nat := t.secondOfDay % 60 + t.nanos / nanosPerSecond

/-- The nanoseconds after the second on the clock. -/
def fraction (t : Instant) : Nat := t.nanos % nanosPerSecond

/-- The years that four digits can write. -/
def hasPlainYear (t : Instant) : Bool :=
  0 ≤ t.date.year && t.date.year ≤ 9999

/-- The instant of a date and a clock reading that runs `offset` minutes ahead of universal time.
The clock shows 60 seconds in a leap second. Nothing for a date or a reading that does not exist. -/
def ofClock? (date : Date) (hour minute second nanos : Nat) (offset : Int) : Option Instant :=
  if hour ≤ 23 ∧ minute ≤ 59 ∧ date.exists then
    let start := (date.toDays * 1440 + hour * 60 + minute - offset) * 60
    if second ≤ 59 then
      if h : nanos < nanosPerSecond then
        some ⟨start + second, nanos, by simp [nanosPerSecond] at *; omega,
          by simp [nanosPerSecond] at *; omega⟩
      else none
    else if second = 60 then
      if h : nanos < nanosPerSecond then
        some ⟨start + 59, nanos + nanosPerSecond, by simp [nanosPerSecond] at *; omega,
          by simp [nanosPerSecond] at *; omega⟩
      else none
    else none
  else none

/-- One instant is before or at another. A leap second follows the second that it extends. -/
def le (a b : Instant) : Bool :=
  a.seconds < b.seconds || (a.seconds == b.seconds && a.nanos ≤ b.nanos)

end Instant

end MailCollector.Calendar
