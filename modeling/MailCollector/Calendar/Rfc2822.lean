import MailCollector.Calendar.Instant
import MailCollector.Text.Decimal

/-!
# Instants as RFC 2822 text

The date line of a mail, as in `Fri, 1 Mar 2024 09:00:00 +0000`. The form has room for four digits
of the year only, so it exists just for the years 0 to 9999.
-/

namespace MailCollector.Calendar.Rfc2822

open MailCollector.Text

/-- The English short names of the days, Sunday first. -/
def dayNames : List String := ["Sun", "Mon", "Tue", "Wed", "Thu", "Fri", "Sat"]

/-- The English short names of the months. -/
def monthNames : List String :=
  ["Jan", "Feb", "Mar", "Apr", "May", "Jun", "Jul", "Aug", "Sep", "Oct", "Nov", "Dec"]

/-- The date line of an instant in universal time, for a year of four digits. -/
def format? (t : Instant) : Option String :=
  if t.hasPlainYear then
    some <|
      dayNames.getD (weekday t.days) "" ++ ", " ++ natText t.date.day ++ " " ++
      monthNames.getD (t.date.month - 1) "" ++ " " ++
      String.ofList (padded 4 t.date.year.toNat ++ ' ' :: padded 2 t.hour ++ ':' ::
        padded 2 t.minute ++ ':' :: padded 2 t.second) ++ " +0000"
  else none

end MailCollector.Calendar.Rfc2822
