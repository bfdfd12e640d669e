import MailCollector.Calendar.Instant
import MailCollector.Text.Decimal

/-!
# Instants as RFC 3339 text

The written form is a date, the letter T, a time and an offset, as in `2024-03-01T09:00:00.5Z`.
Years outside 0 to 9999 get a sign and at least four digits, which the reader does not accept, so
those instants have a text but cannot be read back from it. The reader admits any offset below a day
and a lower-case or missing T.
-/

namespace MailCollector.Calendar.Rfc3339

open MailCollector.Text

/-- How much of the fraction is written. -/
inductive Precision where
  /-- Whole seconds; the fraction is cut off. -/
  | seconds
  /-- No fraction if it is zero, else the fewest of three, six or nine digits that lose nothing. -/
  | shortest
deriving DecidableEq

/-- How the offset zero is written. -/
inductive ZeroOffset where
  | letter
  | digits
deriving DecidableEq

/-- The year with four digits, or with a sign where four digits do not hold it. -/
def yearText (year : Int) : List Char :=
  if 0 ≤ year ∧ year ≤ 9999 then padded 4 year.toNat
  else
    let digits := decimal year.natAbs
    (if year < 0 then '-' else '+') :: (List.replicate (4 - digits.length) '0' ++ digits)

/-- The fraction of a second with its point. -/
def fractionText (nanos : Nat) : List Char :=
  if nanos = 0 then []
  else if nanos % 1000000 = 0 then '.' :: padded 3 (nanos / 1000000)
  else if nanos % 1000 = 0 then '.' :: padded 6 (nanos / 1000)
  else '.' :: padded 9 nanos

/-- The text of an instant in universal time. -/
def format (precision : Precision) (zero : ZeroOffset) (t : Instant) : String :=
  String.ofList <|
    yearText t.date.year ++ '-' :: padded 2 t.date.month ++ '-' :: padded 2 t.date.day ++
    'T' :: padded 2 t.hour ++ ':' :: padded 2 t.minute ++ ':' :: padded 2 t.second ++
    (match precision with
      | .seconds => []
      | .shortest => fractionText t.fraction) ++
    (match zero with
      | .letter => ['Z']
      | .digits => ['+', '0', '0', ':', '0', '0'])

/-- Reads exactly `count` digits after `acc`. -/
def number : (count acc : Nat) → List Char → Option (Nat × List Char)
  | 0, acc, cs => some (acc, cs)
  | _ + 1, _, [] => none
  | count + 1, acc, c :: cs => do number count (acc * 10 + (← digitValue? c)) cs

/-- Reads one expected character. -/
def expect (c : Char) : List Char → Option (List Char)
  | [] => none
  | d :: cs => if d = c then some cs else none

/-- Reads up to `count` digits as a fraction of `10 ^ count`, then skips the digits that follow. -/
def fractionDigits : (count acc : Nat) → List Char → Nat × List Char
  | 0, acc, cs => (acc, cs.dropWhile fun c => (digitValue? c).isSome)
  | count + 1, acc, [] => (acc * Nat.pow 10 (count + 1), [])
  | count + 1, acc, c :: cs =>
    match digitValue? c with
    | some d => fractionDigits count (acc * 10 + d) cs
    | none => (acc * Nat.pow 10 (count + 1), c :: cs)

/-- Reads the optional fraction in nanoseconds; a point needs at least one digit after it. -/
def readFraction : List Char → Option (Nat × List Char)
  | '.' :: c :: cs => if (digitValue? c).isSome then some (fractionDigits 9 0 (c :: cs)) else none
  | ['.'] => none
  | cs => some (0, cs)

/-- Reads the offset from universal time in minutes. The minus sign U+2212 counts as a hyphen. -/
def readOffset : List Char → Option (Int × List Char)
  | 'Z' :: cs | 'z' :: cs => some (0, cs)
  | '+' :: cs => signed 1 cs
  | '-' :: cs | '\u2212' :: cs => signed (-1) cs
  | _ => none
where
  signed (sign : Int) (cs : List Char) : Option (Int × List Char) := do
    let (hours, cs) ← number 2 0 cs
    let cs ← expect ':' cs
    let (minutes, cs) ← number 2 0 cs
    if minutes ≤ 59 ∧ hours ≤ 23 then some (sign * (hours * 60 + minutes), cs) else none

/-- The letter between date and time, which may be small or a space. -/
def readSeparator : List Char → Option (List Char)
  | 'T' :: cs | 't' :: cs | ' ' :: cs => some cs
  | _ => none

/-- Reads a whole text as an instant. -/
def parse? (s : String) : Option Instant := do
  let (year, cs) ← number 4 0 s.toList
  let (month, cs) ← number 2 0 (← expect '-' cs)
  let (day, cs) ← number 2 0 (← expect '-' cs)
  let (hour, cs) ← number 2 0 (← readSeparator cs)
  let (minute, cs) ← number 2 0 (← expect ':' cs)
  let (second, cs) ← number 2 0 (← expect ':' cs)
  let (nanos, cs) ← readFraction cs
  let (offset, cs) ← readOffset cs
  if cs.isEmpty then Instant.ofClock? ⟨year, month, day⟩ hour minute second nanos offset else none

end MailCollector.Calendar.Rfc3339
