import MailCollector.Text.Split

/-!
# Plain spelling of labels

A label with characters beyond ASCII has a spelling of letters, digits and hyphens. The ASCII
characters of the label come first, then, after a hyphen, a row of numbers: one for each other
character in the order of their code points, telling how far to go on through all the places and
code points where it could be inserted. The numbers have digits of value 0 to 35, the least
significant one first. A digit below the threshold of its place ends its number, and the thresholds
adapt to the size of the numbers so far.
-/

namespace MailCollector.Domain.Punycode

open MailCollector.Text

/-! ### Numbers -/

/-- How many digits there are, and the distance of one place to the next. -/
def base : Nat := 36

/-- The character of a digit: a letter, or a decimal digit from 26 on. -/
def digitOf (value : Nat) : Char :=
  Char.ofNat (if value < 26 then 97 + value else 22 + value)

/-- The value of a digit. -/
def digit? (c : Char) : Option Nat :=
  if 'a' ≤ c ∧ c ≤ 'z' then some (c.toNat - 97)
  else if 'A' ≤ c ∧ c ≤ 'Z' then some (c.toNat - 65)
  else if '0' ≤ c ∧ c ≤ '9' then some (c.toNat - 22)
  else none

/-- The threshold of a place, between 1 and 26. -/
def threshold (place bias : Nat) : Nat :=
  if place ≤ bias then 1 else if bias + 26 ≤ place then 26 else place - bias

theorem threshold_pos (place bias : Nat) : 0 < threshold place bias := by
  unfold threshold
  split
  · omega
  · split <;> omega

/-- Scales a number down to at most 455 and counts the places that this takes. -/
def scaled (delta places : Nat) : Nat × Nat :=
  if 455 < delta then scaled (delta / 35) (places + base) else (delta, places)
termination_by delta
decreasing_by exact Nat.div_lt_self (by omega) (by omega)

/-- The bias after a number, of which the first is scaled down more. -/
def adapted (delta count : Nat) (isFirst : Bool) : Nat :=
  let delta := if isFirst then delta / 700 else delta / 2
  let (rest, places) := scaled (delta + delta / count) 0
  places + base * rest / (rest + 38)

/-- The code point before those that are spelled by numbers. -/
def firstCode : Nat := 128

/-- The bias of the first number. -/
def firstBias : Nat := 72

/-- What the numbers of a spelling stay below. -/
def numberBound : Nat := 4294967296

/-! ### Reading -/

/-- What was read of a spelling: the label so far, the code point and the place reached, and the
number that is being read, with the weight and the place of its next digit. -/
structure Reading where
  label : List Char
  code : Nat := firstCode
  position : Nat := 0
  bias : Nat := firstBias
  number : Nat := 0
  weight : Nat := 1
  place : Nat := base

/-- Inserts the next character once its number is known. -/
def Reading.insert? (r : Reading) (number : Nat) : Option Reading :=
  let count := r.label.length + 1
  let code := r.code + (r.position + number) / count
  let position := (r.position + number) % count
  if code.isValidChar then
    some
      { label := r.label.insertIdx position (Char.ofNat code)
        code := code
        position := position + 1
        bias := adapted number count (r.position = 0) }
  else none

/-- Reads one digit. -/
def Reading.digit (r : Reading) (c : Char) : Option Reading := do
  let value ← digit? c
  let number := r.number + value * r.weight
  let threshold := threshold r.place r.bias
  let weight := r.weight * (base - threshold)
  if numberBound ≤ r.position + number then none
  else if value < threshold then r.insert? number
  else if numberBound ≤ weight then none
  else some { r with number := number, weight := weight, place := r.place + base }

/-- The label of a spelling, whose last number has to be complete. -/
def decode? (spelling : List Char) : Option (List Char) := do
  let (plain, digits) := match splitAtLast? '-' spelling with
    | some ([], _) | none => ([], spelling)
    | some (plain, digits) => (plain, digits)
  let read ← digits.foldlM Reading.digit { label := plain }
  if read.place = base then some read.label else none

/-! ### Writing -/

/-- The digits of a number from a place on. -/
def digitsOf (bias place number : Nat) : List Char :=
  let t := threshold place bias
  if number < t then [digitOf number]
  else
    digitOf (t + (number - t) % (base - t)) ::
      digitsOf bias (place + base) ((number - t) / (base - t))
termination_by number
decreasing_by
  have := threshold_pos place bias
  have := Nat.div_le_self (number - threshold place bias) (base - threshold place bias)
  omega

/-- What was written of a spelling: its numbers so far, the one that is being counted, and how many
characters the numbers and the plain part tell of. -/
structure Writing where
  digits : List Char := []
  number : Nat := 0
  bias : Nat := firstBias
  count : Nat

/-- Goes on across one character of the label, on the way through the places for a code point. -/
def Writing.across (plain code : Nat) (w : Writing) (c : Char) : Writing :=
  if c.toNat < code then { w with number := w.number + 1 }
  else if c.toNat = code then
    { digits := w.digits ++ digitsOf w.bias base w.number
      number := 0
      bias := adapted w.number (w.count + 1) (w.count = plain)
      count := w.count + 1 }
  else w

/-- Goes through all the places for each of some code points, which are given in ascending order.
`next` is the first code point that no place was looked at for. -/
def Writing.through (label : List Char) (plain next : Nat) (w : Writing) : List Nat → Writing
  | [] => w
  | code :: codes =>
    let w := { w with number := w.number + (code - next) * (w.count + 1) }
    let w := label.foldl (across plain code) w
    through label plain (code + 1) { w with number := w.number + 1 } codes

/-- Inserts a number into ascending ones unless it is there. -/
def insertCode (code : Nat) : List Nat → List Nat
  | [] => [code]
  | c :: cs =>
    if code < c then code :: c :: cs
    else if code = c then c :: cs
    else c :: insertCode code cs

/-- The spelling of a label. -/
def encode (label : List Char) : List Char :=
  let plain := label.filter fun c => c.toNat < firstCode
  let others := label.filter fun c => firstCode ≤ c.toNat
  let codes := (others.map Char.toNat).foldr insertCode []
  let written := Writing.through label plain.length firstCode { count := plain.length } codes
  plain ++ (if plain.isEmpty then [] else ['-']) ++ written.digits

end MailCollector.Domain.Punycode
