import MailCollector.Text.Decimal

/-!
# Binary floating-point numbers of 64 bits

A finite number is a sign and a mantissa times a power of two. The operations here are exact
arithmetic on natural numbers followed by one rounding to the nearest representable number, ties to
the even mantissa, so they do not depend on any machine's arithmetic. A result too large for the
format is absent.
-/

namespace MailCollector.Json

open MailCollector.Text

/-- The finite number `mantissa * 2 ^ exponent` with a sign; zero has a sign too. -/
structure Binary64 where
  negative : Bool
  mantissa : Nat
  exponent : Int
deriving DecidableEq, Repr, Inhabited

namespace Binary64

/-- The quotient of two natural numbers, rounded to the nearest, ties to even. -/
def roundedQuotient (num den : Nat) : Nat :=
  let q := num / den
  let twice := 2 * (num % den)
  if twice < den then q
  else if den < twice then q + 1
  else q + q % 2

/-- The number above all mantissas, which have at most 53 bits. -/
def mantissaBound : Nat := 9007199254740992

/-- The fraction `num / (den * 2 ^ e)` as numerator and denominator. -/
def scaleDown (num den : Nat) (e : Int) : Nat × Nat :=
  if 0 ≤ e then (num, den * Nat.pow 2 e.toNat)
  else (num * Nat.pow 2 (-e).toNat, den)

/-- The number nearest to `num / den`, unless that is too large. The exponent is chosen so that the
mantissa has 53 bits, or fewer at the lower end of the format. -/
def ofRatio? (negative : Bool) (num den : Nat) : Option Binary64 :=
  if num = 0 then some ⟨negative, 0, 0⟩
  else
    let guess : Int := (Nat.log2 num : Int) - Nat.log2 den - 53
    let scaled := scaleDown num den guess
    let wanted := if scaled.1 / scaled.2 < mantissaBound then guess else guess + 1
    let exponent := max (-1074) wanted
    let parts := scaleDown num den exponent
    let mantissa := roundedQuotient parts.1 parts.2
    let (mantissa, exponent) :=
      if mantissa = mantissaBound then (mantissaBound / 2, exponent + 1) else (mantissa, exponent)
    if exponent ≤ 971 then
      some (if mantissa = 0 then ⟨negative, 0, 0⟩ else ⟨negative, mantissa, exponent⟩)
    else none

/-- The magnitude as a fraction. -/
def ratio (x : Binary64) : Nat × Nat :=
  if 0 ≤ x.exponent then (x.mantissa * Nat.pow 2 x.exponent.toNat, 1)
  else (x.mantissa, Nat.pow 2 (-x.exponent).toNat)

/-- The number nearest to a natural number. -/
def ofNat? (negative : Bool) (n : Nat) : Option Binary64 :=
  ofRatio? negative n 1

/-- The rounded product, with the sign of the first factor. -/
def mul? (x y : Binary64) : Option Binary64 :=
  let a := x.ratio
  let b := y.ratio
  ofRatio? x.negative (a.1 * b.1) (a.2 * b.2)

/-- The rounded quotient, with the sign of the dividend. -/
def div? (x y : Binary64) : Option Binary64 :=
  let a := x.ratio
  let b := y.ratio
  ofRatio? x.negative (a.1 * b.2) (a.2 * b.1)

/-- Scales a number by a power of ten. The power is itself rounded first, and a shrinking by more
than `10 ^ 308` goes in two steps. -/
def scaleTen? (x : Binary64) (power : Int) : Option Binary64 :=
  if x.mantissa = 0 then some x
  else if 308 < power then none
  else if 0 ≤ power then do x.mul? (← ofNat? false (Nat.pow 10 power.toNat))
  else if -308 ≤ power then do x.div? (← ofNat? false (Nat.pow 10 (-power).toNat))
  else do
    let step ← ofNat? false (Nat.pow 10 308)
    let y ← x.div? step
    if y.mantissa = 0 then some y
    else if -308 ≤ power + 308 then do y.div? (← ofNat? false (Nat.pow 10 (-(power + 308)).toNat))
    else some ⟨x.negative, 0, 0⟩

/-- The number `significand * 10 ^ power`, rounded first as a whole number and then when scaled. -/
def ofScientific? (negative : Bool) (significand : Nat) (power : Int) : Option Binary64 := do
  (← ofNat? negative significand).scaleTen? power

/-! ### The shortest text that reads back -/

/-- The place of the decimal point: the `k` with `10 ^ (k - 1) ≤ num / den < 10 ^ k`. -/
def decimalPlace (num den : Nat) : Int :=
  if den ≤ num then (decimal (num / den)).length
  else 1 - ((decimal ((den - 1) / num)).length : Int)

/-- The whole number below `num / den * 10 ^ power`, as a quotient of natural numbers. -/
def shiftTen (num den : Nat) (power : Int) : Nat × Nat :=
  if 0 ≤ power then (num * Nat.pow 10 power.toNat, den)
  else (num, den * Nat.pow 10 (-power).toNat)

/-- Of the two decimals with `digits` digits around the number, the nearer one that rounds to it. -/
def neighbour? (x : Binary64) (place : Int) (digits : Nat) : Option Nat :=
  let (num, den) := x.ratio
  let power := (digits : Int) - place
  let (scaledNum, scaledDen) := shiftTen num den power
  let below := scaledNum / scaledDen
  let hits := fun n : Nat =>
    let (a, b) := shiftTen n 1 (-power)
    n ≠ 0 && ofRatio? x.negative a b == some x
  let nearest := roundedQuotient scaledNum scaledDen
  let other := if nearest = below then below + 1 else below
  if hits nearest then some nearest else if hits other then some other else none

/-- A list of digits without the zeros at its end. -/
def withoutTrailingZeros (digits : List Char) : List Char :=
  (digits.reverse.dropWhile (· == '0')).reverse

/-- The fewest digits that read back as the number, and how many of them stand before the decimal
point. Seventeen digits always suffice; zero has the one digit 0. -/
def shortest (x : Binary64) : List Char × Int :=
  let place := decimalPlace x.ratio.1 x.ratio.2
  let found := (List.range 17).findSome? fun n => (x.neighbour? place (n + 1)).map (·, n + 1)
  match found with
  | some (n, count) =>
    (withoutTrailingZeros (decimal n), (decimal n).length + place - count)
  | none => (['0'], 1)

/-- How the shortest digits become a text: between which places of the decimal point they are
written out in full. -/
structure Layout where
  lowestPlace : Int
  highestPlace : Int

/-- Numbers from a hundred-thousandth to below ten to the sixteenth are written out in full, others
with an exponent that always has a sign. -/
def Layout.json : Layout := ⟨-4, 16⟩

/-- The number as a text with a decimal point or an exponent, in a given layout. -/
def textIn (layout : Layout) (x : Binary64) : String :=
  let (digits, place) := x.shortest
  let sign := if x.negative then ['-'] else []
  let magnitude :=
    if x.mantissa = 0 then ['0', '.', '0']
    else if layout.lowestPlace ≤ place ∧ place ≤ 0 then
      '0' :: '.' :: (List.replicate (-place).toNat '0' ++ digits)
    else if 0 < place ∧ place ≤ layout.highestPlace then
      let count := place.toNat
      if digits.length ≤ count then
        digits ++ List.replicate (count - digits.length) '0' ++ ['.', '0']
      else digits.take count ++ '.' :: digits.drop count
    else
      let exponent := place - 1
      let fraction := digits.drop 1
      digits.take 1 ++ (if fraction.isEmpty then [] else '.' :: fraction) ++ 'e' ::
        (if exponent < 0 then '-' else '+') :: decimal exponent.natAbs
  String.ofList (sign ++ magnitude)

/-- The number as JSON writes it. -/
def text (x : Binary64) : String := x.textIn .json

end Binary64

end MailCollector.Json
