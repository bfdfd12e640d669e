/-!
# Decimal numerals

Numbers are written without sign or leading zeros, or padded to a fixed width as in dates. They are
read back digit by digit; a reader of bounded numbers refuses what does not fit its bound.
-/

namespace MailCollector.Text

/-- The character of a decimal digit. -/
def digitChar (d : Nat) : Char :=
  Char.ofNat (48 + d % 10)

/-- The value of a decimal digit. -/
def digitValue? (c : Char) : Option Nat :=
  if '0' ≤ c ∧ c ≤ '9' then some (c.toNat - 48) else none

/-- The numeral of `n`, most significant digit first. -/
def decimal (n : Nat) : List Char :=
  if n < 10 then [digitChar n] else decimal (n / 10) ++ [digitChar n]

/-- The last `width` digits of `n`, with zeros in front where `n` is shorter. -/
def padded : (width : Nat) → (n : Nat) → List Char
  | 0, _ => []
  | width + 1, n => padded width (n / 10) ++ [digitChar n]

/-- The number that a list of digits denotes after `acc`, if all of them are digits. -/
def readDigits (acc : Nat) : List Char → Option Nat
  | [] => some acc
  | c :: cs =>
    match digitValue? c with
    | some d => readDigits (acc * 10 + d) cs
    | none => none

/-- Reads a natural number of at most `bound`: one or more digits, a plus sign allowed in front. -/
def readNat? (bound : Nat) (s : String) : Option Nat :=
  let digits := match s.toList with
    | '+' :: cs => cs
    | cs => cs
  match digits with
  | [] => none
  | cs => (readDigits 0 cs).filter (· ≤ bound)

/-- How many numbers a 64-bit word can hold, the 64th power of two. -/
def wordCount : Nat := 18446744073709551616

/-- The largest number of a 64-bit word. -/
def maxWord : Nat := wordCount - 1

/-- The magnitude of the least number of a 64-bit word with a sign. The largest is one less. -/
def minSignedWord : Nat := 9223372036854775808

/-- The numeral of a natural number as a text. -/
def natText (n : Nat) : String :=
  String.ofList (decimal n)

/-- The numeral of an integer as a text. -/
def intText : Int → String
  | .ofNat n => natText n
  | .negSucc n => "-" ++ natText (n + 1)

/-- The lower-case hexadecimal digit of a value below sixteen. -/
def hexDigit (d : Nat) : Char :=
  Char.ofNat (if d % 16 < 10 then 48 + d % 16 else 87 + d % 16)

/-- The value of a hexadecimal digit in either case. -/
def hexValue? (c : Char) : Option Nat :=
  if '0' ≤ c ∧ c ≤ '9' then some (c.toNat - 48)
  else if 'a' ≤ c ∧ c ≤ 'f' then some (c.toNat - 87)
  else if 'A' ≤ c ∧ c ≤ 'F' then some (c.toNat - 55)
  else none

/-- The hexadecimal numeral of `n` without leading zeros. -/
def hexadecimal (n : Nat) : List Char :=
  if n < 16 then [hexDigit n] else hexadecimal (n / 16) ++ [hexDigit n]

/-- The last `width` hexadecimal digits of `n`. -/
def paddedHex : (width : Nat) → (n : Nat) → List Char
  | 0, _ => []
  | width + 1, n => paddedHex width (n / 16) ++ [hexDigit n]

end MailCollector.Text
