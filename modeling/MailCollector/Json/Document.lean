import MailCollector.Json.Binary64

/-!
# JSON documents, read as far as they go

A document is read from its beginning up to the first place where it stops being JSON. That place
becomes a `broken` node, and nothing comes after it. Data is then taken out of the document in the
order of the text, so of two problems the one that comes first in the text is the one reported,
whether it is a fault of the JSON or of the data.
-/

namespace MailCollector.Json

open MailCollector.Text

/-- The value of a numeral. Whole numbers of 64 bits are exact, with or without sign. -/
inductive Numeral where
  | whole (value : Int)
  | real (value : Binary64)
  /-- A numeral of the right form whose value exceeds the largest number of 64 bits. -/
  | tooLarge
deriving DecidableEq

/-- A JSON document up to its first fault. -/
inductive Document where
  | null
  | boolean (value : Bool)
  | numeral (value : Numeral)
  /-- A string. Its text is absent if an escape names half of a character. -/
  | string (text : Option String)
  | array (items : List Document)
  /-- Members with their keys, which are strings except in the last member of a faulty object. -/
  | object (members : List (Document × Document))
  /-- The text is not JSON from here on. -/
  | broken
deriving Inhabited

/-- The blanks between tokens. -/
def isJsonBlank (c : Char) : Bool :=
  c == ' ' || c == '\n' || c == '\t' || c == '\r'

/-- Skips the blanks before a token. -/
def skipBlanks (cs : List Char) : List Char :=
  cs.dropWhile isJsonBlank

/-! ### Strings -/

/-- One unit of a string: a character, or a code unit written by number. -/
inductive StringUnit where
  | char (c : Char)
  | code (n : Nat)

/-- Reads four hexadecimal digits. -/
def readHex4 : List Char → Option (Nat × List Char)
  | a :: b :: c :: d :: rest => do
    some (((((← hexValue? a) * 16 + (← hexValue? b)) * 16 + (← hexValue? c)) * 16 +
      (← hexValue? d)), rest)
  | _ => none

/-- The characters that a backslash and a letter stand for. -/
def simpleEscape? : Char → Option Char
  | '"' => some '"'
  | '\\' => some '\\'
  | '/' => some '/'
  | 'b' => some '\x08'
  | 'f' => some '\x0c'
  | 'n' => some '\n'
  | 'r' => some '\r'
  | 't' => some '\t'
  | _ => none

/-- Reads the units of a string after its opening quote, with what follows the closing one. Each
step takes at least one character, so `fuel` need not exceed the number of characters. -/
def readUnits : (fuel : Nat) → List Char → Option (List StringUnit × List Char)
  | 0, _ => none
  | _ + 1, [] => none
  | _ + 1, '"' :: rest => some ([], rest)
  | fuel + 1, '\\' :: 'u' :: rest => do
    let (n, rest) ← readHex4 rest
    let (units, rest) ← readUnits fuel rest
    some (.code n :: units, rest)
  | fuel + 1, '\\' :: c :: rest => do
    let e ← simpleEscape? c
    let (units, rest) ← readUnits fuel rest
    some (.char e :: units, rest)
  | fuel + 1, c :: rest =>
    if c.toNat < 0x20 ∨ c = '\\' then none
    else do
      let (units, rest) ← readUnits fuel rest
      some (.char c :: units, rest)

/-- Joins units to characters. A code unit of the upper half of a pair needs the lower half right
after it, and a lower half never stands alone. -/
def joinUnits : List StringUnit → Option (List Char)
  | [] => some []
  | .char c :: units => do some (c :: (← joinUnits units))
  | .code n :: .code m :: units =>
    if 0xD800 ≤ n ∧ n < 0xDC00 then
      if 0xDC00 ≤ m ∧ m < 0xE000 then do
        some (Char.ofNat (0x10000 + (n - 0xD800) * 0x400 + (m - 0xDC00)) :: (← joinUnits units))
      else none
    else if 0xDC00 ≤ n ∧ n < 0xE000 then none
    else do some (Char.ofNat n :: (← joinUnits (.code m :: units)))
  | .code n :: units =>
    if 0xD800 ≤ n ∧ n < 0xE000 then none
    else do some (Char.ofNat n :: (← joinUnits units))

/-- Reads a string after its opening quote. -/
def readString (cs : List Char) : Option (Option String × List Char) := do
  let (units, rest) ← readUnits (cs.length + 1) cs
  some ((joinUnits units).map String.ofList, rest)

/-! ### Numerals -/

/-- Whether a character is a decimal digit. -/
def isDigit (c : Char) : Bool := '0' ≤ c && c ≤ '9'

/-- Appends digits to a number of 64 bits as long as it stays one; the digits left over follow. -/
def accumulate (acc : Nat) : List Char → Nat × List Char
  | [] => (acc, [])
  | c :: cs =>
    let next := acc * 10 + (c.toNat - 48)
    if maxWord < next then (acc, c :: cs) else accumulate next cs

/-- The exponent that a sign and digits denote. It stops growing at a bound that no 64-bit number
reaches; digits after the bound count only as being there. -/
inductive Exponent where
  | moderate (value : Int)
  | extreme (positive : Bool)

/-- The largest exponent that is computed with. -/
def maxExponent : Nat := 2147483647

/-- Reads the digits of an exponent. -/
def exponentOf (positive : Bool) (digits : List Char) : Exponent :=
  let n := digits.foldl (fun acc c => min (maxExponent + 1) (acc * 10 + (c.toNat - 48))) 0
  if maxExponent < n then .extreme positive else .moderate (if positive then n else -n)

/-- The value of a numeral from its parts: sign, digits before the point, digits after it, and
exponent. Digits beyond those of a 64-bit number count by their place only. -/
def Numeral.ofParts (negative : Bool) (whole : List Char) (fraction : Option (List Char))
    (exponent : Option Exponent) : Numeral :=
  let (significand, overlong) := accumulate 0 whole
  if fraction.isNone ∧ exponent.isNone ∧ overlong = [] then
    if !negative then .whole significand
    else if significand = 0 ∨ minSignedWord < significand then
      match Binary64.ofNat? true significand with
      | some x => .real x
      | none => .tooLarge
    else .whole (-significand)
  else
    let (significand, unused) := accumulate significand (fraction.getD [])
    let places := (fraction.getD []).length - unused.length
    let start : Int := overlong.length - places
    match exponent with
    | some (.extreme positive) =>
      if positive ∧ significand ≠ 0 then .tooLarge else .real ⟨negative, 0, 0⟩
    | some (.moderate e) => scaled significand (start + e)
    | none => scaled significand start
where
  scaled (significand : Nat) (power : Int) : Numeral :=
    match Binary64.ofScientific? negative significand power with
    | some x => .real x
    | none => .tooLarge

/-- Reads the fraction of a numeral, which needs a digit after the point. -/
def readFractionPart : List Char → Option (Option (List Char) × List Char)
  | '.' :: cs =>
    let digits := cs.takeWhile isDigit
    if digits.isEmpty then none else some (some digits, cs.dropWhile isDigit)
  | cs => some (none, cs)

/-- Reads the exponent of a numeral, which needs a digit after its letter and sign. -/
def readExponentPart : List Char → Option (Option Exponent × List Char)
  | c :: cs =>
    if c = 'e' ∨ c = 'E' then
      let (positive, cs) := match cs with
        | '+' :: cs => (true, cs)
        | '-' :: cs => (false, cs)
        | cs => (true, cs)
      let digits := cs.takeWhile isDigit
      if digits.isEmpty then none
      else some (some (exponentOf positive digits), cs.dropWhile isDigit)
    else some (none, c :: cs)
  | [] => some (none, [])

/-- Reads a numeral after its sign. A zero at the beginning stands alone before the point. -/
def readNumeral (negative : Bool) (cs : List Char) : Option (Numeral × List Char) := do
  let whole := cs.takeWhile isDigit
  if whole.isEmpty ∨ (whole.head? = some '0' ∧ whole.length ≠ 1) then none
  else
    let (fraction, rest) ← readFractionPart (cs.dropWhile isDigit)
    let (exponent, rest) ← readExponentPart rest
    some (Numeral.ofParts negative whole fraction exponent, rest)

/-! ### Values -/

/-- Takes a literal word off the text. -/
def expectWord : List Char → List Char → Option (List Char)
  | [], cs => some cs
  | _ :: _, [] => none
  | w :: ws, c :: cs => if w = c then expectWord ws cs else none

mutual

/-- Reads one value, with the text after it unless a fault ended the reading. Each level of the
recursion takes a character, so `fuel` need not exceed the number of characters. -/
def readValue : (fuel : Nat) → List Char → Document × Option (List Char)
  | 0, _ => (.broken, none)
  | fuel + 1, cs =>
    match skipBlanks cs with
    | 'n' :: rest => word .null (expectWord ['u', 'l', 'l'] rest)
    | 't' :: rest => word (.boolean true) (expectWord ['r', 'u', 'e'] rest)
    | 'f' :: rest => word (.boolean false) (expectWord ['a', 'l', 's', 'e'] rest)
    | '"' :: rest =>
      match readString rest with
      | some (text, rest) => (.string text, some rest)
      | none => (.broken, none)
    | '[' :: rest =>
      let (items, rest) := readItems fuel true rest
      (.array items, rest)
    | '\x7b' :: rest =>
      let (members, rest) := readMembers fuel true rest
      (.object members, rest)
    | '-' :: rest => number (readNumeral true rest)
    | rest => number (readNumeral false rest)

/-- Reads the items of an array after its bracket or after an item. -/
def readItems : (fuel : Nat) → (first : Bool) → List Char →
    List Document × Option (List Char)
  | 0, _, _ => ([.broken], none)
  | fuel + 1, first, cs =>
    match skipBlanks cs, first with
    | ']' :: rest, _ => ([], some rest)
    | ',' :: rest, false =>
      match skipBlanks rest with
      | ']' :: _ => ([.broken], none)
      | rest => oneItem fuel rest
    | rest, true => oneItem fuel rest
    | _, false => ([.broken], none)

/-- Reads an item and the items after it. -/
def oneItem : (fuel : Nat) → List Char → List Document × Option (List Char)
  | 0, _ => ([.broken], none)
  | fuel + 1, cs =>
    match readValue fuel cs with
    | (item, some rest) =>
      let (items, rest) := readItems fuel false rest
      (item :: items, rest)
    | (item, none) => ([item], none)

/-- Reads the members of an object after its brace or after a member. -/
def readMembers : (fuel : Nat) → (first : Bool) → List Char →
    List (Document × Document) × Option (List Char)
  | 0, _, _ => ([(.broken, .broken)], none)
  | fuel + 1, first, cs =>
    match skipBlanks cs, first with
    | '\x7d' :: rest, _ => ([], some rest)
    | ',' :: rest, false => oneMember fuel (skipBlanks rest)
    | rest, true => oneMember fuel rest
    | _, false => ([(.broken, .broken)], none)

/-- Reads a member and the members after it. A key that is no string ends the reading. -/
def oneMember : (fuel : Nat) → List Char → List (Document × Document) × Option (List Char)
  | 0, _ => ([(.broken, .broken)], none)
  | fuel + 1, cs =>
    match readValue fuel cs with
    | (.string key, some rest) =>
      match skipBlanks rest with
      | ':' :: rest =>
        match readValue fuel rest with
        | (value, some rest) =>
          let (members, rest) := readMembers fuel false rest
          ((.string key, value) :: members, rest)
        | (value, none) => ([(.string key, value)], none)
      | _ => ([(.string key, .broken)], none)
    | (key, _) => ([(key, .broken)], none)

/-- A literal word that was read or not. -/
def word (value : Document) : Option (List Char) → Document × Option (List Char)
  | some rest => (value, some rest)
  | none => (.broken, none)

/-- A numeral that was read or not. -/
def number : Option (Numeral × List Char) → Document × Option (List Char)
  | some (n, rest) => (.numeral n, some rest)
  | none => (.broken, none)

end

/-- Reads a text as a document, with the text after it unless a fault ended the reading. -/
def Document.read (cs : List Char) : Document × Option (List Char) :=
  readValue (3 * cs.length + 3) cs

end MailCollector.Json
