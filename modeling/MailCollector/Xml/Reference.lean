import MailCollector.Text.Decimal

/-!
# Character references

Five characters cannot stand for themselves everywhere in markup and are written as named
references. Reading also knows references by number. An ampersand begins a reference that a
semicolon has to end, and a reference that means nothing makes the whole text unreadable.
-/

namespace MailCollector.Xml

open MailCollector.Text

/-- How a character is written in text and in attribute values. -/
def escapeChar : Char → List Char
  | '<' => ['&', 'l', 't', ';']
  | '>' => ['&', 'g', 't', ';']
  | '&' => ['&', 'a', 'm', 'p', ';']
  | '\'' => ['&', 'a', 'p', 'o', 's', ';']
  | '"' => ['&', 'q', 'u', 'o', 't', ';']
  | c => [c]

/-- How a text is written. -/
def escape (cs : List Char) : List Char :=
  cs.flatMap escapeChar

/-- The character with a number other than zero. -/
def charOfNumber? (n : Nat) : Option Char :=
  if n ≠ 0 ∧ n.isValidChar then some (Char.ofNat n) else none

/-- The number that hexadecimal digits denote after `acc`. -/
def readHexDigits (acc : Nat) : List Char → Option Nat
  | [] => some acc
  | c :: cs =>
    match hexValue? c with
    | some d => readHexDigits (acc * 16 + d) cs
    | none => none

/-- The character that a reference means, given what stands between the ampersand and the
semicolon. -/
def reference? : List Char → Option Char
  | ['l', 't'] => some '<'
  | ['g', 't'] => some '>'
  | ['a', 'm', 'p'] => some '&'
  | ['a', 'p', 'o', 's'] => some '\''
  | ['q', 'u', 'o', 't'] => some '"'
  | '#' :: 'x' :: c :: cs => (readHexDigits 0 (c :: cs)).bind charOfNumber?
  | '#' :: c :: cs => (readDigits 0 (c :: cs)).bind charOfNumber?
  | _ => none

/-- Resolves the references of a text. `pending` holds what was read of a reference that has begun,
the latest character first. -/
def unescapeFrom (pending : Option (List Char)) : List Char → Option (List Char)
  | [] =>
    match pending with
    | none => some []
    | some _ => none
  | c :: cs =>
    match pending with
    | none => if c = '&' then unescapeFrom (some []) cs else (unescapeFrom none cs).map (c :: ·)
    | some name =>
      if c = ';' then do
        let meant ← reference? name.reverse
        let rest ← unescapeFrom none cs
        some (meant :: rest)
      else if c = '&' then none
      else unescapeFrom (some (c :: name)) cs

/-- The text that a written text means. -/
def unescape? (cs : List Char) : Option (List Char) :=
  unescapeFrom none cs

end MailCollector.Xml
