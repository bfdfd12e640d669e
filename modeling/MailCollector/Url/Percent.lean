import MailCollector.Text.Decimal
import MailCollector.Text.Utf8

/-!
# Percent encoding

A character that may not stand for itself in some part of an address is written as its bytes, each
as a percent sign and two capital hexadecimal digits. Each part of an address has its own set of
such characters; the sets only grow from one part to the next.
-/

namespace MailCollector.Url

open MailCollector.Text

/-- A hexadecimal digit in upper case. -/
def capitalHexDigit (d : Nat) : Char :=
  Char.ofNat (if d % 16 < 10 then 48 + d % 16 else 55 + d % 16)

/-- A byte as a percent sign and two digits. -/
def encodedByte (b : UInt8) : List Char :=
  ['%', capitalHexDigit (b.toNat / 16), capitalHexDigit b.toNat]

/-- Encodes the characters of a set. -/
def percentEncode (inSet : Char → Bool) (cs : List Char) : List Char :=
  cs.flatMap fun c => if inSet c then (Utf8.encodeChar c).flatMap encodedByte else [c]

/-- Control characters and everything beyond ASCII. -/
def isControlOrBeyond (c : Char) : Bool :=
  c.toNat < 0x20 || 0x7E < c.toNat

/-- The characters encoded in a query. An address of a web server also encodes the apostrophe. -/
def inQuerySet (c : Char) : Bool :=
  isControlOrBeyond c || c ∈ [' ', '"', '#', '<', '>', '\'']

/-- The characters encoded in a path. -/
def inPathSet (c : Char) : Bool :=
  isControlOrBeyond c || c ∈ [' ', '"', '#', '<', '>', '?', '`', '\x7b', '\x7d']

/-- The characters encoded in a user name and a password. -/
def inUserSet (c : Char) : Bool :=
  inPathSet c || c ∈ ['/', ':', ';', '=', '@', '[', '\\', ']', '^', '|']

/-- Replaces each percent sign with two hexadecimal digits by the byte that they mean, and every
other character by its bytes. -/
def percentDecode : List Char → List UInt8
  | '%' :: a :: b :: cs =>
    match hexValue? a, hexValue? b with
    | some x, some y => (x * 16 + y).toUInt8 :: percentDecode cs
    | _, _ => Utf8.encodeChar '%' ++ percentDecode (a :: b :: cs)
  | c :: cs => Utf8.encodeChar c ++ percentDecode cs
  | [] => []

end MailCollector.Url
