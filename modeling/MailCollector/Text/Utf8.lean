/-!
# UTF-8

A character is written as one to four bytes. Reading takes one character at a time off the front of
a byte list. Where the bytes are no character it takes the longest part that a character could have
begun with, at least one byte, so a damaged text can be read with one mark for each damaged part.
-/

namespace MailCollector.Text.Utf8

/-- The bytes of a character. -/
def encodeChar (c : Char) : List UInt8 :=
  let n := c.toNat
  if n < 0x80 then [n.toUInt8]
  else if n < 0x800 then [(0xC0 + n / 0x40).toUInt8, (0x80 + n % 0x40).toUInt8]
  else if n < 0x10000 then
    [(0xE0 + n / 0x1000).toUInt8, (0x80 + n / 0x40 % 0x40).toUInt8, (0x80 + n % 0x40).toUInt8]
  else
    [(0xF0 + n / 0x40000).toUInt8, (0x80 + n / 0x1000 % 0x40).toUInt8,
      (0x80 + n / 0x40 % 0x40).toUInt8, (0x80 + n % 0x40).toUInt8]

/-- The bytes of a text. -/
def encode (cs : List Char) : List UInt8 :=
  cs.flatMap encodeChar

/-- What the first byte of a character says about it: the bits of its number, how many bytes follow,
and between which bounds the next one lies. -/
structure Lead where
  bits : Nat
  following : Nat
  low : Nat := 0x80
  high : Nat := 0xBF

/-- Reads the first byte of a character. The bounds on the byte after it leave out longer forms of
smaller numbers, the numbers of surrogates, and numbers above those of characters. -/
def lead? (b : UInt8) : Option Lead :=
  let n := b.toNat
  if n < 0x80 then some { bits := n, following := 0 }
  else if n < 0xC2 then none
  else if n < 0xE0 then some { bits := n - 0xC0, following := 1 }
  else if n < 0xF0 then
    some
      { bits := n - 0xE0
        following := 2
        low := if n = 0xE0 then 0xA0 else 0x80
        high := if n = 0xED then 0x9F else 0xBF }
  else if n < 0xF5 then
    some
      { bits := n - 0xF0
        following := 3
        low := if n = 0xF0 then 0x90 else 0x80
        high := if n = 0xF4 then 0x8F else 0xBF }
  else none

/-- Reads the bytes that follow the first one, of which the next lies between `low` and `high`.
Gives the number of the character if they are all there, and in any case the bytes after those read.
-/
def follow : (following bits low high : Nat) → List UInt8 → Option Nat × List UInt8
  | 0, bits, _, _, bs => (some bits, bs)
  | _ + 1, _, _, _, [] => (none, [])
  | following + 1, bits, low, high, b :: bs =>
    if low ≤ b.toNat ∧ b.toNat ≤ high then
      follow following (bits * 0x40 + b.toNat % 0x40) 0x80 0xBF bs
    else (none, b :: bs)

/-- Reading never puts bytes back. -/
theorem length_follow_le (following bits low high : Nat) (bs : List UInt8) :
    (follow following bits low high bs).2.length ≤ bs.length := by
  induction bs generalizing following bits low high with
  | nil => cases following <;> simp [follow]
  | cons b bs ih =>
    cases following with
    | zero => simp [follow]
    | succ n =>
      simp only [follow]
      split
      · exact Nat.le_succ_of_le (ih ..)
      · simp

/-- Takes one character off bytes that begin with `b`, or the part of one that is there. -/
def readChar (b : UInt8) (bs : List UInt8) : Option Char × List UInt8 :=
  match lead? b with
  | none => (none, bs)
  | some l =>
    let (number, rest) := follow l.following l.bits l.low l.high bs
    (number.map Char.ofNat, rest)

theorem length_readChar_le (b : UInt8) (bs : List UInt8) :
    (readChar b bs).2.length ≤ bs.length := by
  unfold readChar
  split
  · exact Nat.le_refl _
  · exact length_follow_le ..

/-- Reads bytes as characters, with nothing in place of each part that is none. -/
def read : List UInt8 → List (Option Char)
  | [] => []
  | b :: bs => (readChar b bs).1 :: read (readChar b bs).2
termination_by bs => bs.length
decreasing_by
  have := length_readChar_le b bs
  simp only [List.length_cons]
  omega

/-- Reads bytes as a text, if all of them are characters. -/
def decode? (bs : List UInt8) : Option (List Char) :=
  (read bs).mapM id

/-- Reads bytes as a text with `mark` in place of each part that is no character. -/
def decodeMarking (mark : Char) (bs : List UInt8) : List Char :=
  (read bs).map fun c => c.getD mark

end MailCollector.Text.Utf8
