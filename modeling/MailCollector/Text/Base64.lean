/-!
# Base64

Bytes are taken three at a time and written as four characters of six bits each. One or two bytes
that remain at the end are filled up with zero bits, and the characters that would hold nothing but
filling are written as equals signs.
-/

namespace MailCollector.Text.Base64

/-- The character for a group of six bits. -/
def digit (n : Nat) : Char :=
  let n := n % 64
  Char.ofNat <|
    if n < 26 then 65 + n
    else if n < 52 then 71 + n
    else if n < 62 then n - 4
    else if n = 62 then 43
    else 47

/-- The text of bytes. -/
def encode : List UInt8 → List Char
  | [] => []
  | [a] =>
    let n := a.toNat * 65536
    [digit (n / 262144), digit (n / 4096), '=', '=']
  | [a, b] =>
    let n := a.toNat * 65536 + b.toNat * 256
    [digit (n / 262144), digit (n / 4096), digit (n / 64), '=']
  | a :: b :: c :: rest =>
    let n := a.toNat * 65536 + b.toNat * 256 + c.toNat
    digit (n / 262144) :: digit (n / 4096) :: digit (n / 64) :: digit n :: encode rest

end MailCollector.Text.Base64
