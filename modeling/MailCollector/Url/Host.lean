import MailCollector.Domain.Name
import MailCollector.Url.Percent

/-!
# Hosts

The host of an address is a name, four bytes in some numeric spelling, or eight groups of sixteen
bits between brackets. A name whose last part is a number is meant as a numeric spelling and has to
be a sound one. Names are compared without regard to case, so they are written in lower case.
-/

namespace MailCollector.Url

open MailCollector.Text

/-- The host of an address. -/
inductive Host where
  | domain (name : List Char)
  /-- An address of four bytes as one number. -/
  | ipv4 (number : Nat)
  /-- An address of eight groups of sixteen bits. -/
  | ipv6 (groups : List Nat)
deriving DecidableEq, Repr

/-! ### Four bytes -/

/-- A number of an address of four bytes, and its base. -/
structure Numeral4 where
  base : Nat
  digits : List Char

/-- Tells the base of a number from its beginning. -/
def numeral4 : List Char → Numeral4
  | '0' :: 'x' :: digits | '0' :: 'X' :: digits => ⟨16, digits⟩
  | '0' :: c :: digits => ⟨8, c :: digits⟩
  | digits => ⟨10, digits⟩

/-- The value of digits in a base. -/
def valueIn (base acc : Nat) : List Char → Option Nat
  | [] => some acc
  | c :: cs =>
    match hexValue? c with
    | some d => if d < base then valueIn base (acc * base + d) cs else none
    | none => none

/-- A number of an address of four bytes. A base without digits means zero. -/
def number4? (part : List Char) : Option Nat :=
  if part.isEmpty then none
  else
    let n := numeral4 part
    valueIn n.base 0 n.digits

/-- The parts of a name, without an empty one at its end. -/
def nameParts (name : List Char) : List (List Char) :=
  let parts := splitAt '.' name
  if 1 < parts.length ∧ parts.getLast? = some [] then parts.dropLast else parts

/-- Whether the last part of a name is a number. -/
def endsInNumber (name : List Char) : Bool :=
  match (nameParts name).getLast? with
  | none => false
  | some part =>
    (!part.isEmpty && part.all fun c => (digitValue? c).isSome) || (number4? part).isSome

/-- Joins the numbers of an address of four bytes. Each number but the last is one byte; the last
one fills the bytes that remain. -/
def join4 (place : Nat) : List Nat → Option Nat
  | [] => none
  | [last] => if last < Nat.pow 256 (place + 1) then some last else none
  | n :: ns =>
    match place with
    | 0 => none
    | place + 1 =>
      if n < 256 then (join4 place ns).map (n * Nat.pow 256 (place + 1) + ·) else none

/-- Reads an address of four bytes. -/
def ipv4? (name : List Char) : Option Nat := do
  let numbers ← (nameParts name).mapM number4?
  join4 3 numbers

/-! ### Eight groups -/

/-- What was read of an address of eight groups: the groups so far, and after how many of them the
double colon stood. -/
structure Groups where
  groups : List Nat := []
  gap : Option Nat := none

/-- The address of some groups. The double colon stands for the groups that are missing. -/
def Groups.finish (g : Groups) : Option (List Nat) :=
  match g.gap with
  | none => if g.groups.length = 8 then some g.groups else none
  | some gap =>
    if g.groups.length < 8 then
      some (g.groups.take gap ++ List.replicate (8 - g.groups.length) 0 ++ g.groups.drop gap)
    else none

/-- A byte in decimal digits without a leading zero. -/
def byte? (digits : List Char) : Option Nat :=
  match digits with
  | [] => none
  | '0' :: _ :: _ => none
  | digits => (readDigits 0 digits).filter (· < 256)

/-- Reads the last two groups of an address when they are given as four bytes. -/
def lastGroups? (cs : List Char) : Option (List Nat) := do
  match ← (splitAt '.' cs).mapM byte? with
  | [a, b, c, d] => some [a * 256 + b, c * 256 + d]
  | _ => none

/-- Reads groups to the end of the text. Each step takes at least one character, so `fuel` need not
exceed the number of characters. -/
def readGroups : (fuel : Nat) → Groups → List Char → Option Groups
  | 0, _, _ => none
  | _ + 1, g, [] => some g
  | fuel + 1, g, ':' :: cs =>
    if g.gap.isSome ∨ 8 ≤ g.groups.length then none
    else readGroups fuel { g with gap := some g.groups.length } cs
  | fuel + 1, g, cs =>
    if 8 ≤ g.groups.length then none
    else
      let digits := (cs.take 4).takeWhile fun c => (hexValue? c).isSome
      match valueIn 16 0 digits, cs.drop digits.length with
      | some value, [] => some { g with groups := g.groups ++ [value] }
      | some value, ':' :: c :: rest =>
        readGroups fuel { g with groups := g.groups ++ [value] } (c :: rest)
      | _, '.' :: _ =>
        if 6 < g.groups.length then none
        else (lastGroups? cs).map fun last => { g with groups := g.groups ++ last }
      | _, _ => none

/-- Reads an address of eight groups. A single colon at its beginning means nothing. -/
def ipv6? (cs : List Char) : Option (List Nat) := do
  let groups ← match cs with
    | ':' :: ':' :: rest => readGroups (cs.length + 1) { gap := some 0 } rest
    | ':' :: _ | [] | [_] => none
    | _ => readGroups (cs.length + 1) {} cs
  groups.finish

/-! ### Names -/

/-- The characters that no spelling of a name contains. -/
def isForbiddenInName (c : Char) : Bool :=
  c.toNat ≤ 0x20 || c.toNat == 0x7F ||
  c ∈ ['%', '#', '/', ':', '<', '>', '?', '@', '[', '\\', ']', '^', '|']

/-- The characters that no other host contains. -/
def isForbiddenInOpaque (c : Char) : Bool :=
  c ∈ ['\x00', '\t', '\n', '\r', ' ', '#', '/', ':', '<', '>', '?', '@', '[', '\\', ']', '^', '|']

/-- The spelling of a name, unless it contains a character that no spelling contains. -/
def name? (cs : List Char) : Option (List Char) :=
  (Domain.spelling? cs).filter fun name => !name.any isForbiddenInName

/-- Reads the host of a web server. Parts of it may be percent-encoded. -/
def host? (cs : List Char) : Option Host :=
  match cs with
  | '[' :: rest =>
    if rest.getLast? = some ']' then (ipv6? rest.dropLast).map .ipv6 else none
  | cs => do
    let name ← name? (Utf8.decodeMarking '\uFFFD' (percentDecode cs))
    if name.isEmpty then none
    else if endsInNumber name then (ipv4? name).map .ipv4
    else some (.domain name)

/-- Whether a text is a host where names are not looked into. -/
def isOpaqueHost (cs : List Char) : Bool :=
  match cs with
  | '[' :: rest => rest.getLast? == some ']' && (ipv6? rest.dropLast).isSome
  | cs => !cs.any isForbiddenInOpaque

/-! ### Writing hosts -/

/-- The bytes of a number, the most significant of four first. -/
def bytes4 (n : Nat) : List Nat :=
  [n / 16777216 % 256, n / 65536 % 256, n / 256 % 256, n % 256]

/-- The number of zeros at the front. -/
def leadingZeros : List Nat → Nat
  | 0 :: ns => leadingZeros ns + 1
  | _ => 0

/-- The first of the longest runs of zeros, as its place and length. -/
def longestZeros (place : Nat) : List Nat → Nat × Nat
  | [] => (place, 0)
  | n :: ns =>
    let here := (place, leadingZeros (n :: ns))
    let later := longestZeros (place + 1) ns
    if later.2 ≤ here.2 then here else later

/-- Groups between colons. -/
def groupsText (groups : List Nat) : List Char :=
  [':'].intercalate (groups.map hexadecimal)

/-- An address of eight groups, with its longest run of two or more zeros as a double colon. -/
def ipv6Text (groups : List Nat) : List Char :=
  let (place, count) := longestZeros 0 groups
  if count < 2 then groupsText groups
  else groupsText (groups.take place) ++ ':' :: ':' :: groupsText (groups.drop (place + count))

/-- A host as written. -/
def Host.text : Host → List Char
  | domain name => name
  | ipv4 number => ['.'].intercalate ((bytes4 number).map decimal)
  | ipv6 groups => '[' :: (ipv6Text groups ++ [']'])

end MailCollector.Url
