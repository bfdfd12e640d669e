/-!
# Blank characters and trimming

Two notions of blank occur in mail data. Markup knows four blank characters; a text value is
trimmed by the Unicode property White_Space. Both are predicates here, and one trimming function
takes either of them.
-/

namespace MailCollector.Text

/-- The characters with the Unicode property White_Space. -/
def isBlank (c : Char) : Bool :=
  let n := c.toNat
  (0x09 ≤ n && n ≤ 0x0D) || n == 0x20 || n == 0x85 || n == 0xA0 || n == 0x1680 ||
  (0x2000 ≤ n && n ≤ 0x200A) || n == 0x2028 || n == 0x2029 || n == 0x202F || n == 0x205F ||
  n == 0x3000

/-- The characters that separate things inside markup: space, tab, line feed, carriage return. -/
def isMarkupBlank (c : Char) : Bool :=
  c == ' ' || c == '\t' || c == '\n' || c == '\r'

/-- Drops the leading characters that satisfy `p`. -/
def trimStart (p : Char → Bool) (cs : List Char) : List Char :=
  cs.dropWhile p

/-- Drops the trailing characters that satisfy `p`. A character is kept when it or something after
it has to stay. -/
def trimEnd (p : Char → Bool) : List Char → List Char
  | [] => []
  | c :: cs =>
    match trimEnd p cs with
    | [] => if p c then [] else [c]
    | kept => c :: kept

/-- Drops the characters that satisfy `p` at both ends and keeps those between. -/
def trim (p : Char → Bool) (cs : List Char) : List Char :=
  trimEnd p (trimStart p cs)

/-- A text without the white space at its two ends. -/
def trimmed (s : String) : String :=
  String.ofList (trim isBlank s.toList)

/-- What remains of a text after trimming, or nothing if that is empty. -/
def trimmed? (s : String) : Option String :=
  if (trimmed s).isEmpty then none else some (trimmed s)

/-- An absent text in place of an empty one. -/
def nonEmpty (s : Option String) : Option String :=
  s.filter fun t => !t.isEmpty

end MailCollector.Text
