import MailCollector.Unicode.CombiningClass
import MailCollector.Unicode.Composites

/-!
# The composed form of a text

Texts that stand for the same characters have one composed form. It is reached by taking every
character apart, putting the marks after a letter into the order of their classes, and composing as
much as possible again.
-/

namespace MailCollector.Unicode

/-! ### Korean syllables

A syllable is a leading consonant, a vowel and, optionally, a trailing consonant. The syllables are
numbered in the order of their parts.
-/

/-- The first syllable. -/
def firstSyllable : Nat := 0xAC00

/-- The first leading consonant, of 19. -/
def firstLeading : Nat := 0x1100

/-- The first vowel, of 21. -/
def firstVowel : Nat := 0x1161

/-- The place before the first trailing consonant, of 27. -/
def beforeTrailing : Nat := 0x11A7

/-- How many syllables begin with the same consonant and vowel. -/
def syllablesOfVowel : Nat := 28

/-- How many syllables begin with the same consonant. -/
def syllablesOfLeading : Nat := 21 * syllablesOfVowel

/-- The parts of a syllable. -/
def syllableParts? (c : Char) : Option (List Char) :=
  let n := c.toNat - firstSyllable
  if firstSyllable ≤ c.toNat ∧ n < 19 * syllablesOfLeading then
    let leading := Char.ofNat (firstLeading + n / syllablesOfLeading)
    let vowel := Char.ofNat (firstVowel + n % syllablesOfLeading / syllablesOfVowel)
    let trailing := n % syllablesOfVowel
    some (leading :: vowel :: if trailing = 0 then [] else [Char.ofNat (beforeTrailing + trailing)])
  else none

/-- The syllable of two parts, the first of which may be a syllable without a trailing consonant. -/
def syllable? (a b : Char) : Option Char :=
  let leading := a.toNat - firstLeading
  let vowel := b.toNat - firstVowel
  let start := a.toNat - firstSyllable
  let trailing := b.toNat - beforeTrailing
  if firstLeading ≤ a.toNat ∧ leading < 19 ∧ firstVowel ≤ b.toNat ∧ vowel < 21 then
    some (Char.ofNat (firstSyllable + leading * syllablesOfLeading + vowel * syllablesOfVowel))
  else if firstSyllable ≤ a.toNat ∧ start < 19 * syllablesOfLeading ∧
      start % syllablesOfVowel = 0 ∧ beforeTrailing < b.toNat ∧ trailing < syllablesOfVowel then
    some (Char.ofNat (a.toNat + trailing))
  else none

/-! ### Taking apart -/

/-- The most marks that a composite has. -/
def compositeDepth : Nat := 3

/-- Takes a character apart. The first part of a composite is taken apart at most `depth` times. -/
def apart : (depth : Nat) → Char → List Char
  | 0, c => [c]
  | depth + 1, c =>
    match parts? c with
    | some (a, b) => apart depth a ++ [b]
    | none => ((syllableParts? c).or (replacement? c)).getD [c]

/-- Puts a character before an ordered text, behind the marks that go before it. -/
def insertMark (c : Char) : List Char → List Char
  | [] => [c]
  | d :: ds =>
    if 0 < combiningClass d ∧ combiningClass d < combiningClass c then d :: insertMark c ds
    else c :: d :: ds

/-- The text with its marks in the order of their classes. -/
def ordered (cs : List Char) : List Char := cs.foldr insertMark []

/-! ### Composing -/

/-- The composite or syllable of two parts. -/
def compose? (a b : Char) : Option Char := (syllable? a b).or (composite? a b)

/-- Composes a letter with what follows it. The marks kept so far stand in `kept`, the last one
first; a mark is out of reach of the letter behind one of its own class or a higher one. -/
def composeFrom (letter : Char) (kept : List Char) : List Char → List Char
  | [] => letter :: kept.reverse
  | c :: cs =>
    let inReach := kept.head?.all fun k => combiningClass k < combiningClass c
    match if inReach then compose? letter c else none with
    | some composite => composeFrom composite kept cs
    | none =>
      if combiningClass c = 0 then letter :: (kept.reverse ++ composeFrom c [] cs)
      else composeFrom letter (c :: kept) cs

/-- Composes an ordered text. Marks at its beginning belong to no letter. -/
def composeAll : List Char → List Char
  | [] => []
  | c :: cs => if combiningClass c = 0 then composeFrom c [] cs else c :: composeAll cs

/-- The composed form of a text. -/
def composed (cs : List Char) : List Char :=
  composeAll (ordered (cs.flatMap (apart compositeDepth)))

/-- Whether a text is in its composed form. -/
def isComposed (cs : List Char) : Bool := composed cs == cs

end MailCollector.Unicode
