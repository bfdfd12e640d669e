import MailCollector.Domain.Mapping
import MailCollector.Domain.Punycode
import MailCollector.Unicode.Composed
import MailCollector.Unicode.Direction
import MailCollector.Unicode.Joining

/-!
# Labels of a name

The labels of a name stand between its dots. A label may be given by its plain spelling, which is
then read back, and has to be sound: it must not begin with a mark, and the invisible signs that
make letters join or keep them apart may stand only where that makes a difference. If a name contains
letters that are written to the left, each of its labels has to keep to one direction. Labels that
need a spelling have bounds on their size.
-/

namespace MailCollector.Domain

open MailCollector.Unicode

/-- A label, and the way it is spelled in ASCII. -/
structure Label where
  text : List Char
  spelling : List Char
deriving DecidableEq, Repr

/-! ### Signs between letters -/

/-- The sign that keeps letters apart. -/
def nonJoiner : Char := '\u200C'

/-- The sign that makes letters join. -/
def joiner : Char := '\u200D'

/-- Whether the text before a place, its last character first, ends in a sign that silences the
vowel. -/
def endsInVirama (before : List Char) : Bool :=
  before.head?.any fun c => combiningClass c == viramaClass

/-- Whether letters would join across a place. The text before it has its last character first. -/
def wouldJoin (before after : List Char) : Bool :=
  ((before.dropWhile isTransparent).head?.any joinsNext) &&
    ((after.dropWhile isTransparent).head?.any joinsPrevious)

/-- Whether the joining signs of a text may stand where they do. The text before it is given with
its last character first. -/
def joinsSoundly (before : List Char) : List Char → Bool
  | [] => true
  | c :: cs =>
    (if c = joiner then endsInVirama before
      else if c = nonJoiner then endsInVirama before || wouldJoin before cs
      else true) &&
      joinsSoundly (c :: before) cs

/-! ### Direction -/

/-- The directions that the characters of a text take part with. -/
def directionsOf (text : List Char) : List Direction := text.map direction

/-- Whether a text has letters or numbers that are written to the left. -/
def hasLeftward (text : List Char) : Bool :=
  (directionsOf text).any fun d => d == .leftward || d == .arabicNumber

/-- Whether a text has, before the marks at its end, a character with one of some directions. -/
def endsIn (directions : List Direction) (text : List Char) : Bool :=
  (((directionsOf text).reverse.dropWhile (· == .mark)).head?.any (· ∈ directions))

/-- Whether a text keeps to the direction of its first character, which has to be a letter. -/
def keepsDirection (text : List Char) : Bool :=
  let directions := directionsOf text
  match directions with
  | [] => true
  | .rightward :: _ =>
    directions.all (· ∈ [.rightward, .europeanNumber, .neutral, .mark]) &&
      endsIn [.rightward, .europeanNumber] text
  | .leftward :: _ =>
    directions.all (· ∈ [.leftward, .arabicNumber, .europeanNumber, .neutral, .mark]) &&
      endsIn [.leftward, .arabicNumber, .europeanNumber] text &&
      !(.arabicNumber ∈ directions && .europeanNumber ∈ directions)
  | _ => false

/-! ### Reading -/

namespace Label

/-- What a spelling begins with that stands for another text. -/
def mark : List Char := ['x', 'n', '-', '-']

/-- Whether a text is plain. -/
def isPlain (text : List Char) : Bool := text.all fun c => c.toNat < 128

/-- The most characters of a label that needs a spelling. -/
def maxSize : Nat := 1000

/-- The most characters of a spelling after its mark. -/
def maxSpellingSize : Nat := 2000

/-- Whether the characters of a label may stand as they do. -/
def isSound (text : List Char) : Bool :=
  !(text.head?.any isMark) && joinsSoundly [] text && (isPlain text || text.length ≤ maxSize)

/-- Reads a label that was spelled. Only what needs a spelling has one, and only in the form in
which it would be compared. -/
def ofSpelling? (spelling : List Char) : Option Label := do
  let spelled := spelling.drop mark.length
  let text ← if spelled.length ≤ maxSpellingSize then Punycode.decode? spelled else none
  if isPlain text || mark.isPrefixOf text || !isComposed text || !text.all meansItself then none
  else some ⟨text, spelling⟩

/-- Reads a label in its composed form. -/
def read? (cs : List Char) : Option Label :=
  if !mark.isPrefixOf cs then
    if !isSound cs then none
    else some ⟨cs, if isPlain cs then cs else mark ++ Punycode.encode cs⟩
  else if isPlain cs then (ofSpelling? cs).filter fun label => isSound label.text
  else none

end Label

end MailCollector.Domain
