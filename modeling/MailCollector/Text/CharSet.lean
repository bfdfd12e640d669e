import MailCollector.Text.Blank
import MailCollector.Text.Printable

/-!
# Sets of characters

A set of characters is built from ranges and named classes. `contains` tells the characters that
belong to it.
-/

namespace MailCollector.Text

/-- A named class of characters. -/
inductive CharClass where
  | digit
  | blank
  | word
deriving DecidableEq, Repr

/-- Whether a character belongs to a class. Beyond ASCII everything printable belongs to words. -/
def CharClass.contains (c : Char) : CharClass → Bool
  | digit => c.isDigit
  | blank => isBlank c
  | word => c.isAlphanum || c == '_' || (128 ≤ c.toNat && isPrintable c && !isBlank c)

/-- A set of characters. -/
inductive CharSet where
  | nothing
  /-- All characters from one to another. The case of ASCII letters may not count. -/
  | range (first last : Char) (isCaseless : Bool)
  | ofClass (kind : CharClass)
  | complement (s : CharSet)
  | union (s t : CharSet)
  | common (s t : CharSet)
deriving DecidableEq, Repr

namespace CharSet

/-- Whether a character belongs to a set. -/
def contains (c : Char) : CharSet → Bool
  | nothing => false
  | range first last isCaseless =>
    let isIn := fun d : Char => decide (first ≤ d ∧ d ≤ last)
    isIn c || (isCaseless && (isIn c.toLower || isIn c.toUpper))
  | ofClass kind => kind.contains c
  | complement s => !contains c s
  | union s t => contains c s || contains c t
  | common s t => contains c s && contains c t

/-- The set of one character. -/
def single (c : Char) : CharSet := range c c false

/-- The characters of some ranges. -/
def ofRanges (ranges : List (Char × Char)) : CharSet :=
  ranges.foldr (fun (first, last) rest => union (range first last false) rest) nothing

/-- The characters of a set that do not belong to another one. -/
def without (s t : CharSet) : CharSet := common s (complement t)

/-- The characters that belong to just one of two sets. -/
def eitherOf (s t : CharSet) : CharSet := union (s.without t) (t.without s)

/-- A set in which the case of letters does not count. -/
def ignoringCase : CharSet → CharSet
  | nothing => nothing
  | range first last _ => range first last true
  | ofClass kind => ofClass kind
  | complement s => complement s.ignoringCase
  | union s t => union s.ignoringCase t.ignoringCase
  | common s t => common s.ignoringCase t.ignoringCase

/-- The classes of ASCII characters that have a name. -/
def ofName? (name : String) : Option CharSet :=
  ([ ("alnum", [('0', '9'), ('A', 'Z'), ('a', 'z')]),
     ("alpha", [('A', 'Z'), ('a', 'z')]),
     ("ascii", [('\x00', '\x7F')]),
     ("blank", [('\t', '\t'), (' ', ' ')]),
     ("cntrl", [('\x00', '\x1F'), ('\x7F', '\x7F')]),
     ("digit", [('0', '9')]),
     ("graph", [('!', '~')]),
     ("lower", [('a', 'z')]),
     ("print", [(' ', '~')]),
     ("punct", [('!', '/'), (':', '@'), ('[', '\x60'), ('\x7b', '~')]),
     ("space", [('\t', '\r'), (' ', ' ')]),
     ("upper", [('A', 'Z')]),
     ("word", [('0', '9'), ('A', 'Z'), ('_', '_'), ('a', 'z')]),
     ("xdigit", [('0', '9'), ('A', 'F'), ('a', 'f')]) ].lookup name).map ofRanges

end CharSet

end MailCollector.Text
