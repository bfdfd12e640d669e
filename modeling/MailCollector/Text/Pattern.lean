import MailCollector.Text.CharSet

/-!
# Patterns

A pattern describes a set of texts. It is matched by derivatives: what a pattern leaves to be
matched after a character is a pattern again, so that a text is matched by taking one derivative for
each of its characters. Whether a pattern matches the empty text may depend on the characters around
it.
-/

namespace MailCollector.Text

/-! ### Places -/

/-- What a place between two characters may have to be. -/
inductive Place where
  | start
  | finish
  /-- At the start, or after a line break. -/
  | lineStart
  /-- At the end, or before a line break. -/
  | lineFinish
  /-- Between a word and what is not a word. -/
  | edge
  | noEdge
  /-- Where a word begins. -/
  | wordStart
  /-- Where a word ends. -/
  | wordFinish
  /-- Not after a part of a word. -/
  | noWordBefore
  /-- Not before a part of a word. -/
  | noWordAfter
deriving DecidableEq, Repr

/-- Whether a place is as it has to be, given the characters before and after it. -/
def Place.holds (before after : Option Char) (place : Place) : Bool :=
  let isWord := fun c : Option Char => c.any (CharClass.word.contains ·)
  match place with
  | start => before.isNone
  | finish => after.isNone
  | lineStart => before.all (· == '\n')
  | lineFinish => after.all (· == '\n')
  | edge => isWord before != isWord after
  | noEdge => isWord before == isWord after
  | wordStart => !isWord before && isWord after
  | wordFinish => isWord before && !isWord after
  | noWordBefore => !isWord before
  | noWordAfter => !isWord after

/-! ### Patterns -/

/-- A pattern. -/
inductive Pattern where
  /-- Matches no text. -/
  | never
  /-- Matches the empty text. -/
  | empty
  | one (set : CharSet)
  /-- Matches the empty text at some places. -/
  | place (place : Place)
  | sequence (first second : Pattern)
  | choice (first second : Pattern)
  | many (item : Pattern)
deriving DecidableEq, Repr

namespace Pattern

/-- One pattern after another, without parts that do not count. -/
def followedBy : Pattern → Pattern → Pattern
  | never, _ => never
  | _, never => never
  | empty, q => q
  | p, empty => p
  | p, q => sequence p q

/-- Either of two patterns, without parts that do not count. -/
def orElse (p q : Pattern) : Pattern :=
  match p, q with
  | never, q => q
  | p, never => p
  | p, q => if p = q then p else choice p q

/-- Whether a pattern matches the empty text at a place. -/
def isOptional (before after : Option Char) : Pattern → Bool
  | never | one _ => false
  | empty | many _ => true
  | place p => p.holds before after
  | sequence p q => isOptional before after p && isOptional before after q
  | choice p q => isOptional before after p || isOptional before after q

/-- What is left to be matched after a character. -/
def after (before : Option Char) (c : Char) : Pattern → Pattern
  | never | empty | place _ => never
  | one set => if set.contains c then empty else never
  | sequence p q =>
    let rest := (after before c p).followedBy q
    if isOptional before (some c) p then rest.orElse (after before c q) else rest
  | choice p q => (after before c p).orElse (after before c q)
  | many p => (after before c p).followedBy (many p)

/-- Whether a pattern matches a beginning of a text. -/
def matchesHere (before : Option Char) (p : Pattern) : List Char → Bool
  | [] => p.isOptional before none
  | c :: cs =>
    p.isOptional before (some c) ||
      (p != never && matchesHere (some c) (p.after before c) cs)

/-- Whether a pattern matches some part of a text. -/
def occursAfter (before : Option Char) (p : Pattern) : List Char → Bool
  | [] => p.matchesHere before []
  | c :: cs => p.matchesHere before (c :: cs) || occursAfter (some c) p cs

/-- Whether a pattern matches some part of a text. -/
def occursIn (p : Pattern) (text : String) : Bool := p.occursAfter none text.toList

/-- A pattern several times. -/
def times (p : Pattern) : Nat → Pattern
  | 0 => empty
  | n + 1 => p.followedBy (times p n)

/-- A pattern up to several times. -/
def upTo (p : Pattern) : Nat → Pattern
  | 0 => empty
  | n + 1 => empty.orElse (p.followedBy (upTo p n))

/-- A pattern at least so many times, and at most so many times if there is a bound. -/
def repeated (p : Pattern) (low : Nat) : Option Nat → Pattern
  | none => (p.times low).followedBy (many p)
  | some high => (p.times low).followedBy (p.upTo (high - low))

end Pattern

end MailCollector.Text
