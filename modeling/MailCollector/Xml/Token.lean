import MailCollector.Text.Blank
import MailCollector.Xml.Reference

/-!
# Tokens of a document

A document is a sequence of tags, pieces of character data, and things that are skipped: comments,
instructions and the document type. Tokens are taken off the front of the text one at a time, each
one shorter than what was there, so reading ends; it ends early where the text is no markup. A piece
of text loses the blanks at its ends and keeps its references, which are resolved only where the
text counts.
-/

namespace MailCollector.Xml

open MailCollector.Text

/-- Why a document cannot be read. -/
inductive Fault where
  | malformed
  | badAttribute
  | badAttributeValue
  | badText
  /-- An element is still open at the end. -/
  | truncated
  /-- There is no element at all. -/
  | empty
deriving DecidableEq, Repr

/-- The text of a fault. -/
def Fault.message : Fault → String
  | malformed => "malformed XML"
  | badAttribute => "bad attribute"
  | badAttributeValue => "bad attribute value"
  | badText => "bad text"
  | truncated => "truncated XML document"
  | empty => "empty response"

/-- A token. Tags have their full name. -/
inductive Token where
  | opening (name : String) (attributes : List (String × String))
  /-- A tag that opens and closes an element at once. -/
  | single (name : String) (attributes : List (String × String))
  | closing (name : String)
  /-- Character data with its references unresolved. -/
  | text (raw : List Char)
  /-- Character data that is taken as it stands. -/
  | verbatim (content : List Char)
  | skipped
deriving DecidableEq, Repr

/-! ### Finding the end -/

/-- Splits a text around the first occurrence of `close`. -/
def splitAround? (close : List Char) : List Char → Option (List Char × List Char)
  | [] => none
  | c :: cs =>
    if close.isPrefixOf (c :: cs) then some ([], (c :: cs).drop close.length)
    else (splitAround? close cs).map fun s => (c :: s.1, s.2)

/-- Splits a text around the sign that ends a tag. Between quotes that sign means itself. -/
def splitTag? (quote : Option Char) : List Char → Option (List Char × List Char)
  | [] => none
  | c :: cs =>
    let go := fun quote => (splitTag? quote cs).map fun s => (c :: s.1, s.2)
    match quote with
    | some q => go (if c = q then none else some q)
    | none =>
      if c = '>' then some ([], cs)
      else go (if c = '"' ∨ c = '\'' then some c else none)

/-- Splits a text around the sign that ends a document type, in which angle brackets nest. -/
def splitDoctype? (depth : Nat) : List Char → Option (List Char × List Char)
  | [] => none
  | c :: cs =>
    let go := fun depth => (splitDoctype? depth cs).map fun s => (c :: s.1, s.2)
    if c = '<' then go (depth + 1)
    else if c = '>' then if depth = 0 then some ([], cs) else go (depth - 1)
    else go depth

/-! ### Tags -/

/-- The part of a name after its first colon, or the whole name. -/
def localName (name : List Char) : List Char :=
  match name.dropWhile (· != ':') with
  | [] => name
  | _ :: rest => rest

/-- Reads the attributes of a tag, by their local names. `seen` holds the full names before: a full
name may occur once only. Each step takes at least one character, so `fuel` need not exceed the
number of characters. -/
def readAttributes (seen : List (List Char)) :
    (fuel : Nat) → List Char → Except Fault (List (String × String))
  | 0, _ => .ok []
  | fuel + 1, cs =>
    match cs.dropWhile isMarkupBlank with
    | [] => .ok []
    | c :: cs =>
      let inName := fun c => !(c == '=' || isMarkupBlank c)
      let key := c :: cs.takeWhile inName
      match (cs.dropWhile inName).dropWhile isMarkupBlank with
      | '=' :: cs =>
        if key ∈ seen then .error .badAttribute
        else
          match cs.dropWhile isMarkupBlank with
          | [] => .error .badAttribute
          | quote :: cs =>
            if quote = '"' ∨ quote = '\'' then
              match splitAround? [quote] cs with
              | none => .error .badAttribute
              | some (raw, cs) =>
                match unescape? raw with
                | none => .error .badAttributeValue
                | some value => do
                  let attributes ← readAttributes (key :: seen) fuel cs
                  .ok ((String.ofList (localName key), String.ofList value) :: attributes)
            else .error .badAttribute
      | _ => .error .badAttribute

/-- Whether a tag closes the element that it opens. -/
def closesItself (tag : List Char) : Bool :=
  tag.getLast? == some '/'

/-- The token of an opening tag, given what stands between its angle brackets. -/
def openingToken (tag : List Char) : Except Fault Token :=
  let body := if closesItself tag then tag.dropLast else tag
  let inName := fun c => !isMarkupBlank c
  let name := String.ofList (body.takeWhile inName)
  let rest := body.dropWhile inName
  match readAttributes [] (rest.length + 1) rest with
  | .error fault => .error fault
  | .ok attributes =>
    .ok (if closesItself tag then .single name attributes else .opening name attributes)

/-- The name in a closing tag, without the blanks after it. -/
def closingName (tag : List Char) : List Char :=
  match trimEnd isMarkupBlank tag with
  | [] => tag
  | name => name

/-! ### Tokens -/

/-- What stands at the front of a text. -/
inductive Front where
  | token (t : Token) (rest : List Char)
  | fault (f : Fault)
  | finished
deriving DecidableEq, Repr

/-- A skipped token, if its end was found. -/
def skippedUpTo : Option (List Char × List Char) → Front
  | some (_, rest) => .token .skipped rest
  | none => .fault .malformed

/-- Takes a character off the front if it is the small or the capital form of a letter. -/
def takeLetter? (small capital : Char) : List Char → Option (List Char)
  | c :: cs => if c = small ∨ c = capital then some cs else none
  | [] => none

/-- Takes the word that begins a document type off the front. -/
def takeDoctypeWord? (cs : List Char) : Option (List Char) := do
  let cs ← takeLetter? 'd' 'D' cs
  let cs ← takeLetter? 'o' 'O' cs
  let cs ← takeLetter? 'c' 'C' cs
  let cs ← takeLetter? 't' 'T' cs
  let cs ← takeLetter? 'y' 'Y' cs
  let cs ← takeLetter? 'p' 'P' cs
  takeLetter? 'e' 'E' cs

/-- What begins with an opening angle bracket and an exclamation mark. -/
def frontOfDeclaration : List Char → Front
  | '-' :: '-' :: rest => skippedUpTo (splitAround? ['-', '-', '>'] rest)
  | '[' :: 'C' :: 'D' :: 'A' :: 'T' :: 'A' :: '[' :: rest =>
    match splitAround? [']', ']', '>'] rest with
    | some (content, rest) => .token (.verbatim content) rest
    | none => .fault .malformed
  | rest =>
    match (takeDoctypeWord? rest).bind (splitDoctype? 0) with
    | some (content, rest) =>
      if content.all isMarkupBlank then .fault .malformed else .token .skipped rest
    | none => .fault .malformed

/-- What begins with an opening angle bracket. -/
def frontOfMarkup : List Char → Front
  | [] => .fault .malformed
  | '!' :: rest => frontOfDeclaration rest
  | '?' :: '>' :: _ => .fault .malformed
  | '?' :: rest => skippedUpTo (splitAround? ['?', '>'] rest)
  | '/' :: rest =>
    match splitTag? none rest with
    | some (tag, rest) => .token (.closing (String.ofList (closingName tag))) rest
    | none => .fault .malformed
  | rest =>
    match splitTag? none rest with
    | some (tag, rest) =>
      match openingToken tag with
      | .ok t => .token t rest
      | .error fault => .fault fault
    | none => .fault .malformed

/-- The token at the front of a text, after the blanks there. -/
def front (cs : List Char) : Front :=
  match cs.dropWhile isMarkupBlank with
  | [] => .finished
  | '<' :: rest => frontOfMarkup rest
  | c :: cs =>
    .token (.text (trimEnd isMarkupBlank (c :: cs.takeWhile (· != '<'))))
      (cs.dropWhile (· != '<'))

/-! ### Reading ends -/

theorem length_dropWhile_le (p : Char → Bool) (cs : List Char) :
    (cs.dropWhile p).length ≤ cs.length :=
  (List.dropWhile_suffix p).length_le

theorem length_splitAround {close cs : List Char} {s : List Char × List Char}
    (h : splitAround? close cs = some s) : s.2.length ≤ cs.length := by
  induction cs generalizing s with
  | nil => simp [splitAround?] at h
  | cons c cs ih =>
    simp only [splitAround?] at h
    split at h
    · cases h
      simp only [List.length_drop]
      omega
    · obtain ⟨t, found, rfl⟩ := Option.map_eq_some_iff.1 h
      have := ih found
      exact Nat.le_succ_of_le this

theorem length_splitTag {quote : Option Char} {cs : List Char} {s : List Char × List Char}
    (h : splitTag? quote cs = some s) : s.2.length ≤ cs.length := by
  induction cs generalizing quote s with
  | nil => simp [splitTag?] at h
  | cons c cs ih =>
    simp only [splitTag?] at h
    split at h
    · obtain ⟨t, found, rfl⟩ := Option.map_eq_some_iff.1 h
      have := ih found
      exact Nat.le_succ_of_le this
    · split at h
      · cases h
        exact Nat.le_succ _
      · obtain ⟨t, found, rfl⟩ := Option.map_eq_some_iff.1 h
        have := ih found
        exact Nat.le_succ_of_le this

theorem length_splitDoctype {depth : Nat} {cs : List Char} {s : List Char × List Char}
    (h : splitDoctype? depth cs = some s) : s.2.length ≤ cs.length := by
  induction cs generalizing depth s with
  | nil => simp [splitDoctype?] at h
  | cons c cs ih =>
    have go : ∀ {d t}, (splitDoctype? d cs).map (fun s => (c :: s.1, s.2)) = some t →
        t.2.length ≤ (c :: cs).length := by
      intro d t h
      obtain ⟨u, found, rfl⟩ := Option.map_eq_some_iff.1 h
      have := ih found
      exact Nat.le_succ_of_le this
    simp only [splitDoctype?] at h
    split at h
    · exact go h
    · split at h
      · split at h
        · cases h
          exact Nat.le_succ _
        · exact go h
      · exact go h

theorem length_takeLetter {small capital : Char} {cs rest : List Char}
    (h : takeLetter? small capital cs = some rest) : rest.length ≤ cs.length := by
  cases cs with
  | nil => simp [takeLetter?] at h
  | cons c cs =>
    simp only [takeLetter?] at h
    split at h
    · cases h
      exact Nat.le_succ _
    · cases h

theorem length_takeDoctypeWord {cs rest : List Char} (h : takeDoctypeWord? cs = some rest) :
    rest.length ≤ cs.length := by
  simp only [takeDoctypeWord?, bind, Option.bind_eq_some_iff] at h
  obtain ⟨_, h1, _, h2, _, h3, _, h4, _, h5, _, h6, h7⟩ := h
  have := length_takeLetter h1
  have := length_takeLetter h2
  have := length_takeLetter h3
  have := length_takeLetter h4
  have := length_takeLetter h5
  have := length_takeLetter h6
  have := length_takeLetter h7
  omega

theorem length_skippedUpTo {s : Option (List Char × List Char)} {t : Token} {rest : List Char}
    {n : Nat} (h : skippedUpTo s = .token t rest) (le : ∀ u, s = some u → u.2.length ≤ n) :
    rest.length ≤ n := by
  cases s with
  | none => cases h
  | some u =>
    cases h
    exact le u rfl

theorem length_frontOfDeclaration {cs rest : List Char} {t : Token}
    (h : frontOfDeclaration cs = .token t rest) : rest.length ≤ cs.length := by
  unfold frontOfDeclaration at h
  split at h
  · have := length_skippedUpTo h fun _ found => length_splitAround found
    simp only [List.length_cons]
    omega
  · split at h
    · rename_i found
      cases h
      have := length_splitAround found
      simp only [List.length_cons] at *
      omega
    · cases h
  · split at h
    · rename_i found
      obtain ⟨_, word, found⟩ := Option.bind_eq_some_iff.1 found
      split at h
      · cases h
      · cases h
        exact Nat.le_trans (length_splitDoctype found) (length_takeDoctypeWord word)
    · cases h

theorem length_frontOfMarkup {cs rest : List Char} {t : Token}
    (h : frontOfMarkup cs = .token t rest) : rest.length ≤ cs.length := by
  unfold frontOfMarkup at h
  split at h
  · cases h
  · exact Nat.le_succ_of_le (length_frontOfDeclaration h)
  · cases h
  · exact Nat.le_succ_of_le (length_skippedUpTo h fun _ found => length_splitAround found)
  · split at h
    · rename_i found
      cases h
      exact Nat.le_succ_of_le (length_splitTag found)
    · cases h
  · split at h
    · rename_i found
      split at h
      · cases h
        exact length_splitTag found
      · cases h
    · cases h

/-- Taking a token leaves less than there was. -/
theorem length_front {cs rest : List Char} {t : Token} (h : front cs = .token t rest) :
    rest.length < cs.length := by
  have drop := length_dropWhile_le isMarkupBlank cs
  unfold front at h
  split at h
  · cases h
  · rename_i eq
    rw [eq, List.length_cons] at drop
    have := length_frontOfMarkup h
    omega
  · rename_i eq
    rw [eq, List.length_cons] at drop
    cases h
    exact Nat.lt_of_le_of_lt (length_dropWhile_le _ _) (by omega)

/-- All tokens of a text up to its end or its first fault. -/
def tokens (cs : List Char) : List Token × Option Fault :=
  match _h : front cs with
  | .finished => ([], none)
  | .fault f => ([], some f)
  | .token t rest =>
    let more := tokens rest
    (t :: more.1, more.2)
termination_by cs.length
decreasing_by exact length_front _h

end MailCollector.Xml
