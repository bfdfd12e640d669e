import MailCollector.Text.Decimal
import MailCollector.Text.Pattern
import MailCollector.Text.Split

/-!
# Reading patterns

In the usual notation of patterns most characters stand for themselves. A dot stands for any
character but a line break, brackets enclose a set, a backslash takes away or gives a special
meaning, bars separate alternatives, parentheses enclose a part, and a sign after a part tells how
often it is repeated. Letters after `(?` say whether the case of letters counts, whether a dot stands
for a line break too, and whether lines count as texts.

A text is first cut into signs, then the signs are put together. In both steps what is still open is
kept on a stack.
-/

namespace MailCollector.Text.Pattern

/-! ### What follows a backslash -/

/-- What is written with a backslash. -/
inductive Escape where
  | char (c : Char)
  | set (s : CharSet)
  | place (p : Place)

/-- The class that a letter means. -/
def class? (c : Char) : Option CharSet :=
  match c with
  | 'd' => some (.ofClass .digit)
  | 'D' => some (.complement (.ofClass .digit))
  | 's' => some (.ofClass .blank)
  | 'S' => some (.complement (.ofClass .blank))
  | 'w' => some (.ofClass .word)
  | 'W' => some (.complement (.ofClass .word))
  | _ => none

/-- The character that stands for itself or for a control character. -/
def character? (c : Char) : Option Char :=
  match c with
  | 'n' => some '\n'
  | 't' => some '\t'
  | 'r' => some '\r'
  | 'f' => some '\x0C'
  | 'v' => some '\x0B'
  | 'a' => some '\x07'
  | c => if c.isAlphanum || 128 ≤ c.toNat then none else some c

/-- The place that a letter means. -/
def place? (c : Char) : Option Place :=
  match c with
  | 'A' => some .start
  | 'z' => some .finish
  | 'b' => some .edge
  | 'B' => some .noEdge
  | '<' => some .wordStart
  | '>' => some .wordFinish
  | _ => none

/-- The place that a name means. -/
def namedPlace? (name : String) : Option Place :=
  [ ("start", .wordStart), ("end", .wordFinish), ("start-half", .noWordBefore),
    ("end-half", .noWordAfter) ].lookup name

/-- The number of digits after the letter of a hexadecimal number. -/
def hexSize? (c : Char) : Option Nat :=
  [('x', 2), ('u', 4), ('U', 8)].lookup c

/-- The character of a hexadecimal number. -/
def ofHex? (digits : List Char) : Option Char := do
  let values ← digits.mapM hexValue?
  let n := values.foldl (fun n d => 16 * n + d) 0
  if digits.isEmpty then none
  else if n.isValidChar then some (Char.ofNat n)
  else none

/-- Splits off what stands before a closing brace. -/
def upToBrace? (cs : List Char) : Option (List Char × List Char) :=
  let (inside, rest) := splitOff '\x7d' cs
  rest.map (inside, ·)

/-- Reads what follows a backslash. -/
def escape? : List Char → Option (Escape × List Char)
  | [] => none
  | 'b' :: '\x7b' :: c :: cs =>
    if c.isAlpha ∨ c = '-' then do
      let (name, rest) ← upToBrace? (c :: cs)
      (namedPlace? (String.ofList name)).map fun p => (.place p, rest)
    else some (.place .edge, '\x7b' :: c :: cs)
  | c :: cs =>
    match hexSize? c, class? c, place? c with
    | some size, _, _ =>
      match cs with
      | '\x7b' :: cs => do
        let (digits, rest) ← upToBrace? cs
        (ofHex? digits).map fun d => (.char d, rest)
      | cs =>
        if cs.length < size then none
        else (ofHex? (cs.take size)).map fun d => (.char d, cs.drop size)
    | none, some s, _ => some (.set s, cs)
    | none, none, some p => some (.place p, cs)
    | none, none, none => (character? c).map fun d => (.char d, cs)

/-! ### Sets -/

/-- How the sets before and after a sign are combined. -/
inductive SetSign where
  | both
  | without
  | eitherOf

/-- Combines the sets before and after a sign. -/
def SetSign.combine : SetSign → CharSet → CharSet → CharSet
  | both => .common
  | without => .without
  | eitherOf => .eitherOf

/-- A set whose bracket is not closed yet. -/
structure OpenSet where
  isNegated : Bool := false
  /-- What stands before the last sign, with that sign. -/
  before : Option (CharSet × SetSign) := none
  items : CharSet := .nothing

namespace OpenSet

/-- Adds a part to a set. -/
def add (o : OpenSet) (s : CharSet) : OpenSet := { o with items := .union s o.items }

/-- What has been read of a set. -/
def sum (o : OpenSet) : CharSet :=
  match o.before with
  | none => o.items
  | some (s, sign) => sign.combine s o.items

/-- Goes on after a sign. -/
def follow (o : OpenSet) (sign : SetSign) : OpenSet :=
  { o with before := some (o.sum, sign), items := .nothing }

/-- Closes a set. -/
def closed (o : OpenSet) : CharSet := if o.isNegated then .complement o.sum else o.sum

/-- Opens a set. Hyphens that come first, and a bracket that comes first, stand for themselves. -/
def opened (cs : List Char) : OpenSet × List Char :=
  let (isNegated, cs) := match cs with
    | '^' :: cs => (true, cs)
    | cs => (false, cs)
  match cs with
  | '-' :: cs =>
    ({ isNegated := isNegated, items := .single '-' }, cs.dropWhile (· == '-'))
  | ']' :: cs => ({ isNegated := isNegated, items := .single ']' }, cs)
  | cs => ({ isNegated := isNegated }, cs)

end OpenSet

/-- Reads the name of a class of ASCII characters after its opening bracket. -/
def named? : List Char → Option (CharSet × List Char)
  | ':' :: cs =>
    let (isNegated, cs) := match cs with
      | '^' :: cs => (true, cs)
      | cs => (false, cs)
    match splitOff ':' cs with
    | (name, some (']' :: rest)) =>
      (CharSet.ofName? (String.ofList name)).map fun s =>
        (if isNegated then .complement s else s, rest)
    | _ => none
  | _ => none

/-- Reads a part of a set: a class, or a character. -/
def element? : List Char → Option ((CharSet ⊕ Char) × List Char)
  | [] => none
  | '\\' :: cs => do
    let (escape, rest) ← escape? cs
    match escape with
    | .char c => some (.inr c, rest)
    | .set s => some (.inl s, rest)
    | .place _ => none
  | c :: cs => some (.inr c, cs)

/-- Reads a part of a set, or two characters with a hyphen between. -/
def range? (cs : List Char) : Option (CharSet × List Char) := do
  let (first, rest) ← element? cs
  let alone := match first with
    | .inl s => s
    | .inr c => .single c
  match rest with
  | '-' :: ']' :: _ | '-' :: '-' :: _ => some (alone, rest)
  | '-' :: rest => do
    let (last, rest) ← element? rest
    match first, last with
    | .inr c, .inr d => if c ≤ d then some (.range c d false, rest) else none
    | _, _ => none
  | rest => some (alone, rest)

/-- Reads a set up to its closing bracket, given the sets around it. Each step takes a character, so
`fuel` need not exceed the number of characters. -/
def set? : (fuel : Nat) → (inner : OpenSet) → (outer : List OpenSet) → List Char →
    Option (CharSet × List Char)
  | 0, _, _, _ => none
  | _, _, _, [] => none
  | fuel + 1, inner, outer, '[' :: cs =>
    match named? cs with
    | some (s, rest) => set? fuel (inner.add s) outer rest
    | none =>
      let (next, rest) := OpenSet.opened cs
      set? fuel next (inner :: outer) rest
  | fuel + 1, inner, outer, ']' :: cs =>
    match outer with
    | [] => some (inner.closed, cs)
    | next :: outer => set? fuel (next.add inner.closed) outer cs
  | fuel + 1, inner, outer, '&' :: '&' :: cs => set? fuel (inner.follow .both) outer cs
  | fuel + 1, inner, outer, '-' :: '-' :: cs => set? fuel (inner.follow .without) outer cs
  | fuel + 1, inner, outer, '~' :: '~' :: cs => set? fuel (inner.follow .eitherOf) outer cs
  | fuel + 1, inner, outer, cs => do
    let (s, rest) ← range? cs
    set? fuel (inner.add s) outer rest

/-! ### Signs -/

/-- What the letters after `(?` may change. -/
structure Manner where
  /-- Whether the case of letters does not count. -/
  isCaseless : Bool := false
  /-- Whether the beginning and the end of a line count as those of the text. -/
  isByLine : Bool := false
  /-- Whether a dot stands for a line break too. -/
  hasBreaks : Bool := false

/-- Turns what a letter means on or off. The other letters change nothing about what is matched. -/
def Manner.change (m : Manner) : Char × Bool → Manner
  | ('i', isOn) => { m with isCaseless := isOn }
  | ('m', isOn) => { m with isByLine := isOn }
  | ('s', isOn) => { m with hasBreaks := isOn }
  | _ => m

/-- The letters that may stand after `(?`. -/
def mannerLetters : List Char := ['i', 'm', 's', 'u', 'U', 'R']

/-- A sign of a pattern. -/
inductive Sign where
  | char (c : Char)
  | set (s : CharSet)
  | place (p : Place)
  | dot
  | lineStart
  | lineFinish
  | opening (name : Option String) (changes : List (Char × Bool))
  | closing
  | bar
  | manner (changes : List (Char × Bool))
  | repetition (low : Nat) (high : Option Nat)

/-- The name of a part, if the sign opens a part that has one. -/
def Sign.name? : Sign → Option String
  | opening name _ => name
  | _ => none

/-- The most times that a part may be repeated by number. -/
def maxTimes : Nat := 1000

/-- Reads a number of times. -/
def number? (cs : List Char) : Option Nat :=
  match trim isBlank cs with
  | [] => none
  | digits => (readDigits 0 digits).filter (· ≤ maxTimes)

/-- Reads how often a part is repeated, after the opening brace. -/
def times? (cs : List Char) : Option (Sign × List Char) := do
  let (inside, rest) ← upToBrace? cs
  let (low, high) := splitOff ',' inside
  let least ← number? low
  let most ← match high with
    | none => some (some least)
    | some [] => some none
    | some high => (number? high).map some
  if most.any (· < least) then none else some (.repetition least most, rest)

/-- Whether a part may have a name. -/
def isName : List Char → Bool
  | [] => false
  | c :: cs =>
    let isLetter := fun d : Char => d.isAlpha || d == '_' || (128 ≤ d.toNat && isPrintable d)
    isLetter c && cs.all fun d => isLetter d || d.isDigit || d ∈ ['.', '[', ']']

/-- Reads what follows `(?`: the name of a part, or letters for a part or for what is left of the
part around. Letters after a hyphen turn off what they mean. -/
def special? (cs : List Char) : Option (Sign × List Char) :=
  let named := fun cs : List Char =>
    match splitOff '>' cs with
    | (name, some rest) =>
      if isName name then some (Sign.opening (some (String.ofList name)) [], rest) else none
    | _ => none
  match cs with
  | '<' :: cs => named cs
  | 'P' :: '<' :: cs => named cs
  | cs => do
    let isEnd := fun c : Char => c == ':' || c == ')'
    let (on, off) := splitOff '-' (cs.takeWhile (!isEnd ·))
    let letters := on ++ off.getD []
    if off = some [] ∨ !letters.all (mannerLetters.contains ·) ∨ ¬letters.Nodup then none
    else
      let changes := on.map (·, true) ++ (off.getD []).map (·, false)
      match cs.dropWhile (!isEnd ·) with
      | ':' :: rest => some (.opening none changes, rest)
      | _ :: rest => if letters.isEmpty then none else some (.manner changes, rest)
      | [] => none

/-- Skips the sign that makes a repetition as short as possible, which does not change what is
matched. -/
def skipLazy : List Char → List Char
  | '?' :: cs => cs
  | cs => cs

/-- Reads one sign. -/
def sign? : List Char → Option (Sign × List Char)
  | [] => none
  | '.' :: cs => some (.dot, cs)
  | '^' :: cs => some (.lineStart, cs)
  | '$' :: cs => some (.lineFinish, cs)
  | '|' :: cs => some (.bar, cs)
  | '(' :: '?' :: cs => special? cs
  | '(' :: cs => some (.opening none [], cs)
  | ')' :: cs => some (.closing, cs)
  | '*' :: cs => some (.repetition 0 none, skipLazy cs)
  | '+' :: cs => some (.repetition 1 none, skipLazy cs)
  | '?' :: cs => some (.repetition 0 (some 1), skipLazy cs)
  | '\x7b' :: cs => (times? cs).map fun (sign, rest) => (sign, skipLazy rest)
  | '[' :: cs =>
    let (o, rest) := OpenSet.opened cs
    (set? (rest.length + 1) o [] rest).map fun (s, rest) => (.set s, rest)
  | '\\' :: cs => do
    let (escape, rest) ← escape? cs
    match escape with
    | .char c => some (.char c, rest)
    | .set s => some (.set s, rest)
    | .place p => some (.place p, rest)
  | c :: cs => some (.char c, cs)

/-- Reads the signs of a text. Each takes at least one character, so `fuel` need not exceed the
number of characters. -/
def signs? : (fuel : Nat) → List Char → Option (List Sign)
  | _, [] => some []
  | 0, _ :: _ => none
  | fuel + 1, c :: cs => do
    let (sign, rest) ← sign? (c :: cs)
    let signs ← signs? fuel rest
    some (sign :: signs)

/-! ### Parts -/

/-- A part that is still open: the alternatives that are complete, and the items of the one that is
not, the last one first. -/
structure Part where
  manner : Manner := {}
  alternatives : Pattern := never
  items : List Pattern := []
  /-- Whether a repetition may come next. -/
  mayRepeat : Bool := false

namespace Part

/-- The pattern of a part. -/
def pattern (p : Part) : Pattern :=
  p.alternatives.orElse (p.items.foldl (fun rest item => item.followedBy rest) empty)

/-- Adds an item to a part. -/
def add (p : Part) (item : Pattern) : Part :=
  { p with items := item :: p.items, mayRepeat := true }

/-- Adds a character out of a set to a part. -/
def addSet (p : Part) (s : CharSet) : Part :=
  p.add (one (if p.manner.isCaseless then s.ignoringCase else s))

end Part

/-- Adds a sign to the open parts, the innermost of which is given apart from the others. -/
def add? (inner : Part) (outer : List Part) : Sign → Option (Part × List Part)
  | .char c => some (inner.addSet (.single c), outer)
  | .set s => some (inner.addSet s, outer)
  | .place p => some (inner.add (place p), outer)
  | .dot =>
    let breaks := if inner.manner.hasBreaks then .nothing else .single '\n'
    some (inner.add (one (.complement breaks)), outer)
  | .lineStart =>
    some (inner.add (place (if inner.manner.isByLine then .lineStart else .start)), outer)
  | .lineFinish =>
    some (inner.add (place (if inner.manner.isByLine then .lineFinish else .finish)), outer)
  | .opening _ changes =>
    some ({ manner := changes.foldl Manner.change inner.manner }, inner :: outer)
  | .closing =>
    match outer with
    | [] => none
    | next :: outer => some (next.add inner.pattern, outer)
  | .bar => some ({ manner := inner.manner, alternatives := inner.pattern }, outer)
  | .manner changes =>
    some ({ inner with
      manner := changes.foldl Manner.change inner.manner
      mayRepeat := false }, outer)
  | .repetition low high =>
    match inner.mayRepeat, inner.items with
    | true, p :: items => some ({ inner with items := p.repeated low high :: items }, outer)
    | _, _ => none

/-- Puts signs together. -/
def assemble? (inner : Part) (outer : List Part) : List Sign → Option Pattern
  | [] => if outer.isEmpty then some inner.pattern else none
  | sign :: signs => do
    let (inner, outer) ← add? inner outer sign
    assemble? inner outer signs

/-- Reads a pattern. No two parts have the same name. -/
def ofText? (text : String) : Option Pattern := do
  let cs := text.toList
  let signs ← signs? cs.length cs
  if (signs.filterMap Sign.name?).Nodup then assemble? {} [] signs else none

end MailCollector.Text.Pattern
