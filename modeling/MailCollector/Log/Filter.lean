import MailCollector.Log.Note
import MailCollector.Text.Pattern.Reading
import MailCollector.Text.Split

/-!
# Choosing notes

Which notes are wanted is said in directives: a level for everything, or for the sources whose names
begin with a given text. The directive for the longest name decides. After a slash a pattern may
follow, which has to occur in the text of a note.
-/

namespace MailCollector.Log

open MailCollector.Text

/-- How much is wanted: nothing, the notes of a level and those that matter more, or everything. -/
inductive Extent where
  | nothing
  | upTo (level : Level)
  | everything
deriving DecidableEq, Repr

/-- How far down a level is. -/
def Level.depth : Level → Nat
  | error => 1
  | warn => 2
  | info => 3
  | debug => 4

/-- Whether notes of a level are wanted. -/
def Extent.admits (level : Level) : Extent → Bool
  | nothing => false
  | upTo lowest => level.depth ≤ lowest.depth
  | everything => true

/-- Reads an extent, whose case does not count. -/
def Extent.ofName? (name : String) : Option Extent :=
  [ ("OFF", nothing), ("ERROR", upTo .error), ("WARN", upTo .warn), ("INFO", upTo .info),
    ("DEBUG", upTo .debug), ("TRACE", everything) ].lookup
    (String.ofList (name.toList.map Char.toUpper))

/-- How much is wanted of some sources. Without a name it is about all of them. -/
structure Directive where
  source : Option String
  extent : Extent
deriving DecidableEq, Repr

namespace Directive

/-- The size of the name of a directive. -/
def size (d : Directive) : Nat := d.source.elim 0 String.utf8ByteSize

/-- Whether a directive is about a source. -/
def concerns (d : Directive) (source : String) : Bool :=
  d.source.all fun name => name.toList.isPrefixOf source.toList

/-- Reads a directive: an extent, a name, or both with an equals sign between. A name alone asks for
everything. -/
def ofText? (text : List Char) : Option Directive :=
  let parts := (splitAt '=' text).map String.ofList
  match parts with
  | [name] =>
    match Extent.ofName? name with
    | some extent => some ⟨none, extent⟩
    | none => some ⟨some name, .everything⟩
  | [name, extent] =>
    if (trimmed extent).isEmpty then some ⟨some name, .everything⟩
    else (Extent.ofName? (trimmed extent)).map fun extent => ⟨some name, extent⟩
  | _ => none

/-- Adds a directive to others. One for the same name gives way to it. -/
def add (directives : List Directive) (d : Directive) : List Directive :=
  if directives.any (·.source == d.source) then
    directives.map fun other => if other.source = d.source then d else other
  else directives ++ [d]

end Directive

/-- Which notes are wanted. -/
structure Filter where
  directives : List Directive
  pattern : Option Pattern := none

namespace Filter

/-- Reads directives. What is not understood does not count, and without any directive only errors
are wanted. -/
def ofDirectives (text : List Char) : List Directive :=
  let parts := ((splitAt ',' text).map (trim isBlank)).filter (!·.isEmpty)
  match (parts.filterMap Directive.ofText?).foldl Directive.add [] with
  | [] => [⟨none, .upTo .error⟩]
  | directives => directives

/-- Reads a filter. More than one slash makes all of it not count. -/
def ofText (text : String) : Filter :=
  match splitAt '/' text.toList with
  | [directives] => { directives := ofDirectives directives }
  | [directives, pattern] =>
    { directives := ofDirectives directives
      pattern := Pattern.ofText? (String.ofList pattern) }
  | _ => { directives := ofDirectives [] }

/-- The directive that decides about a source: of those for the longest name, the last one. -/
def directiveFor? (f : Filter) (source : String) : Option Directive :=
  (f.directives.filter (·.concerns source)).foldl (fun best d =>
    if best.all (·.size ≤ d.size) then some d else best) none

/-- Whether a note is wanted. -/
def admits (f : Filter) (n : Note) : Bool :=
  ((f.directiveFor? n.source).any fun d => d.extent.admits n.level) &&
    f.pattern.all fun p => p.occursIn (n.text "0ms")

end Filter

end MailCollector.Log
