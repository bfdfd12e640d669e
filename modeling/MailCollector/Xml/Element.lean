import MailCollector.Text.Blank

/-!
# Elements

A document is a tree of elements. Names are kept without the part in front of the colon, so that a
reader need not know how a server abbreviates its namespaces. Two searches go through the elements
below an element: one stops at the first element of a name, the other collects all of them.
-/

namespace MailCollector.Xml

open MailCollector.Text

/-- An element with its attributes, the character data directly in it, and its children. -/
structure Element where
  name : String
  attributes : List (String × String) := []
  content : String := ""
  children : List Element := []
deriving Repr, Inhabited

namespace Element

/-- The first attribute of a name. -/
def attribute? (e : Element) (name : String) : Option String :=
  e.attributes.lookup name

/-- The character data without white space at its ends, if anything remains. -/
def text? (e : Element) : Option String :=
  trimmed? e.content

/-- The first child of a name. -/
def child? (e : Element) (name : String) : Option Element :=
  e.children.find? fun c => c.name == name

/-- The children of a name. -/
def childrenNamed (e : Element) (name : String) : List Element :=
  e.children.filter fun c => c.name == name

/-- The text of the first child of a name. -/
def childText? (e : Element) (name : String) : Option String :=
  (e.child? name).bind text?

mutual

/-- The first element of a name below an element, in the order of the document. -/
def descendant? (name : String) : Element → Option Element
  | ⟨_, _, _, children⟩ => firstNamed? name children

/-- The first element of a name among several elements and what is below them. -/
def firstNamed? (name : String) : List Element → Option Element
  | [] => none
  | c :: cs =>
    if c.name = name then some c
    else
      match descendant? name c with
      | some found => some found
      | none => firstNamed? name cs

end

mutual

/-- All elements of a name below an element, in the order of the document. -/
def descendantsNamed (name : String) : Element → List Element
  | ⟨_, _, _, children⟩ => allNamed name children

/-- All elements of a name among several elements and what is below them. -/
def allNamed (name : String) : List Element → List Element
  | [] => []
  | c :: cs =>
    (if c.name = name then [c] else []) ++ descendantsNamed name c ++ allNamed name cs

end

end Element

end MailCollector.Xml
