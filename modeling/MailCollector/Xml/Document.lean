import MailCollector.Xml.Element
import MailCollector.Xml.Token

/-!
# Reading documents

The elements that are open at a point of a document form a stack, innermost first. A closing tag has
to repeat the full name of the innermost one, which then becomes a child of the one around it. The
first element that is closed with none around it is the document; what follows it is read but does
not count. Of several faults the first one in the text is reported.
-/

namespace MailCollector.Xml

/-- An element that has not been closed, with the full name in its opening tag. -/
structure OpenElement where
  fullName : String
  element : Element

/-- How far a document has been read. -/
structure Reading where
  /-- The open elements, innermost first. -/
  stack : List OpenElement := []
  root : Option Element := none

namespace Reading

/-- Places an element that has just ended. -/
def place (r : Reading) (e : Element) : Reading :=
  match r.stack with
  | [] => { r with root := some (r.root.getD e) }
  | top :: stack =>
    let around := { top.element with children := top.element.children ++ [e] }
    { r with stack := { top with element := around } :: stack }

/-- Adds character data to the innermost open element. -/
def addText (r : Reading) (content : List Char) : Reading :=
  match r.stack with
  | [] => r
  | top :: stack =>
    let longer := { top.element with content := top.element.content ++ String.ofList content }
    { r with stack := { top with element := longer } :: stack }

/-- The element that a tag opens. -/
def opened (name : String) (attributes : List (String × String)) : Element :=
  { name := String.ofList (localName name.toList), attributes := attributes }

/-- Reads one token. Text outside all elements is not even looked at. -/
def next (r : Reading) : Token → Except Fault Reading
  | .opening name attributes => .ok { r with stack := ⟨name, opened name attributes⟩ :: r.stack }
  | .single name attributes => .ok (r.place (opened name attributes))
  | .closing name =>
    match r.stack with
    | [] => .error .malformed
    | top :: stack =>
      if top.fullName = name then .ok (place { r with stack := stack } top.element)
      else .error .malformed
  | .text raw =>
    match r.stack with
    | [] => .ok r
    | _ :: _ =>
      match Xml.unescape? raw with
      | some content => .ok (r.addText content)
      | none => .error .badText
  | .verbatim content => .ok (r.addText content)
  | .skipped => .ok r

/-- Reads tokens, which a fault may end. -/
def all (r : Reading) (fault : Option Fault) : List Token → Except Fault Reading
  | [] =>
    match fault with
    | some f => .error f
    | none => .ok r
  | t :: ts =>
    match r.next t with
    | .error f => .error f
    | .ok r => r.all fault ts

/-- The document that was read, if every element has ended. -/
def finish (r : Reading) : Except Fault Element :=
  match r.stack, r.root with
  | _ :: _, _ => .error .truncated
  | [], none => .error .empty
  | [], some root => .ok root

end Reading

/-- The text without a byte order mark in front. -/
def withoutMark : List Char → List Char
  | '\uFEFF' :: cs => cs
  | cs => cs

/-- Reads a text as a document. -/
def parse (text : String) : Except Fault Element :=
  let (ts, fault) := tokens (withoutMark text.toList)
  match Reading.all {} fault ts with
  | .error f => .error f
  | .ok r => r.finish

end MailCollector.Xml
