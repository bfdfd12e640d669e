import MailCollector.Xml.Reference

/-!
# Writing markup

Markup that is to be sent is put together as a tree and then written. Values stand in it as plain
text; only writing escapes them, so no value can turn into markup.
-/

namespace MailCollector.Xml

/-- Markup to be written, with the full names of its tags. -/
inductive Markup where
  | text (content : String)
  /-- An element written as one tag. -/
  | single (tag : String) (attributes : List (String × String))
  | element (tag : String) (attributes : List (String × String)) (content : List Markup)
deriving Repr, Inhabited

namespace Markup

/-- An element without attributes. -/
def plain (tag : String) (content : List Markup) : Markup := element tag [] content

/-- An element that holds nothing but a text. -/
def ofText (tag : String) (content : String) : Markup := plain tag [text content]

/-- The attributes of a tag as written. -/
def attributesText (attributes : List (String × String)) : List Char :=
  attributes.flatMap fun a => ' ' :: (a.1.toList ++ '=' :: '"' :: (escape a.2.toList ++ ['"']))

mutual

/-- Markup as written. -/
def chars : Markup → List Char
  | text content => escape content.toList
  | single tag attributes => '<' :: (tag.toList ++ attributesText attributes ++ ['/', '>'])
  | element tag attributes content =>
    '<' :: (tag.toList ++ attributesText attributes ++ '>' :: allChars content ++
      '<' :: '/' :: (tag.toList ++ ['>']))

/-- Several pieces of markup as written. -/
def allChars : List Markup → List Char
  | [] => []
  | m :: ms => m.chars ++ allChars ms

end

end Markup

/-- The line that declares a document and how it is encoded. -/
def declaration : List Char :=
  "<?xml version=\"1.0\" encoding=\"utf-8\"?>\n".toList

/-- A whole document as text. -/
def documentText (root : Markup) : String :=
  String.ofList (declaration ++ root.chars)

end MailCollector.Xml
