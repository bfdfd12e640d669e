import MailCollector.Json.Decode

/-!
# JSON values and their text

A value is JSON without a fault. The members of an object are ordered by key, each key once, the
last value given for it. Texts are written without blanks; a string escapes quotes, backslashes and
control characters and shows everything else as itself.
-/

namespace MailCollector.Json

open MailCollector.Text

/-- A JSON value. -/
inductive Value where
  | null
  | boolean (value : Bool)
  | whole (value : Int)
  | real (value : Binary64)
  | string (value : String)
  | array (items : List Value)
  | object (members : List (String × Value))
deriving Inhabited

/-- How one character of a string is written. -/
def escapeChar (c : Char) : List Char :=
  if c = '"' then ['\\', '"']
  else if c = '\\' then ['\\', '\\']
  else if c = '\x08' then ['\\', 'b']
  else if c = '\t' then ['\\', 't']
  else if c = '\n' then ['\\', 'n']
  else if c = '\x0c' then ['\\', 'f']
  else if c = '\r' then ['\\', 'r']
  else if c.toNat < 0x20 then '\\' :: 'u' :: paddedHex 4 c.toNat
  else [c]

/-- A string between quotes. -/
def stringText (s : String) : List Char :=
  '"' :: (s.toList.flatMap escapeChar ++ ['"'])

/-- Puts a separating comma between texts. -/
def commaSeparated : List (List Char) → List Char
  | [] => []
  | [t] => t
  | t :: ts => t ++ ',' :: commaSeparated ts

/-- An object of strings, in the order given. -/
def stringMembersText (members : List (String × String)) : List Char :=
  '\x7b' :: (commaSeparated (members.map fun m => stringText m.1 ++ ':' :: stringText m.2) ++
    ['\x7d'])

namespace Value

mutual

/-- The text of a value. -/
def chars : Value → List Char
  | null => ['n', 'u', 'l', 'l']
  | boolean true => ['t', 'r', 'u', 'e']
  | boolean false => ['f', 'a', 'l', 's', 'e']
  | whole n => (intText n).toList
  | real x => x.text.toList
  | string s => stringText s
  | array items => '[' :: (commaSeparated (itemTexts items) ++ [']'])
  | object members => '\x7b' :: (commaSeparated (memberTexts members) ++ ['\x7d'])

/-- The texts of several values. -/
def itemTexts : List Value → List (List Char)
  | [] => []
  | v :: vs => v.chars :: itemTexts vs

/-- The texts of several members. -/
def memberTexts : List (String × Value) → List (List Char)
  | [] => []
  | (k, v) :: ms => (stringText k ++ ':' :: v.chars) :: memberTexts ms

end

/-- The text of a value. -/
def text (v : Value) : String := String.ofList v.chars

/-- Puts a member into a list ordered by key, in place of an earlier one with that key. -/
def insertMember (key : String) (value : Value) :
    List (String × Value) → List (String × Value)
  | [] => [(key, value)]
  | (k, v) :: rest =>
    if key < k then (key, value) :: (k, v) :: rest
    else if key = k then (key, value) :: rest
    else (k, v) :: insertMember key value rest

/-- The containers that may stand inside one another in a value that is kept. -/
def maxDepth : Nat := 127

mutual

/-- Takes any value out of a document in which containers nest at most `depth` deep. -/
def ofDocument (depth : Nat) : Document → Except Error Value
  | .null => .ok .null
  | .boolean b => .ok (.boolean b)
  | .numeral (.whole n) => .ok (.whole n)
  | .numeral (.real x) => .ok (.real x)
  | .numeral .tooLarge => .error .malformed
  | .string (some s) => .ok (.string s)
  | .string none => .error .malformed
  | .array items =>
    if depth = 0 then .error .malformed
    else (ofItems (depth - 1) items).map .array
  | .object members =>
    if depth = 0 then .error .malformed
    else (ofMembers (depth - 1) members []).map .object
  | .broken => .error .malformed

/-- Takes the values of an array. -/
def ofItems (depth : Nat) : List Document → Except Error (List Value)
  | [] => .ok []
  | d :: ds => do
    let v ← ofDocument depth d
    let vs ← ofItems depth ds
    pure (v :: vs)

/-- Takes the members of an object into those taken before. -/
def ofMembers (depth : Nat) : List (Document × Document) → List (String × Value) →
    Except Error (List (String × Value))
  | [], taken => .ok taken
  | (k, d) :: ms, taken => do
    let key ← Decode.key k
    let v ← ofDocument depth d
    ofMembers depth ms (insertMember key v taken)

end

/-- Takes any value out of a document. -/
def decode : Decoder Value := ofDocument maxDepth

/-- The member of an object with a given key, null if there is none. -/
def member (v : Value) (key : String) : Value :=
  match v with
  | object members => (members.lookup key).getD null
  | _ => null

end Value

end MailCollector.Json
