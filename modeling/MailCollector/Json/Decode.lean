import MailCollector.Json.Document
import MailCollector.Json.Error

/-!
# Taking data out of documents

A decoder takes one kind of data out of a document or says what stands in its way. Decoders look at
a document in the order of its text and no further than they need, and a text is accepted only if
nothing but blanks follows the value.
-/

namespace MailCollector.Json

open MailCollector.Text

/-- Takes data of one kind out of a document. -/
abbrev Decoder (α : Type) := Document → Except Error α

namespace Document

/-- What stands at the beginning of a document. A container is known by its bracket, before its
contents are looked at. -/
def found : Document → Except Error Found
  | null => .ok .null
  | boolean b => .ok (.boolean b)
  | numeral (.whole n) => .ok (.whole n)
  | numeral (.real x) => .ok (.real x)
  | numeral .tooLarge => .error .malformed
  | string (some s) => .ok (.string s)
  | string none => .error .malformed
  | array _ => .ok .sequence
  | object _ => .ok .mapping
  | broken => .error .malformed

/-- Refuses a document of the wrong type. -/
def refuse (expected : String) (d : Document) : Except Error α :=
  match d.found with
  | .ok f => .error (.wrongType f expected)
  | .error e => .error e

mutual

/-- Whether a document has a fault somewhere. -/
def isFaulty : Document → Bool
  | array items => anyFaulty items
  | object members => anyFaultyMember members
  | broken => true
  | _ => false

/-- Whether one of several documents has a fault. -/
def anyFaulty : List Document → Bool
  | [] => false
  | d :: ds => d.isFaulty || anyFaulty ds

/-- Whether a key or a value of several members has a fault. -/
def anyFaultyMember : List (Document × Document) → Bool
  | [] => false
  | (k, v) :: ms => k.isFaulty || v.isFaulty || anyFaultyMember ms

end

end Document

namespace Decode

open Document

/-- Accepts any document without a fault and forgets it. -/
def ignored : Decoder Unit := fun d =>
  if d.isFaulty then .error .malformed else .ok ()

/-- A string, described by `expected` in errors. -/
def stringAs (expected : String) : Decoder String
  | string (some s) => .ok s
  | d => d.refuse expected

/-- A string. -/
def string : Decoder String := stringAs "a string"

/-- A truth value. -/
def boolean : Decoder Bool
  | .boolean b => .ok b
  | d => d.refuse "a boolean"

/-- The empty value. -/
def unit : Decoder Unit
  | null => .ok ()
  | d => d.refuse "unit"

/-- A whole number between two bounds, described by `expected` in errors. -/
def wholeBetween (low high : Int) (expected : String) : Decoder Int
  | numeral (.whole n) =>
    if low ≤ n ∧ n ≤ high then .ok n else .error (.wrongValue (.whole n) expected)
  | d => d.refuse expected

/-- A whole number of 64 bits with a sign. -/
def signedWord : Decoder Int := wholeBetween (-minSignedWord) (minSignedWord - 1) "i64"

/-- A whole number of 64 bits without a sign. -/
def unsignedWord : Decoder Nat := fun d =>
  (wholeBetween 0 maxWord "u64" d).map Int.toNat

/-- A value that may be given as null. -/
def optional (decode : Decoder α) : Decoder (Option α)
  | null => .ok none
  | d => (decode d).map some

/-- A list of values. -/
def listOf (decode : Decoder α) : Decoder (List α)
  | array items => items.mapM decode
  | d => d.refuse "a sequence"

/-- The key of a member, which has to be a string. -/
def key : Decoder String
  | Document.string (some s) => .ok s
  | _ => .error .malformed

/-- The members of an object with their values, in the order of the text. -/
def members (decode : Decoder α) : Decoder (List (String × α))
  | object ms => ms.mapM fun m => do
    let k ← key m.1
    let v ← decode m.2
    pure (k, v)
  | d => d.refuse "a map"

/-- A case that is named by a string, or by an object whose one member holds the value of the case.
A case without a value may be given either way, the object then holding null. A key that is not a
string is no JSON. -/
def cases (known : List String) (bare : String → Except Error α)
    (withValue : String → Decoder α) : Decoder α
  | Document.string (some s) => do
    known? s
    bare s
  | object ((k, v) :: rest) => do
    let name ← key k
    known? name
    let a ← withValue name v
    if rest.isEmpty then pure a else .error .malformed
  | _ => .error .malformed
where
  known? (name : String) : Except Error Unit :=
    if name ∈ known then .ok () else .error (.unknownCase name known)

/-- A case without a value, by its name. -/
def oneOf (options : List (String × α)) : Decoder α :=
  cases (options.map Prod.fst) value fun name d => do
    unit d
    value name
where
  value (name : String) : Except Error α :=
    match options.lookup name with
    | some a => .ok a
    | none => .error (.unknownCase name (options.map Prod.fst))

/-- Reads a text as JSON and takes data out of it. -/
def text (decode : Decoder α) (s : String) : Except Error α :=
  let (document, rest) := Document.read s.toList
  match decode document with
  | .error e => .error e
  | .ok a =>
    match rest.map skipBlanks with
    | some [] => .ok a
    | _ => .error .malformed

end Decode

end MailCollector.Json
