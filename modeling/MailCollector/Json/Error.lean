import MailCollector.Json.Binary64
import MailCollector.Text.Quoted

/-!
# Errors of reading JSON

Either the text is no JSON, or it is but does not hold the data that was asked for. In the second
case the error names what was found and what was expected.
-/

namespace MailCollector.Json

open MailCollector.Text

/-- What stands at a place of a document where something else was expected. -/
inductive Found where
  | null
  | boolean (value : Bool)
  | whole (value : Int)
  | real (value : Binary64)
  | string (value : String)
  | sequence
  | mapping
  /-- The bare name of a case that needs a value. -/
  | bareCase
deriving DecidableEq

/-- The words for what was found. -/
def Found.text : Found → String
  | null => "null"
  | boolean b => "boolean `" ++ (if b then "true" else "false") ++ "`"
  | whole n => "integer `" ++ intText n ++ "`"
  | real x => "floating point `" ++ x.text ++ "`"
  | string s => "string " ++ quoted s
  | sequence => "sequence"
  | mapping => "map"
  | bareCase => "unit variant"

/-- Why a text could not be read as the data that was asked for. -/
inductive Error where
  /-- The text is not JSON, or ends too early, or goes on after the value. -/
  | malformed
  | wrongType (found : Found) (expected : String)
  | wrongValue (found : Found) (expected : String)
  | wrongLength (length : Nat) (expected : String)
  | missingField (name : String)
  | duplicateField (name : String)
  | unknownCase (name : String) (known : List String)
deriving DecidableEq

/-- The names that could have stood there. -/
def knownNames : List String → String
  | [] => "there are no variants"
  | [a] => "expected `" ++ a ++ "`"
  | [a, b] => "expected `" ++ a ++ "` or `" ++ b ++ "`"
  | names => "expected one of " ++ String.intercalate ", " (names.map fun n => "`" ++ n ++ "`")

/-- The text of an error. -/
def Error.message : Error → String
  | malformed => "invalid JSON"
  | wrongType found expected => "invalid type: " ++ found.text ++ ", expected " ++ expected
  | wrongValue found expected => "invalid value: " ++ found.text ++ ", expected " ++ expected
  | wrongLength length expected =>
    "invalid length " ++ natText length ++ ", expected " ++ expected
  | missingField name => "missing field `" ++ name ++ "`"
  | duplicateField name => "duplicate field `" ++ name ++ "`"
  | unknownCase name known => "unknown variant `" ++ name ++ "`, " ++ knownNames known

end MailCollector.Json
