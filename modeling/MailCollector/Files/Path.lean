import MailCollector.Text.Split

/-!
# Paths

A path is a text whose parts stand between slashes. An absolute path begins with a slash, and
joining it to another path leaves nothing of the other one. Names and paths have bounds on their
size.
-/

namespace MailCollector.Files

open MailCollector.Text

/-- Whether a path begins at the root. -/
def isAbsolute (path : String) : Bool :=
  path.toList.head? == some '/'

/-- A path below another one. -/
def join (base path : String) : String :=
  if isAbsolute path then path
  else if base.isEmpty ∨ base.toList.getLast? = some '/' then base ++ path
  else base ++ "/" ++ path

/-- The longest name of a file or directory, in bytes. -/
def maxNameSize : Nat := 255

/-- The longest path, in bytes. -/
def maxPathSize : Nat := 4095

/-- The steps of a text. Empty parts and single dots are no steps. -/
def stepsOf (path : String) : List String :=
  ((splitAt '/' path.toList).map String.ofList).filter fun part => part ≠ "" && part ≠ "."

/-- The steps that a path takes. A path that is empty, contains the character zero, or is too long
as a whole or in a step, is no way to anything. -/
def steps (path : String) : Option (List String) :=
  let taken := stepsOf path
  if path.isEmpty || path.toList.contains '\x00' || maxPathSize < path.utf8ByteSize ||
      taken.any (maxNameSize < ·.utf8ByteSize) then
    none
  else some taken

/-- Takes back the step before each step up, whether or not it leads anywhere. The steps so far are
given with the last one first. -/
def cancelled (reached : List String) : List String → List String
  | [] => reached.reverse
  | step :: rest => cancelled (if step = ".." then reached.drop 1 else step :: reached) rest

/-- The shortest text of an absolute path. -/
def simplified (path : String) : String :=
  "/" ++ String.intercalate "/" (cancelled [] (stepsOf path))

/-- Whether a path can lead to a directory only, because of how it ends. -/
def endsAtDirectory (path : String) : Bool :=
  match (splitAt '/' path.toList).getLast? with
  | some part => String.ofList part ∈ ["", ".", ".."]
  | none => true

end MailCollector.Files
