import MailCollector.Checkpoint.Table
import MailCollector.Files.Path
import MailCollector.Text.Utf8

/-!
# Trees of files

A tree has at each place, which is given by the steps from the root, nothing, a directory, a file of
bytes, or a device that keeps nothing. A path is followed from directory to directory, so it leads
nowhere if something else is in its way.
-/

namespace MailCollector.Files

open MailCollector.Checkpoint MailCollector.Text

/-- What is at one place of a tree. -/
inductive Entry where
  | directory
  | file (bytes : List UInt8)
  /-- Takes what is written and always reads as empty. -/
  | drain
deriving DecidableEq

/-- A tree of files. The root is always a directory. -/
structure Tree where
  entries : Table (List String) Entry := {}
deriving DecidableEq

namespace Tree

/-- What is at a place. -/
def entry? (t : Tree) (place : List String) : Option Entry :=
  if place.isEmpty then some .directory else t.entries.find? place

/-- Whether there is a directory at a place. -/
def hasDirectory (t : Tree) (place : List String) : Bool :=
  t.entry? place == some .directory

/-- Puts something at a place. -/
def put (t : Tree) (place : List String) (e : Entry) : Tree :=
  { t with entries := t.entries.insert place e }

/-- Follows steps from a place. Each step starts at a directory. -/
def walk (t : Tree) (place : List String) : List String → Option (List String)
  | [] => some place
  | step :: rest =>
    if t.hasDirectory place then
      t.walk (if step = ".." then place.dropLast else place ++ [step]) rest
    else none

/-- The place to which a path leads. -/
def locate (t : Tree) (path : String) : Option (List String) := do
  let place ← t.walk [] (← steps path)
  if endsAtDirectory path && !t.hasDirectory place then none else some place

/-- The file at the end of a path. -/
def read (t : Tree) (path : String) : Option (List UInt8) := do
  match ← t.entry? (← t.locate path) with
  | .file bytes => some bytes
  | .drain => some []
  | .directory => none

/-- Puts a file at the end of a path, in place of a file that is there. A device stays one. -/
def replace (t : Tree) (path : String) (bytes : List UInt8) : Option Tree := do
  let place ← t.locate path
  match t.entry? place with
  | some .directory => none
  | some .drain => some t
  | _ => some (t.put place (.file bytes))

/-- Adds to the file at the end of a path. -/
def append (t : Tree) (path : String) (more : List UInt8) : Option Tree := do
  let bytes ← t.read path
  t.replace path (bytes ++ more)

/-- Makes the directories along steps from a place as far as they are missing. -/
def makeAlong (t : Tree) (place : List String) : List String → Option Tree
  | [] => some t
  | step :: rest =>
    if step = ".." then t.makeAlong place.dropLast rest
    else
      let next := place ++ [step]
      match t.entry? next with
      | some .directory => t.makeAlong next rest
      | some _ => none
      | none => (t.put next .directory).makeAlong next rest

/-- Makes a directory and those above it. -/
def createDirectories (t : Tree) (path : String) : Option Tree := do
  t.makeAlong [] (← steps path)

end Tree

end MailCollector.Files
