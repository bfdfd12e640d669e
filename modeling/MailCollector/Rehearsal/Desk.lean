import MailCollector.Files.Tree
import MailCollector.Machine

/-!
# Rehearsed machines

A desk is a machine that is nothing but a value: a tree of files with a place in it, variables, a
clock that stands still, and sheets for the output and for the notes.
-/

namespace MailCollector.Rehearsal

open MailCollector.Calendar MailCollector.Checkpoint MailCollector.Files MailCollector.Log

/-- The state of a rehearsed machine. -/
structure Desk where
  files : Tree := {}
  workingDirectory : String := "/"
  environment : Table String String := {}
  now : Instant := .epoch
  printed : List UInt8 := []
  /-- The notes so far, the latest first. -/
  notes : List Note := []

namespace Desk

/-- The absolute path that a path means. The empty path means nothing. -/
def absolute (d : Desk) (path : String) : String :=
  if path.isEmpty then path else join d.workingDirectory path

/-- Changes the files along a path, unless that is refused. -/
def change (f : Tree → String → Option Tree) (path : String) : StateM Desk Bool := fun d =>
  match f d.files (d.absolute path) with
  | some files => (true, { d with files := files })
  | none => (false, d)

/-- Writes to a file, piece by piece. -/
def outlet (path : String) : Outlet (StateM Desk) where
  write bytes := change (·.append · bytes) path
  flush := pure true

/-- The machine of a desk, with a transport of its own. -/
def machine (transport : Http.Transport (StateM Desk)) : Machine (StateM Desk) where
  environment name d := (d.environment.find? name, d)
  workingDirectory d := (d.workingDirectory, d)
  read path d := (d.files.read (d.absolute path), d)
  replace path bytes := change (·.replace · bytes) path
  create path := do
    if ← change (·.replace · []) path then pure (some (outlet path)) else pure none
  createDirectories path := change (·.createDirectories ·) path
  standardOutput :=
    { write := fun bytes d => (true, { d with printed := d.printed ++ bytes })
      flush := pure true }
  transport := transport
  now d := (d.now, d)
  note n d := ((), { d with notes := n :: d.notes })

end Desk

end MailCollector.Rehearsal
