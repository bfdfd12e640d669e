import MailCollector.Calendar.Instant
import MailCollector.Http
import MailCollector.Log.Note

/-!
# What the program needs of its machine

The program reads variables and files, writes files and its output, posts requests, takes the time
and reports. These are the fields of a machine, which leaves open how each of them is done and where
its effects go, so that the program can be run in a rehearsal as well as for real. Where the machine
may refuse something, the answer tells whether it did.
-/

namespace MailCollector

open MailCollector.Calendar MailCollector.Log

/-- Somewhere to write bytes to. Bytes may be held back until the next flush. -/
structure Outlet (m : Type → Type) where
  write (bytes : List UInt8) : m Bool
  flush : m Bool

/-- A machine with its effects in `m`. -/
structure Machine (m : Type → Type) where
  /-- The value of an environment variable. -/
  environment (name : String) : m (Option String)
  /-- The directory from which relative paths begin. -/
  workingDirectory : m String
  /-- The contents of a file. -/
  read (path : String) : m (Option (List UInt8))
  /-- Gives a file its contents, whether it is there already or not. -/
  replace (path : String) (bytes : List UInt8) : m Bool
  /-- Begins an empty file, to be written piece by piece. -/
  create (path : String) : m (Option (Outlet m))
  /-- Makes a directory and those above it. -/
  createDirectories (path : String) : m Bool
  standardOutput : Outlet m
  transport : Http.Transport m
  now : m Instant
  note (n : Note) : m Unit

/-- The same machine, which keeps the notes that are not wanted to itself. -/
def Machine.noting {m : Type → Type} [Monad m] (machine : Machine m) (isWanted : Note → Bool) :
    Machine m :=
  { machine with note := fun n => if isWanted n then machine.note n else pure () }

end MailCollector
