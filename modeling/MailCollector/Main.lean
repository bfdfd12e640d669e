import MailCollector.CommandLine.Run
import Std.Time.DateTime.Timestamp

/-!
# The program

The machine that the program really runs on, and its entry point. Records go to standard output or
to a file, notes to standard error. The machine has no network of its own, so that every request is
lost.
-/

namespace MailCollector.Main

open MailCollector.Calendar MailCollector.CommandLine MailCollector.Log MailCollector.Text

/-- The time. -/
def now : IO Instant := do
  let t ← Std.Time.Timestamp.now
  pure (Instant.ofNanoseconds t.toNanosecondsSinceUnixEpoch.val)

/-- Tells whether an action went through. -/
def succeeds (action : IO Unit) : IO Bool := do
  try
    action
    pure true
  catch _ => pure false

/-- The result of an action that went through. -/
def result? {α : Type} (action : IO α) : IO (Option α) := do
  try
    pure (some (← action))
  catch _ => pure none

/-- An array of bytes. -/
def packed (bytes : List UInt8) : ByteArray := ⟨bytes.toArray⟩

/-- Writes to a stream. -/
def outlet (stream : IO.FS.Stream) : Outlet IO where
  write bytes := succeeds (stream.write (packed bytes))
  flush := succeeds stream.flush

/-- The machine of a run that began at a number of milliseconds on the clock of the process. -/
def machine (start : Nat) : Machine IO where
  environment name := IO.getEnv name
  workingDirectory := return (← IO.currentDir).toString
  read path := result? do return (← IO.FS.readBinFile path).toList
  replace path bytes := succeeds (IO.FS.writeBinFile path (packed bytes))
  create path := result? do
    return outlet (IO.FS.Stream.ofHandle (← IO.FS.Handle.mk path .write))
  createDirectories path := succeeds (IO.FS.createDirAll path)
  standardOutput :=
    { write := fun bytes => do (outlet (← IO.getStdout)).write bytes
      flush := do (outlet (← IO.getStdout)).flush }
  transport := .unreachable
  now := now
  note n := do
    let time := Rfc3339.format .seconds .letter (← now)
    let elapsed := natText ((← IO.monoMsNow) - start) ++ "ms"
    IO.eprintln ("[" ++ time ++ "] " ++ n.line elapsed)

/-- What the program says about its options. -/
def help : String :=
  "Crawl Exchange mailboxes into JSON lines\n\n" ++
  "Usage: mail-collector [OPTIONS]\n\n" ++
  "  --config FILE     settings (default: ~/.config/harvest/harvest.json)\n" ++
  "  --output FILE     write records here instead of to standard output\n" ++
  "  --mailbox ADDR    crawl this mailbox; repeatable, replaces those of the settings\n" ++
  "  --stateless       neither read nor keep checkpoints\n" ++
  "  --mode MODE       sync_token or last_synced, instead of the mode of the settings\n" ++
  "  -v, --verbose     report details\n" ++
  "  -h, --help        print this\n" ++
  "  -V, --version     print the version"

/-- The name and version of the program. -/
def version : String := "mail-collector 0.1.0"

/-- Does what a command line asks for. -/
def perform (arguments : List String) : IO Ending := do
  match CommandLine.parse arguments with
  | .error misuse => do
    IO.eprintln ("error: " ++ misuse.message)
    pure .misused
  | .ok .help => do
    IO.println help
    pure .succeeded
  | .ok .version => do
    IO.println version
    pure .succeeded
  | .ok (.collect options) => do
    run (machine (← IO.monoMsNow)) options

end MailCollector.Main

/-- Runs the program and exits with the code of its ending. -/
def main (arguments : List String) : IO UInt32 := do
  return (← MailCollector.Main.perform arguments).code.toUInt32
