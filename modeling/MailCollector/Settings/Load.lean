import MailCollector.Files.Path
import MailCollector.Machine
import MailCollector.Settings.Basic

/-!
# Where settings come from

Settings are read from a file, by default the one in the configuration directory, and variables of
the environment may replace the secrets in them. The configuration directory of the program is below
the one that the environment names, if it names it by an absolute path, and otherwise below the
usual one in the home directory.
-/

namespace MailCollector

open MailCollector.Files MailCollector.Json MailCollector.Text

variable {m : Type → Type} [Monad m]

namespace Machine

/-- The directory below which programs keep their configuration. -/
def configHome? (machine : Machine m) : m (Option String) := do
  match (← machine.environment "XDG_CONFIG_HOME").filter isAbsolute with
  | some directory => pure (some directory)
  | none => do
    let home := nonEmpty (← machine.environment "HOME")
    pure (home.map fun directory => join directory ".config")

/-- The configuration directory of this program. -/
def configDirectory (machine : Machine m) : ExceptT Failure m String := do
  match ← machine.configHome? with
  | some directory => pure (join directory "harvest")
  | none => throw ⟨[], .noConfigDirectory⟩

/-- The path of a file in the configuration directory. -/
def configPath (machine : Machine m) (name : String) : ExceptT Failure m String := do
  pure (join (← machine.configDirectory) name)

/-- Makes sure that the configuration directory is there. -/
def createConfigDirectory (machine : Machine m) : ExceptT Failure m String := do
  let directory ← machine.configDirectory
  if ← machine.createDirectories directory then pure directory
  else throw ⟨[.creatingDirectory directory], .system⟩

/-- Reads a file of JSON. -/
def readJson {α : Type} (machine : Machine m) (decode : Decoder α) (path : String) :
    ExceptT Failure m α := do
  match (← machine.read path).bind Utf8.decode? with
  | none => throw ⟨[.readingFile path], .system⟩
  | some text =>
    match Decode.text decode (String.ofList text) with
    | .ok a => pure a
    | .error e => throw ⟨[.parsingFile path], .json e⟩

end Machine

namespace Settings

/-- Loads settings from a file, or from the usual one. -/
def load (machine : Machine m) (path : Option String) : ExceptT Failure m Settings := do
  let path ← match path with
    | some path => pure path
    | none => machine.configPath "harvest.json"
  let settings ← machine.readJson decode path
  let password ← machine.environment "HARVEST_PASSWORD"
  let accessToken ← machine.environment "HARVEST_ACCESS_TOKEN"
  pure (settings.withSecrets password accessToken)

/-- The path of the checkpoints. -/
def checkpointPath (machine : Machine m) (s : Settings) : ExceptT Failure m String :=
  match s.checkpoints with
  | some path => pure path
  | none => machine.configPath "checkpoints.sqlite"

end Settings

end MailCollector
