import MailCollector.Failure
import MailCollector.Crawl.Config

/-!
# Notes for the log

What the program reports while it works. A note is data; its level, its source and its text are made
from it here and nowhere else.
-/

namespace MailCollector.Log

open MailCollector.Mail MailCollector.Text

/-- How much a note matters. -/
inductive Level where
  | debug
  | info
  | warn
  | error
deriving DecidableEq, Repr

/-- The name of a level at the beginning of a log line. -/
def Level.name : Level → String
  | debug => "DEBUG"
  | info => "INFO"
  | warn => "WARN"
  | error => "ERROR"

/-- Something worth reporting. -/
inductive Note where
  | noFolders (mailbox : String)
  | foldersFound (count : Nat) (mailbox : String)
  | pageListed (number : Nat) (folder : FolderId) (mailbox : String) (ids entries : Nat)
      (saysLast : Bool)
  | tokenWritten (folder : FolderId) (mailbox : String) (pages : Nat)
  | itemsFetched (received asked : Nat) (folder : FolderId) (mailbox : String)
  | mailboxFinished (mailbox : String)
  | mailboxSkipped (mailbox : String) (failure : Failure)
  | collected (records mailboxes failed : Nat)
  | answered (action mailbox : String) (status bytes : Nat)
  | itemUnresolvable (fault : ServiceFault)
  | instantIgnored (text : String)
  | stateless
  | usingCheckpoints (path : String)
  | collecting (mailboxes : Nat) (endpoint : String) (config : Crawl.Config)
  | finished (records complete mailboxes : Nat)
  | mailboxIncomplete (mailbox : String) (failure : Failure)
  | stopped (failure : Failure)
deriving DecidableEq

namespace Note

/-- The level of a note. -/
def level : Note → Level
  | noFolders _ | instantIgnored _ => .warn
  | mailboxSkipped _ _ | mailboxIncomplete _ _ | stopped _ => .error
  | stateless | usingCheckpoints _ | collecting _ _ _ | finished _ _ _ => .info
  | _ => .debug

/-- The name of the part of the program that a note comes from. -/
def source : Note → String
  | noFolders _ | foldersFound _ _ | mailboxFinished _ => "harvest::sync::discovery"
  | pageListed .. | tokenWritten .. => "harvest::sync::item_ids"
  | itemsFetched .. => "harvest::sync::details"
  | mailboxSkipped _ _ => "harvest::sync::crawler"
  | collected .. => "harvest::sync::harvest"
  | answered .. => "harvest::ews::client"
  | itemUnresolvable _ | instantIgnored _ => "harvest::ews::response"
  | stateless | usingCheckpoints _ | collecting .. | finished .. | mailboxIncomplete _ _
  | stopped _ => "harvester"

/-- The text of a note. `elapsed` is the time that the run has taken, as a text. -/
def text (elapsed : String) : Note → String
  | noFolders mailbox => "No folders discovered in " ++ mailbox
  | foldersFound count mailbox => "Discovered " ++ natText count ++ " folders in " ++ mailbox
  | pageListed number folder mailbox ids entries saysLast =>
    "Page " ++ natText number ++ " of folder " ++ folder.text ++ " in " ++ mailbox ++ ": " ++
      natText ids ++ " ids of " ++ natText entries ++ " entries (server last-page hint: " ++
      (if saysLast then "true" else "false") ++ ")"
  | tokenWritten folder mailbox pages =>
    "Committed sync token for folder " ++ folder.text ++ " of " ++ mailbox ++ " after " ++
      natText pages ++ " pages"
  | itemsFetched received asked folder mailbox =>
    "Fetched " ++ natText received ++ "/" ++ natText asked ++ " item details in folder " ++
      folder.text ++ " of " ++ mailbox
  | mailboxFinished mailbox => "Finished all folders of " ++ mailbox
  | mailboxSkipped mailbox failure =>
    "Skipping rest of mailbox " ++ mailbox ++ ": " ++ failure.message
  | collected records mailboxes failed =>
    "Harvested " ++ natText records ++ " records from " ++ natText mailboxes ++ " mailboxes (" ++
      natText failed ++ " failed) in " ++ elapsed
  | answered action mailbox status bytes =>
    action ++ " for " ++ mailbox ++ " -> HTTP " ++ natText status ++ " (" ++ natText bytes ++
      " bytes)"
  | itemUnresolvable fault => "Skipping unresolvable item: " ++ fault.message
  | instantIgnored text => "Ignoring unparsable timestamp " ++ quoted text
  | stateless => "Stateless run, checkpoints are neither read nor written"
  | usingCheckpoints path => "Using checkpoint database " ++ path
  | collecting mailboxes endpoint config =>
    "Harvesting " ++ natText mailboxes ++ " mailboxes from " ++ endpoint ++ " (" ++
      config.summary ++ ")"
  | finished records complete mailboxes =>
    "Done: " ++ natText records ++ " records, " ++ natText complete ++ "/" ++
      natText mailboxes ++ " mailboxes complete, " ++ elapsed
  | mailboxIncomplete mailbox failure =>
    "Incomplete mailbox " ++ mailbox ++ ": " ++ failure.message
  | stopped failure => failure.message

/-- The log line of a note. -/
def line (elapsed : String) (n : Note) : String :=
  n.level.name ++ " " ++ n.text elapsed

/-- Whether a note is a warning or an error. -/
def isSerious (n : Note) : Bool :=
  match n.level with
  | .warn | .error => true
  | _ => false

end Note

end MailCollector.Log
