import MailCollector.Mail.Folder
import MailCollector.Json.Error

/-!
# Failures

What can go wrong, as causes. A failure is a cause with the steps during which it happened, the
outermost step first. Texts are made in one place from the cause and the steps; nothing else in the
library looks at a text to find out what went wrong.
-/

namespace MailCollector

open MailCollector.Mail MailCollector.Text

/-- How a remote call fails. -/
inductive ServiceFault where
  /-- The call did not complete, or completed with an HTTP status that is not a success. -/
  | transport (status : Option Nat) (message : String)
  /-- The answer was empty or not of the expected form. -/
  | protocol (message : String)
  /-- The server understood the request and refused it with a response code. -/
  | remote (code message : String)
  /-- Credentials or the right to act for a mailbox were refused. -/
  | authentication (message : String)
deriving DecidableEq, Repr

namespace ServiceFault

/-- The response codes that mean a problem with credentials or impersonation. -/
def authenticationCodes : List String :=
  ["ErrorImpersonateUserDenied", "ErrorImpersonationDenied", "ErrorImpersonationFailed",
    "ErrorInvalidCredentials"]

/-- Classifies a response code of the server. -/
def ofResponseCode (code message : String) : ServiceFault :=
  if code ∈ authenticationCodes then .authentication (code ++ ": " ++ message)
  else .remote code message

/-- The text of a fault. -/
def message : ServiceFault → String
  | transport none m => "transport failure: " ++ m
  | transport (some status) m => "transport failure (HTTP " ++ natText status ++ "): " ++ m
  | protocol m => "protocol failure: " ++ m
  | remote code m => "remote error " ++ code ++ ": " ++ m
  | authentication m => "authentication failure: " ++ m

/-- Whether credentials or rights were refused. -/
def isAuthentication : ServiceFault → Bool
  | authentication _ => true
  | _ => false

/-- The HTTP status that came with the fault. -/
def status : ServiceFault → Option Nat
  | transport status _ => status
  | _ => none

/-- The response code that came with the fault. -/
def responseCode : ServiceFault → Option String
  | remote code _ => some code
  | _ => none

end ServiceFault

/-- A step of the work during which something went wrong. -/
inductive Step where
  | readingInstant (mailbox : String)
  | writingInstant (mailbox : String)
  | listingFolders (mailbox : String)
  | readingToken (folder : FolderId) (mailbox : String)
  | writingToken (folder : FolderId) (mailbox : String)
  | listingItems (folder : FolderId) (mailbox : String)
  | fetchingItems (count : Nat) (folder : FolderId) (mailbox : String)
  | storingRecord (number : Nat)
  | flushingSink
  | writingRecord
  | endingRecord
  | flushingOutput
  | parsingSettings
  | readingFile (path : String)
  | parsingFile (path : String)
  | creatingDirectory (path : String)
  | creatingOutput (path : String)
  | openingCheckpoints (path : String)
  | preparingCheckpoints
deriving DecidableEq, Repr

/-- The text of a step. -/
def Step.message : Step → String
  | readingInstant mailbox => "Failed to read last-synced checkpoint of " ++ mailbox
  | writingInstant mailbox => "Failed to commit last-synced checkpoint of " ++ mailbox
  | listingFolders mailbox => "Failed to list folders of " ++ mailbox
  | readingToken folder mailbox =>
    "Failed to read sync token for folder " ++ folder.text ++ " of " ++ mailbox
  | writingToken folder mailbox =>
    "Failed to commit sync token for folder " ++ folder.text ++ " of " ++ mailbox
  | listingItems folder mailbox =>
    "Failed to list item ids in folder " ++ folder.text ++ " of " ++ mailbox
  | fetchingItems count folder mailbox =>
    "Failed to fetch " ++ natText count ++ " item details in folder " ++ folder.text ++ " of " ++
      mailbox
  | storingRecord number => "Failed to store record " ++ natText number
  | flushingSink => "Failed to flush record sink"
  | writingRecord => "Failed to serialize record"
  | endingRecord => "Failed to write record separator"
  | flushingOutput => "Failed to flush record output"
  | parsingSettings => "Failed to parse harvest settings JSON"
  | readingFile path => "Failed to read config file: " ++ path
  | parsingFile path => "Failed to parse config file: " ++ path
  | creatingDirectory path => "Failed to create config directory: " ++ path
  | creatingOutput path => "Failed to create output file " ++ path
  | openingCheckpoints path => "Failed to open checkpoint database at " ++ quoted path
  | preparingCheckpoints => "Failed to run checkpoint migrations"

/-- What went wrong in the end. -/
inductive Cause where
  /-- A remote call failed. -/
  | service (fault : ServiceFault)
  /-- The stored instant of a mailbox is no instant. -/
  | corruptInstant (mailbox text : String)
  | json (error : Json.Error)
  | invalidEndpoint (endpoint : String)
  | endpointNotHttp (endpoint : String)
  | noCredentials
  | noPassword (username : String)
  | noMailboxes
  | noConfigDirectory
  /-- The file of checkpoints holds something else. -/
  | damagedCheckpoints
  /-- The file of checkpoints must stay as it is. -/
  | unchangeableCheckpoints
  /-- The surrounding system refused; the steps say what it refused. -/
  | system
  /-- Some other collaborator failed and says so in its own words. -/
  | other (message : String)
deriving DecidableEq

/-- The text of a cause, if it has one of its own. -/
def Cause.message? : Cause → Option String
  | service fault => some fault.message
  | corruptInstant mailbox text =>
    some ("Corrupt last_synced_at for " ++ mailbox ++ ": " ++ text)
  | json error => some error.message
  | invalidEndpoint endpoint => some ("Invalid EWS endpoint: " ++ endpoint)
  | endpointNotHttp endpoint => some ("EWS endpoint must be http(s): " ++ endpoint)
  | noCredentials => some "Settings need either access_token or username"
  | noPassword username => some ("No password for " ++ username ++ " (set HARVEST_PASSWORD)")
  | noMailboxes =>
    some "No mailboxes configured; pass --mailbox or set \"mailboxes\" in settings"
  | noConfigDirectory => some "Could not determine config directory"
  | damagedCheckpoints => some "file is not a database"
  | unchangeableCheckpoints => some "attempt to write a readonly database"
  | system => none
  | other message => some message

/-- A cause with the steps during which it arose, the outermost first. -/
structure Failure where
  steps : List Step := []
  cause : Cause
deriving DecidableEq

namespace Failure

/-- A failed remote call on its own. -/
def ofFault (fault : ServiceFault) : Failure := ⟨[], .service fault⟩

/-- The same failure, seen from a step further out. -/
def during (step : Step) (f : Failure) : Failure := ⟨step :: f.steps, f.cause⟩

/-- The fault of the remote call that is behind a failure. -/
def fault? (f : Failure) : Option ServiceFault :=
  match f.cause with
  | .service fault => some fault
  | _ => none

/-- The steps and the cause as one text. -/
def message (f : Failure) : String :=
  String.intercalate ": " (f.steps.map Step.message ++ f.cause.message?.toList)

end Failure

end MailCollector
