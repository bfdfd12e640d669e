import MailCollector.Crawl.Folder

/-!
# Crawling one mailbox

Opening a mailbox takes the time, reads the instant to resume from if the mode asks for it, and
lists the folders. The folders are then crawled one after another. When all of them have ended, the
time taken at the opening is written as the mailbox's instant, so that what changed during the crawl
is looked at again next time.
-/

namespace MailCollector.Crawl

open MailCollector.Calendar MailCollector.Mail MailCollector.Log

/-- The folders of a mailbox that have not been started yet. -/
structure Folders where
  mailbox : String
  startedAt : Instant
  changedSince : Option Instant
  waiting : List FolderId
deriving DecidableEq

namespace Folders

/-- Starts on a folder. Only the token mode looks at the stored token. -/
def openFolder (config : Config) (f : Folders) (folder : FolderId) :
    Program (Except Failure FolderCrawl) := do
  let token ← match config.mode with
    | .syncToken => Program.ask (.readToken f.mailbox folder)
    | .lastSynced => pure (.ok none)
  match token with
  | .error failure => pure (.error (failure.during (.readingToken folder f.mailbox)))
  | .ok token =>
    let handle := ({ mailbox := f.mailbox : FolderHandle }.withFolder folder).withToken token
    pure (.ok (FolderCrawl.start handle f.changedSince))

/-- Writes the instant of the mailbox. -/
def complete (f : Folders) : Program (Except Failure Unit) := do
  match ← Program.ask (.writeInstant f.mailbox f.startedAt) with
  | .error failure => pure (.error (failure.during (.writingInstant f.mailbox)))
  | .ok () => do
    Program.note (.mailboxFinished f.mailbox)
    pure (.ok ())

/-- Yields the crawl of the next folder, and completes the mailbox after the last one. -/
def supply (config : Config) (f : Folders) : Program (Turn Failure FolderCrawl Folders) :=
  match f.waiting with
  | [] => do
    match ← f.complete with
    | .error failure => pure (.failed failure f)
    | .ok () => pure (.ended f)
  | folder :: rest => do
    let after := { f with waiting := rest }
    match ← f.openFolder config folder with
    | .error failure => pure (.failed failure after)
    | .ok crawl => pure (.value crawl after)

end Folders

/-- The records of one mailbox. -/
abbrev MailboxCrawl := Chain Folders FolderCrawl

namespace MailboxCrawl

/-- The folder below which all folders of a mailbox are listed. -/
def root : FolderId := .wellKnown .messageRoot

/-- Opens a mailbox. -/
def start (config : Config) (mailbox : String) : Program (Except Failure MailboxCrawl) := do
  let startedAt ← Program.ask .clock
  let changedSince ← match config.mode with
    | .lastSynced => Program.ask (.readInstant mailbox)
    | .syncToken => pure (.ok none)
  match changedSince with
  | .error failure => pure (.error (failure.during (.readingInstant mailbox)))
  | .ok changedSince => do
    match ← Program.ask (.listFolders mailbox root) with
    | .error failure => pure (.error (failure.during (.listingFolders mailbox)))
    | .ok folders => do
      Program.note
        (if folders.isEmpty then .noFolders mailbox else .foldersFound folders.length mailbox)
      pure (.ok { source := ⟨mailbox, startedAt, changedSince, folders⟩ })

/-- One turn of a mailbox. -/
def turn (config : Config) (c : MailboxCrawl) : Program (Turn Failure Record MailboxCrawl) :=
  Chain.turn (Folders.supply config) (FolderCrawl.turn config) c

/-- The folders that have not been started yet. -/
def remaining (c : MailboxCrawl) : Nat := c.source.waiting.length

end MailboxCrawl

end MailCollector.Crawl
