import MailCollector.Crawl.Config
import MailCollector.Crawl.Program
import MailCollector.Crawl.Sequence
import MailCollector.Text.Blank
import MailCollector.Mail.Record.OfItem

/-!
# Crawling one folder

A folder is crawled in pages of ids, and each page in batches of items. A page shorter than the page
size is the last one, where deletions count as entries; the server's own word that nothing follows
is not trusted, so a full page is always followed by one more request. When the last page has been
drained the token of the folder is written once, if there is one, and nothing of the folder is
asked for after that.
-/

namespace MailCollector.Crawl

open MailCollector.Calendar MailCollector.Mail MailCollector.Log MailCollector.Text

/-! ### The position in a folder -/

/-- A folder of a mailbox with the token that covers what has been listed of it. -/
structure FolderHandle where
  mailbox : String
  folder : FolderId := .default
  token : Option String := none
deriving DecidableEq

namespace FolderHandle

/-- The same handle for another folder. -/
def withFolder (h : FolderHandle) (folder : FolderId) : FolderHandle := { h with folder := folder }

/-- Starts from a stored token. An empty token is none. -/
def withToken (h : FolderHandle) (token : Option String) : FolderHandle :=
  { h with token := nonEmpty token }

/-- Moves on to the token of a page. A page without a token, or with an empty one, leaves the
handle where it is. -/
def advance (h : FolderHandle) (token : Option String) : FolderHandle :=
  match nonEmpty token with
  | some t => { h with token := some t }
  | none => h

end FolderHandle

/-! ### Batches of items -/

/-- The ids of one page that have not been fetched yet. -/
structure Batches where
  mailbox : String
  folder : FolderId
  waiting : List ItemId
deriving DecidableEq

/-- The records of several items, unless one of them cannot be written. -/
def recordsOf (mailbox : String) (folder : FolderId) : List Item → Program (List Record)
  | [] => pure []
  | item :: items =>
    match Record.ofItem? item mailbox folder with
    | none => .crash (.unwritableDate item.id)
    | some record => do
      let records ← recordsOf mailbox folder items
      pure (record :: records)

namespace Batches

/-- Fetches the next batch as a list of records. The ids of a batch count as fetched only if the
call succeeds; the server may answer fewer items than it was asked for. -/
def supply (config : Config) (b : Batches) : Program (Turn Failure (List Record) Batches) :=
  match b.waiting with
  | [] => pure (.ended b)
  | id :: ids => do
    let batch := (id :: ids).take config.detailPageSize
    match ← Program.ask (.fetchItems b.mailbox batch) with
    | .error failure =>
      pure (.failed (failure.during (.fetchingItems batch.length b.folder b.mailbox)) b)
    | .ok items => do
      Program.note (.itemsFetched items.length batch.length b.folder b.mailbox)
      let records ← recordsOf b.mailbox b.folder items
      pure (.value records { b with waiting := (id :: ids).drop config.detailPageSize })

end Batches

/-- The records of one page. -/
abbrev PageCrawl := Chain Batches (List Record)

namespace PageCrawl

/-- Starts on the ids of a page. -/
def start (mailbox : String) (folder : FolderId) (ids : List ItemId) : PageCrawl :=
  { source := ⟨mailbox, folder, ids⟩ }

/-- One turn of a page. -/
def turn (config : Config) (c : PageCrawl) : Program (Turn Failure Record PageCrawl) :=
  Chain.turn (Batches.supply config) listTurn c

/-- The ids that have not been fetched yet. -/
def remaining (c : PageCrawl) : Nat := c.source.waiting.length

end PageCrawl

/-! ### Pages of ids -/

/-- How far the listing of a folder has come. -/
inductive Stage where
  | paging
  /-- The last page was listed. -/
  | listed
  /-- The end of the listing was recorded, or recording it was tried. -/
  | closed
deriving DecidableEq, Repr

/-- The listing of one folder. -/
structure Pages where
  handle : FolderHandle
  changedSince : Option Instant := none
  offset : Nat := 0
  fetched : Nat := 0
  stage : Stage := .paging
deriving DecidableEq

namespace Pages

/-- The request for the next page. -/
def request (config : Config) (p : Pages) : PageRequest :=
  { mailbox := p.handle.mailbox
    folder := p.handle.folder
    pageSize := config.idPageSize
    cursor :=
      match config.mode with
      | .syncToken => .token p.handle.token
      | .lastSynced => .offset p.offset p.changedSince }

/-- Writes the token of the folder, if it has one. -/
def commit (p : Pages) : Program (Except Failure Unit) :=
  match p.handle.token with
  | none => pure (.ok ())
  | some token => do
    match ← Program.ask (.writeToken p.handle.mailbox p.handle.folder token) with
    | .error failure =>
      pure (.error (failure.during (.writingToken p.handle.folder p.handle.mailbox)))
    | .ok () => do
      Program.note (.tokenWritten p.handle.folder p.handle.mailbox p.fetched)
      pure (.ok ())

/-- The offset after a page, where the server's own word counts before the sum. Offsets are machine
words, so the sum wraps around. -/
def nextOffset (offset : Nat) (page : IdPage) : Nat :=
  page.nextOffset.getD ((offset + page.entries) % wordCount)

/-- Lists the next page and yields the crawl of its ids. A page without ids yields nothing yet, and
after the last page the token is written. -/
def supply (config : Config) (p : Pages) : Program (Turn Failure PageCrawl Pages) :=
  match p.stage with
  | .closed => pure (.ended p)
  | .listed => do
    match ← p.commit with
    | .error failure => pure (.failed failure { p with stage := .closed })
    | .ok () => pure (.ended { p with stage := .closed })
  | .paging => do
    let request := p.request config
    match ← Program.ask (.listItems request) with
    | .error failure =>
      pure (.failed (failure.during (.listingItems request.folder request.mailbox)) p)
    | .ok page => do
      let fetched := p.fetched + 1
      Program.note (.pageListed fetched request.folder request.mailbox page.ids.length
        page.entries page.saysLast)
      let p : Pages :=
        { p with
          handle := p.handle.advance page.token
          offset := nextOffset p.offset page
          fetched := fetched
          stage := if page.entries < config.idPageSize then .listed else .paging }
      match page.ids with
      | [] => pure (.working p)
      | ids => pure (.value (PageCrawl.start request.mailbox request.folder ids) p)

end Pages

/-- The records of one folder. -/
abbrev FolderCrawl := Chain Pages PageCrawl

namespace FolderCrawl

/-- Starts on a folder. -/
def start (handle : FolderHandle) (changedSince : Option Instant) : FolderCrawl :=
  { source := { handle := handle, changedSince := changedSince } }

/-- One turn of a folder. -/
def turn (config : Config) (c : FolderCrawl) : Program (Turn Failure Record FolderCrawl) :=
  Chain.turn (Pages.supply config) (PageCrawl.turn config) c

end FolderCrawl

end MailCollector.Crawl
