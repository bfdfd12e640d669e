import MailCollector.Checkpoint.Table
import MailCollector.Crawl.Service

/-!
# Services that answer from a script

A crawl can be rehearsed against a service whose answers are written out beforehand. Folders and
items are looked up; the pages of a folder are handed out one after another, and when none is left
the service answers with an empty page. Single fetches can be given an answer of their own, by their
number among the fetches of this service.
-/

namespace MailCollector.Rehearsal

open MailCollector.Mail MailCollector.Checkpoint MailCollector.Crawl

/-- The answers of a service. -/
structure Service where
  folders : Table String (Except Failure (List FolderId)) := {}
  /-- The pages that have not been handed out yet. -/
  pages : Table (String × FolderId) (List (Except Failure IdPage)) := {}
  items : Table ItemId Item := {}
  /-- The ids for which no item is answered. -/
  missing : List ItemId := []
  /-- Answers for single fetches by their number. -/
  fetches : Table Nat (Except Failure (List Item)) := {}
  /-- The number of fetches so far. -/
  fetched : Nat := 0

namespace Service

/-- The folders of a mailbox; a mailbox that is not in the script has none. -/
def foldersOf (s : Service) (mailbox : String) : Except Failure (List FolderId) :=
  (s.folders.find? mailbox).getD (.ok [])

/-- The next page of a folder. -/
def nextPage (s : Service) (mailbox : String) (folder : FolderId) :
    Except Failure IdPage × Service :=
  match s.pages.find? (mailbox, folder) with
  | some (page :: rest) => (page, { s with pages := s.pages.insert (mailbox, folder) rest })
  | _ => (.ok {}, s)

/-- The item with an id, with no properties if the script has none of it. -/
def item? (s : Service) (id : ItemId) : Option Item :=
  if id ∈ s.missing then none else some ((s.items.find? id).getD { id := id })

/-- The items with given ids, or the answer that the script has for this fetch. -/
def nextFetch (s : Service) (ids : List ItemId) : Except Failure (List Item) × Service :=
  let after := { s with fetched := s.fetched + 1 }
  match s.fetches.find? s.fetched with
  | some answer => (answer, after)
  | none => (.ok (ids.filterMap s.item?), after)

/-- The service that follows its script. It has nothing to note. -/
def scripted : MailService (StateM Service) where
  listFolders mailbox _ s := ((s.foldersOf mailbox, []), s)
  listItems request s :=
    let (page, s) := s.nextPage request.mailbox request.folder
    ((page, []), s)
  fetchItems _ ids s :=
    let (items, s) := s.nextFetch ids
    ((items, []), s)

end Service

end MailCollector.Rehearsal
