import MailCollector.Crawl.Program

/-!
# Mail services

A mail service answers three kinds of question: which folders a mailbox has, which items are on a
page of a folder, and what the items with given ids look like. Where the answers come from is left
to a monad. A service may also have something to note for the log about an answer.
-/

namespace MailCollector.Crawl

open MailCollector.Mail MailCollector.Log

/-- A result of a service and its notes, in order. -/
abbrev Answered (α : Type) := Except Failure α × List Note

/-- A mail service that answers in `m`. -/
structure MailService (m : Type → Type) where
  listFolders (mailbox : String) (parent : FolderId) : m (Answered (List FolderId))
  listItems (request : PageRequest) : m (Answered IdPage)
  fetchItems (mailbox : String) (ids : List ItemId) : m (Answered (List Item))

end MailCollector.Crawl
