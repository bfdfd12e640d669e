import MailCollector.Mail.Folder
import MailCollector.Mail.Item

/-!
# Listing a folder page by page

The ids of a folder are asked for in pages. A request says where to go on: at a token that the
server gave out, or at an offset, then limited to what changed since an instant.
-/

namespace MailCollector.Mail

open MailCollector.Calendar

/-- Where a page of ids begins. -/
inductive Cursor where
  /-- After what a token covers; without a token, at the beginning. -/
  | token (token : Option String)
  /-- After so many entries, of those changed at or after an instant if one is given. -/
  | offset (offset : Nat) (changedSince : Option Instant)
deriving DecidableEq

/-- A request for one page of ids of one folder. -/
structure PageRequest where
  mailbox : String
  folder : FolderId
  pageSize : Nat
  cursor : Cursor
deriving DecidableEq

/-- One page of ids as a server answers it. -/
structure IdPage where
  ids : List ItemId := []
  nextOffset : Option Nat := none
  token : Option String := none
  /-- The server's own word that nothing follows. -/
  saysLast : Bool := false
  /-- The entries that the server counted, which include deletions and changes without an id. -/
  entriesReturned : Nat := 0
deriving DecidableEq

/-- The size of a page: what the server counted, but never less than the ids on it. -/
def IdPage.entries (p : IdPage) : Nat := max p.entriesReturned p.ids.length

end MailCollector.Mail
