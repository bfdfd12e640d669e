/-!
# Folders of a mailbox

A folder is named either by a kind that every mailbox has or by an id that only the server
understands. Checkpoints are kept under a key in which the two can never meet.
-/

namespace MailCollector.Mail

/-- The folders that every mailbox has under a fixed name. -/
inductive FolderKind where
  | root
  | messageRoot
  | inbox
  | sentItems
  | drafts
  | deletedItems
  | junkEmail
  | outbox
  | archiveInbox
deriving DecidableEq, Repr

namespace FolderKind

/-- All kinds, in the order in which they are listed to the user. -/
def all : List FolderKind :=
  [root, messageRoot, inbox, sentItems, drafts, deletedItems, junkEmail, outbox, archiveInbox]

/-- The name of a kind in requests and in stored data. -/
def name : FolderKind → String
  | root => "root"
  | messageRoot => "msgfolderroot"
  | inbox => "inbox"
  | sentItems => "sentitems"
  | drafts => "drafts"
  | deletedItems => "deleteditems"
  | junkEmail => "junkemail"
  | outbox => "outbox"
  | archiveInbox => "archiveinbox"

/-- The kind with a given name. -/
def ofName? (s : String) : Option FolderKind :=
  all.find? fun k => k.name == s

end FolderKind

/-- A folder of a mailbox, by its kind or by an opaque id of the server. -/
inductive FolderId where
  | wellKnown (kind : FolderKind)
  | opaqueId (id : String)
deriving DecidableEq, Repr

namespace FolderId

/-- The folder that is meant when none is named. -/
def default : FolderId := .wellKnown .inbox

instance : Inhabited FolderId := ⟨default⟩

/-- The folder as messages and records show it. -/
def text : FolderId → String
  | wellKnown kind => kind.name
  | opaqueId id => id

/-- The key of a folder in a checkpoint store. The two kinds of folder have different beginnings, so
an opaque id never shares the key of a well-known folder. -/
def storageKey : FolderId → String
  | wellKnown kind => "wellknown:" ++ kind.name
  | opaqueId id => "id:" ++ id

end FolderId

end MailCollector.Mail
