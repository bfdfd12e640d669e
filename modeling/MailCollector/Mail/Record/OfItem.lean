import MailCollector.Mail.Record
import MailCollector.Mail.Item
import MailCollector.Mail.Folder
import MailCollector.Calendar.Rfc2822
import MailCollector.Calendar.Rfc3339

/-!
# From an item to its record

The headers of a record name the mailbox and the folder it was collected from, then repeat the
properties of the item. A property that is absent or empty leaves no header. The date line exists
only for years of four digits, so an item sent in any other year has no record.
-/

namespace MailCollector.Mail

open MailCollector.Calendar MailCollector.Text

/-- A truth value as a header. -/
def flagText (b : Bool) : String := if b then "true" else "false"

/-- The headers of an item other than its date line. -/
def Item.headers (item : Item) (mailbox : String) (folder : FolderId) :
    List (String × Option String) :=
  [ ("X-Mailbox", some mailbox),
    ("X-Folder-Id", some folder.text),
    ("X-Item-Id", some item.id.text),
    ("X-Change-Key", item.changeKey),
    ("Subject", item.subject),
    ("From", item.sender.bind Address.display),
    ("To", Address.displayList item.recipients),
    ("Cc", Address.displayList item.copied),
    ("X-Received-Date", item.receivedAt.map (Rfc3339.format .seconds .letter)),
    ("Message-ID", item.messageId),
    ("In-Reply-To", item.inReplyTo),
    ("References", item.references),
    ("Importance", item.importance),
    ("X-Is-Read", item.isRead.map flagText),
    ("X-Has-Attachments", item.hasAttachments.map flagText),
    ("X-Size", item.size.map natText),
    ("X-Conversation-Id", item.conversationId) ]

/-- The record of an item, unless it was sent in a year that the date line cannot write. -/
def Record.ofItem? (item : Item) (mailbox : String) (folder : FolderId) : Option Record :=
  match item.sentAt with
  | none => some (Record.ofHeaders (item.headers mailbox folder))
  | some sent => do
    let date ← Rfc2822.format? sent
    some (Record.ofHeaders (item.headers mailbox folder ++ [("Date", some date)]))

end MailCollector.Mail
