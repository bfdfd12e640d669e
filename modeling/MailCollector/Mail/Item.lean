import MailCollector.Calendar.Instant

/-!
# Items and addresses as a server reports them

An item is one mail with whatever properties the server sent. Every property but the id may be
absent, and a text that is there may still be empty.
-/

namespace MailCollector.Mail

open MailCollector.Calendar

/-- The server's opaque name of one item. -/
structure ItemId where
  text : String
deriving DecidableEq, Repr

/-- An address with an optional display name. -/
structure Address where
  name : Option String := none
  email : Option String := none
deriving DecidableEq, Repr

namespace Address

/-- The address as one text. The name stands before the address in angle brackets if it is not empty
and says something else; otherwise whichever part is not empty stands alone. An address that is
present but empty still gets its brackets after a name. -/
def display (a : Address) : Option String :=
  match a.name, a.email with
  | some name, some email =>
    if name ≠ "" ∧ name ≠ email then some (name ++ " <" ++ email ++ ">")
    else if email ≠ "" then some email
    else if name ≠ "" then some name
    else none
  | none, some email => if email ≠ "" then some email else none
  | some name, none => if name ≠ "" then some name else none
  | none, none => none

/-- The addresses of a header line, separated by commas; nothing if none of them can be shown. -/
def displayList (addresses : List Address) : Option String :=
  match addresses.filterMap display with
  | [] => none
  | shown => some (String.intercalate ", " shown)

end Address

/-- Everything a server tells about one mail. -/
structure Item where
  id : ItemId
  changeKey : Option String := none
  subject : Option String := none
  sender : Option Address := none
  recipients : List Address := []
  copied : List Address := []
  sentAt : Option Instant := none
  receivedAt : Option Instant := none
  size : Option Nat := none
  importance : Option String := none
  isRead : Option Bool := none
  hasAttachments : Option Bool := none
  messageId : Option String := none
  inReplyTo : Option String := none
  references : Option String := none
  conversationId : Option String := none
deriving DecidableEq

end MailCollector.Mail
