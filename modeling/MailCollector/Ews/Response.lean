import MailCollector.Calendar.Rfc3339
import MailCollector.Log.Note
import MailCollector.Mail.Listing
import MailCollector.Xml.Document

/-!
# Answers of Exchange Web Services

An answer is looked at in three steps. A SOAP fault anywhere in it is its meaning. Otherwise its
response message may carry an error of its own. Only then is the payload taken out, and where that
has a gap the answer is not of the expected form. In an answer about several items, an item that is
gone is passed over, and any other error condemns the whole answer.
-/

namespace MailCollector.Ews

open MailCollector.Calendar MailCollector.Log MailCollector.Mail MailCollector.Text
  MailCollector.Xml

/-- The fault of an answer that cannot be read as a document. -/
def unreadable (fault : Xml.Fault) : ServiceFault := .protocol fault.message

/-! ### Errors in answers -/

/-- The error that a SOAP fault in a document means. -/
def soapFault? (document : Element) : Option ServiceFault :=
  (document.descendant? "Fault").map fun fault =>
    let message := (fault.childText? "faultstring").getD "SOAP fault without faultstring"
    let code :=
      (((fault.descendant? "ResponseCode").bind Element.text?).or
        (fault.childText? "faultcode")).getD "SoapFault"
    .ofResponseCode code message

/-- Reads an answer that is not a SOAP fault. -/
def readChecked (body : String) : Except ServiceFault Element :=
  match Xml.parse body with
  | .error fault => .error (unreadable fault)
  | .ok document =>
    match soapFault? document with
    | some fault => .error fault
    | none => .ok document

/-- The error that a response message carries, if it is classed as one. -/
def messageError? (message : Element) : Option ServiceFault :=
  if message.attribute? "ResponseClass" = some "Error" then
    some (.ofResponseCode ((message.childText? "ResponseCode").getD "ErrorUnknown")
      ((message.childText? "MessageText").getD ""))
  else none

/-- A part of an answer that has to be there. -/
def required (gap : String) : Option α → Except ServiceFault α
  | some a => .ok a
  | none => .error (.protocol gap)

/-- The response message of an operation with one target, unless it carries an error. -/
def soleMessage (document : Element) (name : String) : Except ServiceFault Element := do
  let message ← required ("response lacks " ++ name) (document.descendant? name)
  match messageError? message with
  | some fault => .error fault
  | none => .ok message

/-! ### Values -/

/-- Reads a truth value. -/
def readFlag : Option String → Option Bool
  | some "true" | some "1" => some true
  | some "false" | some "0" => some false
  | _ => none

/-- Reads an instant; a text that is none counts as absent. -/
def readInstant (text : Option String) : Option Instant :=
  text.bind Rfc3339.parse?

/-! ### Folders -/

/-- The id of a listed folder. -/
def folderOf (folder : Element) : Except ServiceFault FolderId :=
  required "Folder without FolderId"
    (((folder.child? "FolderId").bind (·.attribute? "Id")).map .opaqueId)

/-- The mail folders in an answer. Folders of other kinds have elements of other names. -/
def readFolders (body : String) : Except ServiceFault (List FolderId) := do
  let document ← readChecked body
  let message ← soleMessage document "FindFolderResponseMessage"
  let folders ← required "FindFolder response lacks Folders" (message.descendant? "Folders")
  (folders.childrenNamed "Folder").mapM folderOf

/-! ### Pages of ids -/

/-- Whether a change brings an item that is new or altered. Deletions and read marks do not. -/
def bringsItem (change : Element) : Bool :=
  change.name == "Create" || change.name == "Update"

/-- The id in an element that names an item. -/
def idOf (reference : Element) : Except ServiceFault ItemId :=
  required "ItemId without Id" ((reference.attribute? "Id").map ItemId.mk)

/-- The changes of a folder as a page. Every change counts as an entry of the page; the ids are
those of the changes that bring an item and name it. -/
def readChanges (body : String) : Except ServiceFault IdPage := do
  let document ← readChecked body
  let message ← soleMessage document "SyncFolderItemsResponseMessage"
  let state ← required "SyncFolderItems response lacks SyncState" (message.childText? "SyncState")
  let changes := ((message.child? "Changes").map Element.children).getD []
  let references := (changes.filter bringsItem).filterMap (Element.descendant? "ItemId")
  let ids ← references.mapM idOf
  pure
    { ids := ids
      token := some state
      saysLast := (readFlag (message.childText? "IncludesLastItemInRange")).getD false
      entriesReturned := changes.length }

/-- The id of an item on a page. -/
def listedId (item : Element) : Except ServiceFault ItemId :=
  required "item without ItemId"
    (((item.child? "ItemId").bind (·.attribute? "Id")).map ItemId.mk)

/-- The offset of the next page, if the server names one. -/
def readOffset (root : Element) : Except ServiceFault (Option Nat) :=
  match root.attribute? "IndexedPagingOffset" with
  | none => .ok none
  | some raw =>
    match readNat? maxWord raw with
    | some offset => .ok (some offset)
    | none => .error (.protocol ("bad IndexedPagingOffset " ++ quoted raw))

/-- A page of a folder. -/
def readPage (body : String) : Except ServiceFault IdPage := do
  let document ← readChecked body
  let message ← soleMessage document "FindItemResponseMessage"
  let root ← required "FindItem response lacks RootFolder" (message.child? "RootFolder")
  let nextOffset ← readOffset root
  let ids ← (((root.child? "Items").map Element.children).getD []).mapM listedId
  pure
    { ids := ids
      nextOffset := nextOffset
      saysLast := (readFlag (root.attribute? "IncludesLastItemInRange")).getD false
      entriesReturned := ids.length }

/-! ### Items -/

/-- The response code for an item that is gone. -/
def goneCode : String := "ErrorItemNotFound"

/-- An address in an item. -/
def addressOf (mailbox : Element) : Address :=
  ⟨mailbox.childText? "Name", mailbox.childText? "EmailAddress"⟩

/-- The addresses in a list of recipients. -/
def recipientsOf (item : Element) (name : String) : List Address :=
  match item.child? name with
  | some list => (list.childrenNamed "Mailbox").map addressOf
  | none => []

/-- An item with everything that is told about it. -/
def itemOf (item : Element) : Except ServiceFault Item := do
  let reference ← required "item without ItemId" (item.child? "ItemId")
  let id ← idOf reference
  pure
    { id := id
      changeKey := reference.attribute? "ChangeKey"
      subject := item.childText? "Subject"
      sender := ((item.child? "From").bind (·.child? "Mailbox")).map addressOf
      recipients := recipientsOf item "ToRecipients"
      copied := recipientsOf item "CcRecipients"
      sentAt := readInstant (item.childText? "DateTimeSent")
      receivedAt := readInstant (item.childText? "DateTimeReceived")
      size := (item.childText? "Size").bind (readNat? maxWord)
      importance := item.childText? "Importance"
      isRead := readFlag (item.childText? "IsRead")
      hasAttachments := readFlag (item.childText? "HasAttachments")
      messageId := item.childText? "InternetMessageId"
      inReplyTo := item.childText? "InReplyTo"
      references := item.childText? "References"
      conversationId := (item.child? "ConversationId").bind (·.attribute? "Id") }

/-- The item element of a response message. -/
def itemElement? (message : Element) : Option Element :=
  (message.child? "Items").bind (·.children.head?)

/-- What a response message says about one item. Nothing if the item is gone. -/
def answeredItem (message : Element) : Except ServiceFault (Option Item) :=
  match messageError? message with
  | some fault =>
    if message.childText? "ResponseCode" = some goneCode then .ok none else .error fault
  | none => do
    let item ← required "GetItem response message without item" (itemElement? message)
    (itemOf item).map some

/-- The items of several response messages, in their order. -/
def answeredItems : List Element → Except ServiceFault (List Item)
  | [] => .ok []
  | message :: messages => do
    let item ← answeredItem message
    let items ← answeredItems messages
    pure (item.toList ++ items)

/-- The response messages of an answer about items. An answer may hold none, but not lack their
list. -/
def itemMessages (document : Element) : Except ServiceFault (List Element) :=
  let messages := document.descendantsNamed "GetItemResponseMessage"
  if messages.isEmpty && (document.descendant? "ResponseMessages").isNone then
    .error (.protocol "response lacks GetItemResponseMessage")
  else .ok messages

/-- The items in an answer. -/
def readItems (body : String) : Except ServiceFault (List Item) := do
  let document ← readChecked body
  let messages ← itemMessages document
  answeredItems messages

/-! ### Notes -/

/-- A note about a text that stands where an instant should. -/
def instantNote (text : Option String) : List Note :=
  match text with
  | some t => if (Rfc3339.parse? t).isNone then [.instantIgnored t] else []
  | none => []

/-- The notes about one response message that was read. -/
def messageNotes (message : Element) : List Note :=
  match messageError? message with
  | some fault => [.itemUnresolvable fault]
  | none =>
    match itemElement? message with
    | some item =>
      instantNote (item.childText? "DateTimeSent") ++
        instantNote (item.childText? "DateTimeReceived")
    | none => []

/-- The notes about response messages, up to the first that condemns the answer. -/
def messagesNotes : List Element → List Note
  | [] => []
  | message :: messages =>
    match answeredItem message with
    | .ok _ => messageNotes message ++ messagesNotes messages
    | .error _ => []

/-- The notes about an answer about items. -/
def itemsNotes (body : String) : List Note :=
  match readChecked body >>= itemMessages with
  | .ok messages => messagesNotes messages
  | .error _ => []

end MailCollector.Ews
