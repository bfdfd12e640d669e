import MailCollector.Calendar.Rfc3339
import MailCollector.Mail.Listing
import MailCollector.Xml.Markup

/-!
# Requests to Exchange Web Services

Four questions are asked of a server: the folders below a folder, the changes in a folder since a
sync state, a page of a folder, and the items with given ids. Each is a SOAP envelope whose header
says on whose behalf the caller acts. A caller with rights of its own names the mailbox in the
folder reference instead.
-/

namespace MailCollector.Ews

open MailCollector.Calendar MailCollector.Mail MailCollector.Text MailCollector.Xml

/-- By what right a request looks into a mailbox. -/
inductive Standing where
  /-- Acting as the owner of the mailbox. -/
  | impersonating (mailbox : String)
  /-- By the caller's own rights. -/
  | delegate (mailbox : String)
deriving DecidableEq, Repr

/-- A question to a server. -/
inductive Query where
  | folders (parent : FolderId)
  | changes (folder : FolderId) (syncState : Option String) (limit : Nat)
  | page (folder : FolderId) (offset limit : Nat) (changedSince : Option Instant)
  | items (ids : List ItemId)
deriving DecidableEq

/-- The name of the operation that answers a question. -/
def Query.operation : Query → String
  | folders _ => "FindFolder"
  | changes .. => "SyncFolderItems"
  | page .. => "FindItem"
  | items _ => "GetItem"

/-- The namespace of the operations. -/
def messagesNamespace : String := "http://schemas.microsoft.com/exchange/services/2006/messages"

/-- The namespace of the data in them. -/
def typesNamespace : String := "http://schemas.microsoft.com/exchange/services/2006/types"

/-- The namespace of the envelope. -/
def envelopeNamespace : String := "http://schemas.xmlsoap.org/soap/envelope/"

/-- The version of the protocol that is spoken. -/
def serverVersion : String := "Exchange2010_SP2"

/-- The properties that are asked for of each item besides its id. -/
def itemProperties : List String :=
  [ "item:Subject", "item:DateTimeSent", "item:DateTimeReceived", "item:Size", "item:Importance",
    "item:HasAttachments", "item:InReplyTo", "item:ConversationId", "message:From",
    "message:ToRecipients", "message:CcRecipients", "message:InternetMessageId", "message:IsRead",
    "message:References" ]

/-- The header that names the mailbox a caller acts as. -/
def Standing.header : Standing → List Markup
  | impersonating mailbox =>
    [ .plain "t:ExchangeImpersonation"
        [.plain "t:ConnectingSID" [.ofText "t:PrimarySmtpAddress" mailbox]] ]
  | delegate _ => []

/-- A reference to a folder. -/
def Standing.reference (s : Standing) (folder : FolderId) : Markup :=
  match folder, s with
  | .opaqueId id, _ => .single "t:FolderId" [("Id", id)]
  | .wellKnown kind, impersonating _ => .single "t:DistinguishedFolderId" [("Id", kind.name)]
  | .wellKnown kind, delegate mailbox =>
    .element "t:DistinguishedFolderId" [("Id", kind.name)]
      [.plain "t:Mailbox" [.ofText "t:EmailAddress" mailbox]]

/-- The demand that items are answered by their ids alone. -/
def idsOnly : Markup := .ofText "t:BaseShape" "IdOnly"

/-- The condition that an item was modified at or after an instant, in whole seconds. -/
def modifiedSince (instant : Instant) : Markup :=
  .plain "m:Restriction"
    [ .plain "t:IsGreaterThanOrEqualTo"
        [ .single "t:FieldURI" [("FieldURI", "item:LastModifiedTime")],
          .plain "t:FieldURIOrConstant"
            [.single "t:Constant" [("Value", Rfc3339.format .seconds .letter instant)]] ] ]

/-- The body of a question. -/
def Query.body (q : Query) (s : Standing) : Markup :=
  match q with
  | folders parent =>
    .element "m:FindFolder" [("Traversal", "Deep")]
      [ .plain "m:FolderShape" [idsOnly],
        .plain "m:ParentFolderIds" [s.reference parent] ]
  | changes folder syncState limit =>
    .plain "m:SyncFolderItems"
      ([ .plain "m:ItemShape" [idsOnly],
         .plain "m:SyncFolderId" [s.reference folder] ] ++
       (syncState.map fun state => Markup.ofText "m:SyncState" state).toList ++
       [.ofText "m:MaxChangesReturned" (natText limit)])
  | page folder offset limit changedSince =>
    .element "m:FindItem" [("Traversal", "Shallow")]
      ([ .plain "m:ItemShape" [idsOnly],
         .single "m:IndexedPageItemView"
           [ ("MaxEntriesReturned", natText limit),
             ("Offset", natText offset),
             ("BasePoint", "Beginning") ] ] ++
       (changedSince.map modifiedSince).toList ++
       [.plain "m:ParentFolderIds" [s.reference folder]])
  | items ids =>
    .plain "m:GetItem"
      [ .plain "m:ItemShape"
          [ idsOnly,
            .plain "t:AdditionalProperties"
              (itemProperties.map fun p => .single "t:FieldURI" [("FieldURI", p)]) ],
        .plain "m:ItemIds" (ids.map fun id => .single "t:ItemId" [("Id", id.text)]) ]

/-- The line break between the parts of an envelope. -/
def lineBreak : Markup := .text "\n"

/-- The envelope of a question. -/
def Query.envelope (q : Query) (s : Standing) : Markup :=
  .element "soap:Envelope"
    [ ("xmlns:soap", envelopeNamespace),
      ("xmlns:t", typesNamespace),
      ("xmlns:m", messagesNamespace) ]
    [ lineBreak,
      .plain "soap:Header"
        (.single "t:RequestServerVersion" [("Version", serverVersion)] :: s.header),
      lineBreak,
      .plain "soap:Body" [q.body s],
      lineBreak ]

/-- The text that is sent to ask a question. -/
def Query.text (q : Query) (s : Standing) : String :=
  documentText (q.envelope s)

end MailCollector.Ews
