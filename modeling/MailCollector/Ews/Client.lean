import MailCollector.Crawl.Service
import MailCollector.Ews.Request
import MailCollector.Ews.Response
import MailCollector.Http
import MailCollector.Text.Base64

/-!
# A client of Exchange Web Services

The client posts a question and makes of the reply either an answer or a fault. A status that
refuses the credentials is decisive. Another status that is no success leaves the word to a SOAP
fault in the body, since servers report most errors that way, and only without one does the status
itself count.
-/

namespace MailCollector.Ews

open MailCollector.Crawl MailCollector.Log MailCollector.Mail MailCollector.Text

/-- What a client identifies itself with. -/
inductive Credentials where
  | basic (username password : String)
  | bearer (token : String)
deriving DecidableEq, Repr

namespace Credentials

/-- The value of the header that carries the credentials. -/
def headerValue : Credentials → String
  | basic username password =>
    "Basic " ++
      String.ofList (Base64.encode (Utf8.encode (username ++ ":" ++ password).toList))
  | bearer token => "Bearer " ++ token

/-- The credentials without their secret part. -/
def summary : Credentials → String
  | basic username _ => "Basic(" ++ username ++ ")"
  | bearer _ => "Bearer(..)"

end Credentials

/-- A client for one server. -/
structure Client where
  /-- The address of the server as it is written in requests. -/
  endpoint : String
  credentials : Credentials
  /-- Whether the client acts as the owner of each mailbox. -/
  impersonates : Bool := true
deriving DecidableEq, Repr

/-- The longest part of a reply that is repeated in a fault. -/
def excerptLength : Nat := 512

/-- The beginning of a reply without the blanks around it. -/
def excerpt (text : String) : String :=
  let cs := (trimmed text).toList
  if cs.length ≤ excerptLength then String.ofList cs
  else String.ofList (cs.take excerptLength) ++ "..."

/-- What a reply with a status and a body amounts to. -/
def verdict (operation : String) (status : Nat) (body : String) : Except ServiceFault String :=
  if 200 ≤ status ∧ status ≤ 299 then .ok body
  else if status = 401 ∨ status = 403 then
    .error (.authentication (operation ++ " rejected with HTTP " ++ natText status))
  else
    match (Xml.parse body).toOption.bind soapFault? with
    | some fault => .error fault
    | none => .error (.transport (some status) (excerpt body))

namespace Client

/-- By what right the client looks into a mailbox. -/
def standing (c : Client) (mailbox : String) : Standing :=
  if c.impersonates then .impersonating mailbox else .delegate mailbox

/-- The request that asks a question about a mailbox. -/
def request (c : Client) (mailbox : String) (q : Query) : Http.Request :=
  { address := c.endpoint
    headers :=
      [ ("Content-Type", "text/xml; charset=utf-8"),
        ("SOAPAction", "\"" ++ messagesNamespace ++ "/" ++ q.operation ++ "\""),
        (Http.authorization, c.credentials.headerValue) ] ++
      (if c.impersonates then [("X-AnchorMailbox", mailbox)] else [])
    body := q.text (c.standing mailbox) }

/-- What comes of a question, given the reply to it, with the notes about it. -/
def received (mailbox operation : String) :
    Option Http.Reply → Except ServiceFault String × List Note
  | none => (.error (.transport none (operation ++ " request failed")), [])
  | some reply =>
    match reply.text? with
    | none =>
      (.error (.transport (some reply.status) ("failed to read " ++ operation ++ " response")), [])
    | some body =>
      (verdict operation reply.status body,
        [.answered operation mailbox reply.status (Utf8.encode body.toList).length])

/-- Asks a question and reads the answer, about which `notes` may have something to say. -/
def ask {m : Type → Type} [Monad m] {α : Type} (c : Client) (t : Http.Transport m)
    (mailbox : String) (q : Query) (read : String → Except ServiceFault α)
    (notes : String → List Note) : m (Answered α) := do
  let reply ← t.post (c.request mailbox q)
  match received mailbox q.operation reply with
  | (.error fault, noted) => pure (.error (.ofFault fault), noted)
  | (.ok body, noted) => pure ((read body).mapError .ofFault, noted ++ notes body)

/-- The question that a request for a page of ids comes down to. -/
def pageQuery (r : PageRequest) : Query :=
  match r.cursor with
  | .token token => .changes r.folder token r.pageSize
  | .offset offset changedSince => .page r.folder offset r.pageSize changedSince

/-- How the answer to a request for a page of ids is read. -/
def readIds (r : PageRequest) : String → Except ServiceFault IdPage :=
  match r.cursor with
  | .token _ => readChanges
  | .offset .. => readPage

/-- The mail service that a client provides over a transport. No items are not asked for. -/
def service {m : Type → Type} [Monad m] (c : Client) (t : Http.Transport m) : MailService m where
  listFolders mailbox parent := c.ask t mailbox (.folders parent) readFolders fun _ => []
  listItems r := c.ask t r.mailbox (pageQuery r) (readIds r) fun _ => []
  fetchItems mailbox ids :=
    match ids with
    | [] => pure (.ok [], [])
    | ids => c.ask t mailbox (.items ids) readItems itemsNotes

end Client

end MailCollector.Ews
