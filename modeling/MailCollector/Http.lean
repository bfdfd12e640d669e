import MailCollector.Text.Utf8

/-!
# Exchanges over HTTP

A request is an address, headers and a body. The transport either brings back a reply or loses the
request; a reply may break off before its end. What a transport does is left open, so that a client
can be run, and reasoned about, with any of them.
-/

namespace MailCollector.Http

open MailCollector.Text

/-- A request to be posted. -/
structure Request where
  address : String
  headers : List (String × String)
  body : String
deriving DecidableEq, Repr

/-- The header that carries credentials. -/
def authorization : String := "Authorization"

/-- Whether a character may stand in a header: no control character but the tab, and not DEL. -/
def isHeaderChar (c : Char) : Bool :=
  c == '\t' || (0x20 ≤ c.toNat && c.toNat ≠ 0x7F)

/-- Whether a header can be sent. Credentials have to be ASCII. -/
def isHeader (header : String × String) : Bool :=
  header.2.toList.all fun c =>
    isHeaderChar c && (header.1 != authorization || decide (c.toNat < 0x80))

/-- Whether a request can be sent. -/
def Request.isSendable (r : Request) : Bool := r.headers.all isHeader

/-- A reply as it came over the wire. -/
structure Reply where
  status : Nat
  contentType : String := "text/xml; charset=utf-8"
  body : List UInt8
  /-- Whether the body came through to its end. -/
  complete : Bool := true
deriving DecidableEq, Repr

namespace Reply

/-- Whether a reply declares its body to be some kind of text. -/
def isText (r : Reply) : Bool := "text/".toList.isPrefixOf r.contentType.toList

/-- The body as text. In a declared text each damaged part reads as a question mark; any other body
has to be sound. -/
def text? (r : Reply) : Option String :=
  if !r.complete then none
  else if r.isText then some (String.ofList (Utf8.decodeMarking '?' r.body))
  else (Utf8.decode? r.body).map String.ofList

end Reply

/-- A means of sending requests, with its effects in `m`. A lost request has no reply. -/
structure Transport (m : Type → Type) where
  send : Request → m (Option Reply)

/-- Sends a request if it can be sent. -/
def Transport.post {m : Type → Type} [Monad m] (t : Transport m) (r : Request) :
    m (Option Reply) :=
  if r.isSendable then t.send r else pure none

/-- The transport that loses every request. -/
def Transport.unreachable {m : Type → Type} [Monad m] : Transport m where
  send _ := pure none

end MailCollector.Http
