import MailCollector.Proofs.Ews.ItemAnswers
import MailCollector.Proofs.Xml.Search

/-!
# What replies are taken for

Each operation of a client puts a question to the server and makes an answer or an error of the
reply.  Which of the two it is, and which error, does not depend on the operation
(`outcome_classified`).  A status that refuses the credentials decides alone.  Under every other
status a SOAP fault in the body is the error, and it is the same error under all of them.  Without a
fault a status that is no success is the error, whatever the body is, and only a success is left to
be read.
-/

namespace MailCollector.Ews

open MailCollector.Crawl MailCollector.Mail MailCollector.Text MailCollector.Xml

/-! ### Operations -/

/-- An operation of a client for which it needs the server. -/
inductive Operation where
  | listFolders (mailbox : String) (parent : FolderId)
  | listItems (request : PageRequest)
  | fetchItems (mailbox : String) (ids : List ItemId) (nonempty : ids ≠ [])

namespace Operation

/-- What an operation asks for. -/
abbrev Answer : Operation → Type
  | listFolders _ _ => List FolderId
  | listItems _ => IdPage
  | fetchItems _ _ _ => List Item

/-- The mailbox that an operation is about. -/
def mailbox : Operation → String
  | listFolders mailbox _ => mailbox
  | listItems request => request.mailbox
  | fetchItems mailbox _ _ => mailbox

/-- The question that an operation puts to the server. -/
def query : Operation → Query
  | listFolders _ parent => .folders parent
  | listItems request => Client.pageQuery request
  | fetchItems _ ids _ => .items ids

/-- How the answer is read. -/
def read : (operation : Operation) → String → Except ServiceFault operation.Answer
  | listFolders _ _ => readFolders
  | listItems request => Client.readIds request
  | fetchItems _ _ _ => readItems

/-- What comes of an operation of a client over a transport. -/
def perform {σ : Type} (c : Client) (t : Http.Transport (StateM σ)) (s : σ) :
    (operation : Operation) → Except Failure operation.Answer
  | listFolders mailbox parent => ((c.service t).listFolders mailbox parent s).1.1
  | listItems request => ((c.service t).listItems request s).1.1
  | fetchItems mailbox ids _ => ((c.service t).fetchItems mailbox ids s).1.1

/-- Every operation is one question and one reading. -/
lemma perform_eq {σ : Type} (c : Client) (t : Http.Transport (StateM σ)) (s : σ)
    (operation : Operation) : ∃ notes, operation.perform c t s =
      ((c.ask t operation.mailbox operation.query operation.read notes s).1).1 := by
  cases operation with
  | listFolders mailbox parent => exact ⟨_, rfl⟩
  | listItems request => exact ⟨_, rfl⟩
  | fetchItems mailbox ids nonempty =>
    obtain ⟨id, others, rfl⟩ := List.exists_cons_of_ne_nil nonempty
    exact ⟨_, rfl⟩

/-- Every reading begins with a look for a fault. -/
lemma read_eq (operation : Operation) : ∃ payload : Element → Except ServiceFault operation.Answer,
    ∀ body, operation.read body = readChecked body >>= payload := by
  cases operation with
  | listFolders mailbox parent => exact ⟨_, fun _ => rfl⟩
  | listItems request =>
    obtain ⟨mailbox, folder, pageSize, cursor⟩ := request
    cases cursor with
    | token token => exact ⟨_, fun _ => rfl⟩
    | offset offset changedSince => exact ⟨_, fun _ => rfl⟩
  | fetchItems mailbox ids nonempty => exact ⟨_, fun _ => rfl⟩

end Operation

/-! ### Exchanges -/

/-- An operation of a client together with the reply to its question, which was read in full. -/
structure Exchange where
  State : Type
  client : Client
  transport : Http.Transport (StateM State)
  state : State
  operation : Operation
  status : ℕ
  body : String
  replied : ∃ reply,
    (transport.post (client.request operation.mailbox operation.query) state).1 = some reply ∧
      reply.status = status ∧ reply.text? = some body

namespace Exchange

/-- What comes of the operation. -/
def outcome (x : Exchange) : Except Failure x.operation.Answer :=
  x.operation.perform x.client x.transport x.state

/-- The status of the reply is a success. -/
def Succeeds (x : Exchange) : Prop := 200 ≤ x.status ∧ x.status ≤ 299

/-- The status of the reply refuses the credentials. -/
def Refused (x : Exchange) : Prop := x.status = 401 ∨ x.status = 403

/-- What comes of an operation, from the status and the body of the reply. -/
lemma outcome_eq (x : Exchange) :
    x.outcome = (verdict x.operation.query.operation x.status x.body >>=
      x.operation.read).mapError .ofFault := by
  obtain ⟨reply, hpost, hstatus, htext⟩ := x.replied
  obtain ⟨notes, hask⟩ := x.operation.perform_eq x.client x.transport x.state
  rw [outcome, hask, ask_of_text hpost htext, hstatus]

end Exchange

/-! ### Faults -/

/-- There is a SOAP fault below the root of a document. -/
def HasFault (document : Element) : Prop := ∃ d, Below d document ∧ d.name = "Fault"

/-- The code of a SOAP fault, from the details that the server gives or else from the envelope. -/
def faultCode (fault : Element) : String :=
  (((fault.descendant? "ResponseCode").bind Element.text?).or
    (fault.childText? "faultcode")).getD "SoapFault"

/-- An error is of the kind that its code asks for: a matter of credentials, or any other matter,
which keeps its code. -/
def Classified (code : String) (fault : ServiceFault) : Prop :=
  (code ∈ ServiceFault.authenticationCodes → ∃ message, fault = .authentication message) ∧
    (code ∉ ServiceFault.authenticationCodes → ∃ message, fault = .remote code message)

lemma classified_ofResponseCode (code message : String) :
    Classified code (.ofResponseCode code message) :=
  ⟨fun hcode => ⟨_, if_pos hcode⟩, fun hcode => ⟨_, if_neg hcode⟩⟩

/-- A fault is looked for everywhere below the root. -/
lemma descendant?_fault_eq_none {document : Element} :
    document.descendant? "Fault" = none ↔ ¬ HasFault document := by
  rw [Element.descendant?_eq_none_iff, HasFault, not_exists]
  exact forall_congr' fun d => not_and.symm

/-- A document with a fault means the error of the first one. -/
lemma soapFault?_of_hasFault {document : Element} (h : HasFault document) :
    ∃ element fault, document.descendant? "Fault" = some element ∧
      soapFault? document = some fault ∧ Classified (faultCode element) fault := by
  cases helement : document.descendant? "Fault" with
  | none => exact absurd h (descendant?_fault_eq_none.1 helement)
  | some element =>
    refine ⟨element, .ofResponseCode (faultCode element)
      ((element.childText? "faultstring").getD "SOAP fault without faultstring"), rfl, ?_,
      classified_ofResponseCode _ _⟩
    rw [soapFault?, helement]
    rfl

/-- A document without a fault means no error. -/
lemma soapFault?_eq_none {document : Element} (h : ¬ HasFault document) :
    soapFault? document = none := by
  rw [soapFault?, descendant?_fault_eq_none.2 h]
  rfl

/-! ### The main result -/

namespace Exchange

/-- A fault in the body is the error of the exchange, unless the status refuses the credentials. -/
lemma outcome_of_fault (x : Exchange) (hrefused : ¬ x.Refused) {document : Element}
    {fault : ServiceFault} (hdocument : Xml.parse x.body = .ok document)
    (hfault : soapFault? document = some fault) : x.outcome = .error (.ofFault fault) := by
  rw [outcome_eq]
  by_cases hsucceeds : x.Succeeds
  · obtain ⟨payload, hread⟩ := x.operation.read_eq
    have hchecked : readChecked x.body = .error fault := by
      simp only [readChecked, hdocument, hfault]
    rw [verdict_of_success hsucceeds]
    change (x.operation.read x.body).mapError _ = _
    rw [hread, hchecked]
    rfl
  · have hreported : (Xml.parse x.body).toOption.bind soapFault? = some fault := by
      rw [hdocument]
      exact hfault
    rw [verdict_of_failure hsucceeds hrefused, hreported]
    rfl

/-- Only a success without a fault is answered. -/
lemma outcome_eq_ok (x : Exchange) {answer : x.operation.Answer} (h : x.outcome = .ok answer) :
    x.Succeeds ∧ ∃ document, Xml.parse x.body = .ok document ∧ ¬ HasFault document := by
  rw [outcome_eq, mapError_eq_ok] at h
  obtain ⟨body, hverdict, hread⟩ := ok_of_bind h
  obtain ⟨hlow, hhigh, rfl⟩ := verdict_eq_ok hverdict
  obtain ⟨payload, hpayload⟩ := x.operation.read_eq
  rw [hpayload] at hread
  obtain ⟨document, hchecked, -⟩ := ok_of_bind hread
  obtain ⟨hdocument, hfaultless⟩ := readChecked_eq_ok.1 hchecked
  refine ⟨⟨hlow, hhigh⟩, document, hdocument, fun hhas => ?_⟩
  obtain ⟨-, fault, -, hsome, -⟩ := soapFault?_of_hasFault hhas
  rw [hfaultless] at hsome
  cases hsome

/-- A status that is neither a success nor a refusal is the error, if the body reports none. -/
lemma outcome_of_status (x : Exchange) (hsucceeds : ¬ x.Succeeds) (hrefused : ¬ x.Refused)
    (hfaultless : ∀ document, Xml.parse x.body = .ok document → ¬ HasFault document) :
    x.outcome = .error (.ofFault (.transport (some x.status) (excerpt x.body))) := by
  have hreported : (Xml.parse x.body).toOption.bind soapFault? = none := by
    cases hdocument : Xml.parse x.body with
    | error fault => rfl
    | ok document => exact soapFault?_eq_none (hfaultless document hdocument)
  rw [outcome_eq, verdict_of_failure hsucceeds hrefused, hreported]
  rfl

end Exchange

/-- What replies are taken for, whatever the operation.  An operation is answered only if the status
is a success and the body is a document without a fault.  A status that refuses the credentials is
an error of credentials.  Otherwise a fault in the body is the error, of the kind that its code asks
for, and the same in every exchange with this body.  Without a fault a status that is no success is
an error of the transport, which keeps the status. -/
theorem outcome_classified (x : Exchange) :
    (∀ answer, x.outcome = .ok answer →
      x.Succeeds ∧ ∃ document, Xml.parse x.body = .ok document ∧ ¬ HasFault document) ∧
    (x.Refused → ∃ message, x.outcome = .error (.ofFault (.authentication message))) ∧
    (∀ document, Xml.parse x.body = .ok document → HasFault document →
      ∃ element fault, document.descendant? "Fault" = some element ∧
        soapFault? document = some fault ∧ Classified (faultCode element) fault ∧
        ∀ y : Exchange, y.body = x.body → ¬ y.Refused → y.outcome = .error (.ofFault fault)) ∧
    (¬ x.Succeeds → ¬ x.Refused →
      (∀ document, Xml.parse x.body = .ok document → ¬ HasFault document) →
      x.outcome = .error (.ofFault (.transport (some x.status) (excerpt x.body)))) := by
  refine ⟨fun answer => x.outcome_eq_ok, fun hrefused => ?_, fun document hdocument hhas => ?_,
    x.outcome_of_status⟩
  · rw [x.outcome_eq, verdict_of_refusal hrefused]
    exact ⟨_, rfl⟩
  · obtain ⟨element, fault, helement, hfault, hclassified⟩ := soapFault?_of_hasFault hhas
    refine ⟨element, fault, helement, hfault, hclassified, fun y hbody hrefused => ?_⟩
    exact y.outcome_of_fault hrefused (hbody ▸ hdocument) hfault

/-- The fault of a server that does not let the client act for the owner of a mailbox. -/
def faultAnswer : String :=
  "<r><Fault><ResponseCode>ErrorImpersonateUserDenied</ResponseCode></Fault></r>"

/-- A transport on which every reply has this body and the status of a broken server. -/
def failing (body : String) : Http.Transport (StateM Unit) where
  send _ := pure (some { sampleReply body with status := 500 })

/-- The fault is the reply to a question for an item. -/
def faultyExchange : Exchange where
  State := Unit
  client := sampleClient
  transport := failing faultAnswer
  state := ()
  operation := .fetchItems "m" [⟨"i"⟩] (by simp)
  status := 500
  body := faultAnswer
  replied := by
    have hsendable : (sampleClient.request "m" (.items [⟨"i"⟩])).isSendable = true := by
      decide +kernel
    refine ⟨{ sampleReply faultAnswer with status := 500 }, ?_, rfl, by decide +kernel⟩
    change ((failing faultAnswer).post (sampleClient.request "m" (.items [⟨"i"⟩])) ()).1 = _
    rw [Http.Transport.post, if_pos hsendable]
    rfl

/-- The fault is an error of credentials, although the status is that of a broken server. -/
theorem faulty_exchange_is_classified :
    ∃ message, faultyExchange.outcome = .error (.ofFault (.authentication message)) := by
  have hfaulty : (Xml.parse faultAnswer).toOption.map (fun document =>
      (document.descendant? "Fault").map faultCode) =
        some (some "ErrorImpersonateUserDenied") := by
    have hchars : faultAnswer.toList = _ := String.toList_ofList
    rw [parse_eq_parseChars, hchars]
    decide
  cases hdocument : Xml.parse faultAnswer with
  | error fault =>
    rw [hdocument] at hfaulty
    cases hfaulty
  | ok document =>
    rw [hdocument] at hfaulty
    obtain ⟨element, helement, hcode⟩ := Option.map_eq_some_iff.1 (Option.some.inj hfaulty)
    have hhas : HasFault document := by
      by_contra hnone
      rw [descendant?_fault_eq_none.2 hnone] at helement
      cases helement
    obtain ⟨element', fault, helement', -, hclassified, hsame⟩ :=
      (outcome_classified faultyExchange).2.2.1 document hdocument hhas
    obtain rfl : element = element' := Option.some.inj (helement.symm.trans helement')
    obtain ⟨message, rfl⟩ := hclassified.1 (hcode ▸ by decide)
    refine ⟨message, hsame faultyExchange rfl ?_⟩
    change ¬ (500 = 401 ∨ 500 = 403)
    decide

end MailCollector.Ews
