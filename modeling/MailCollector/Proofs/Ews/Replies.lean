import MailCollector.Ews.Client
import MailCollector.Proofs.Xml.Tokens
import Mathlib.Tactic.Common

/-!
# Reading replies

Whether a request can be sent depends on the credentials and on the mailbox, never on the question
(`Client.isSendable_request`).  What a client reads it reads in steps, each of which may find a
fault.  It reads the body of a reply if the status of the reply is a success, and nothing else counts
as an answer (`reply_of_ask`, `ask_of_reply`).
-/

namespace MailCollector.Ews

open MailCollector.Crawl MailCollector.Log MailCollector.Mail MailCollector.Text MailCollector.Xml

variable {α β δ ε σ : Type}

/-! ### Texts in parts -/

/-- The characters of a text that is put together from two parts. -/
lemma toList_append_of {s t : String} {cs ds : List Char} (hs : s.toList = cs)
    (ht : t.toList = ds) : (s ++ t).toList = cs ++ ds := by
  rw [String.toList_append, hs, ht]

/-! ### Requests -/

lemma isHeader_append {name s t : String} :
    Http.isHeader (name, s ++ t) = (Http.isHeader (name, s) && Http.isHeader (name, t)) := by
  simp only [Http.isHeader, String.toList_append, List.all_append]

/-- Every operation can be named in a header. -/
lemma isHeader_action (q : Query) :
    Http.isHeader ("SOAPAction", "\"" ++ messagesNamespace ++ "/" ++ q.operation ++ "\"") = true := by
  have hnamespace : Http.isHeader ("SOAPAction", messagesNamespace) = true := by
    rw [Http.isHeader, messagesNamespace, String.toList_ofList]
    decide
  have hoperation : Http.isHeader ("SOAPAction", q.operation) = true := by
    have hall : ∀ name ∈ ["FindFolder", "SyncFolderItems", "FindItem", "GetItem"],
        Http.isHeader ("SOAPAction", name) = true := by decide
    exact hall _ (by cases q <;> simp [Query.operation])
  simp only [isHeader_append, hnamespace, hoperation]
  decide

/-- Whether a request can be sent does not depend on the question. -/
lemma Client.isSendable_request (c : Client) (mailbox : String) (q : Query) :
    (c.request mailbox q).isSendable =
      (Http.isHeader (Http.authorization, c.credentials.headerValue) &&
        (!c.impersonates || Http.isHeader ("X-AnchorMailbox", mailbox))) := by
  have hcontent : Http.isHeader ("Content-Type", "text/xml; charset=utf-8") = true := by
    rw [Http.isHeader, String.toList_ofList]
    decide
  unfold Client.request Http.Request.isSendable
  cases c.impersonates <;> simp [hcontent, isHeader_action]

/-! ### Steps of reading -/

/-- What is read after something else is read only if that was read. -/
lemma ok_of_bind {x : Except ε α} {f : α → Except ε β} {b : β} (h : x >>= f = .ok b) :
    ∃ a, x = .ok a ∧ f a = .ok b := by
  cases x with
  | error e => cases h
  | ok a => exact ⟨a, rfl, h⟩

/-- Naming a fault differently does not change what was read. -/
lemma mapError_eq_ok {x : Except ε α} {f : ε → δ} {a : α} : x.mapError f = .ok a ↔ x = .ok a := by
  cases x <;> simp [Except.mapError]

/-- What is made of something else is made of what was read. -/
lemma map_eq_ok {x : Except ε α} {f : α → β} {b : β} :
    x.map f = .ok b ↔ ∃ a, x = .ok a ∧ f a = b := by
  cases x <;> simp [Except.map]

/-- A part that has to be there is read if it is there. -/
lemma required_eq_ok {gap : String} {part : Option α} {a : α} :
    required gap part = .ok a ↔ part = some a := by
  cases part <;> simp [required]

/-- What is checked is a document that is no fault. -/
lemma readChecked_eq_ok {body : String} {document : Element} :
    readChecked body = .ok document ↔
      Xml.parse body = .ok document ∧ soapFault? document = none := by
  unfold readChecked
  cases Xml.parse body with
  | error fault => simp
  | ok parsed =>
    cases hfault : soapFault? parsed with
    | some fault =>
      simp only [hfault, Except.ok.injEq]
      refine iff_of_false nofun ?_
      rintro ⟨rfl, hnone⟩
      cases hfault.symm.trans hnone
    | none =>
      simp only [hfault, Except.ok.injEq]
      refine ⟨?_, And.left⟩
      rintro rfl
      exact ⟨rfl, hfault⟩

/-! ### Replies -/

/-- A reply is taken for an answer if its status is a success. -/
lemma verdict_eq_ok {operation : String} {status : ℕ} {body body' : String}
    (h : verdict operation status body = .ok body') :
    200 ≤ status ∧ status ≤ 299 ∧ body' = body := by
  unfold verdict at h
  split at h
  · rename_i hstatus
    cases h
    exact ⟨hstatus.1, hstatus.2, rfl⟩
  · split at h
    · cases h
    · split at h <;> cases h

section Verdict

variable {operation body : String} {status : ℕ}

/-- A success lets the body be read. -/
lemma verdict_of_success (h : 200 ≤ status ∧ status ≤ 299) :
    verdict operation status body = .ok body :=
  if_pos h

/-- A status that refuses the credentials decides alone. -/
lemma verdict_of_refusal (h : status = 401 ∨ status = 403) :
    verdict operation status body =
      .error (.authentication (operation ++ " rejected with HTTP " ++ natText status)) := by
  rw [verdict, if_neg (by omega), if_pos h]

/-- Under every other status the body may report the error. -/
lemma verdict_of_failure (hsucceeds : ¬ (200 ≤ status ∧ status ≤ 299))
    (hrefused : ¬ (status = 401 ∨ status = 403)) :
    verdict operation status body =
      .error (((Xml.parse body).toOption.bind soapFault?).getD
        (.transport (some status) (excerpt body))) := by
  rw [verdict, if_neg hsucceeds, if_neg hrefused]
  cases (Xml.parse body).toOption.bind soapFault? <;> rfl

end Verdict

/-- The document that a client makes of the reply to a question: the reply came through, its status
is a success, and it is no fault. -/
def Client.Hears (c : Client) (t : Http.Transport (StateM σ)) (mailbox : String) (q : Query) (s : σ)
    (document : Element) : Prop :=
  ∃ reply body, (t.post (c.request mailbox q) s).1 = some reply ∧
    200 ≤ reply.status ∧ reply.status ≤ 299 ∧ reply.text? = some body ∧
    readChecked body = .ok document

section Ask

variable {c : Client} {t : Http.Transport (StateM σ)} {mailbox : String} {q : Query}
  {read : String → Except ServiceFault α} {notes : String → List Log.Note} {s : σ}

/-- A client reads the body of the reply, if its status is a success. -/
lemma ask_of_reply {reply : Http.Reply} {body : String}
    (hpost : (t.post (c.request mailbox q) s).1 = some reply) (hlow : 200 ≤ reply.status)
    (hhigh : reply.status ≤ 299) (htext : reply.text? = some body) :
    ((c.ask t mailbox q read notes s).1).1 = (read body).mapError .ofFault := by
  unfold Client.ask
  simp only [bind, StateT.bind]
  generalize t.post (c.request mailbox q) s = posted at hpost ⊢
  obtain ⟨_, s'⟩ := posted
  obtain rfl : _ = some reply := hpost
  have hverdict : verdict q.operation reply.status body = .ok body := if_pos ⟨hlow, hhigh⟩
  simp only [Client.received, htext, hverdict]
  rfl

/-- What a client makes of a reply that came through: its status and its body have a verdict, and
the body is read if the verdict lets it. -/
lemma ask_of_text {reply : Http.Reply} {body : String}
    (hpost : (t.post (c.request mailbox q) s).1 = some reply) (htext : reply.text? = some body) :
    ((c.ask t mailbox q read notes s).1).1 =
      (verdict q.operation reply.status body >>= read).mapError .ofFault := by
  unfold Client.ask
  simp only [bind, StateT.bind]
  generalize t.post (c.request mailbox q) s = posted at hpost ⊢
  obtain ⟨_, s'⟩ := posted
  obtain rfl : _ = some reply := hpost
  simp only [Client.received, htext]
  cases verdict q.operation reply.status body <;> rfl

/-- What a client has read it has read from the body of a reply whose status is a success. -/
lemma reply_of_ask {a : α} (h : ((c.ask t mailbox q read notes s).1).1 = .ok a) :
    ∃ reply body, (t.post (c.request mailbox q) s).1 = some reply ∧ 200 ≤ reply.status ∧
      reply.status ≤ 299 ∧ reply.text? = some body ∧ read body = .ok a := by
  unfold Client.ask at h
  simp only [bind, StateT.bind] at h
  generalize t.post (c.request mailbox q) s = posted at h ⊢
  obtain ⟨_ | reply, s'⟩ := posted
  · cases h
  dsimp only at h
  cases htext : reply.text? with
  | none =>
    simp only [Client.received, htext] at h
    cases h
  | some body =>
    simp only [Client.received, htext] at h
    cases hverdict : verdict q.operation reply.status body with
    | error fault =>
      rw [hverdict] at h
      cases h
    | ok body' =>
      rw [hverdict] at h
      obtain ⟨hlow, hhigh, rfl⟩ := verdict_eq_ok hverdict
      exact ⟨reply, body', rfl, hlow, hhigh, htext, mapError_eq_ok.1 h⟩

end Ask

end MailCollector.Ews
