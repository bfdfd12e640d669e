import MailCollector.Proofs.Ews.ItemAnswers

/-!
# What a crawl over a client sees of the replies

A client makes of a body what the reader of its operation makes of it.  So a crawl over a client
depends on the bodies of the replies only through what they are read as (`Reading`): if the replies
are successes, or do not come at all, the trace of the crawl is the one in a world that hands out
readings in place of bodies (`Client.trace_eq_hearing`).  In that world there is nothing to parse,
and what a crawl does can be computed there once the bodies are read.

One world may stand for another as soon as its answers depend on no more than a view of the state
(`World.SeenAs`).
-/

namespace MailCollector.Crawl

variable {α σ τ : Type}

/-- A world answers like another one that keeps only this view of its state. -/
def World.SeenAs (view : σ → τ) (world : World σ) (seen : World τ) : Prop :=
  ∀ c s, seen.answer c (view s) = ((world.answer c s).1, view (world.answer c s).2)

/-- A program cannot tell the two worlds apart. -/
lemma World.SeenAs.trace_eq {view : σ → τ} {world : World σ} {seen : World τ}
    (h : world.SeenAs view seen) (p : Program α) (s : σ) :
    p.trace world s = p.trace seen (view s) := by
  induction p generalizing s with
  | done a => rfl
  | crash reason => rfl
  | call c resume ih => rw [Program.trace_call, Program.trace_call, h, ih]

end MailCollector.Crawl

namespace MailCollector.Ews

open MailCollector.Crawl MailCollector.Log MailCollector.Mail MailCollector.Text

variable {α σ τ : Type}

/-! ### Readings -/

/-- What the operations of a client make of one body. -/
structure Reading where
  folders : Except ServiceFault (List FolderId)
  changes : Except ServiceFault IdPage
  page : Except ServiceFault IdPage
  items : Except ServiceFault (List Item)

/-- What is read from a body. -/
def reading (body : String) : Reading where
  folders := readFolders body
  changes := readChanges body
  page := readPage body
  items := readItems body

/-- What an operation answers that takes a part of what was heard, if anything was. -/
def Reading.answer (operation : String) (part : Reading → Except ServiceFault α) :
    Option Reading × τ → Except Failure α × τ
  | (none, s) => (.error (.ofFault (.transport none (operation ++ " request failed"))), s)
  | (some r, s) => ((part r).mapError .ofFault, s)

/-- The part of a reading that answers a request for a page of ids. -/
def Reading.ids (r : PageRequest) : Reading → Except ServiceFault IdPage :=
  match r.cursor with
  | .token _ => Reading.changes
  | .offset .. => Reading.page

/-- A world in which a mail service hears readings, whichever mailbox it asks about. -/
def hearingWorld (hear : String → StateM τ (Option Reading)) (others : World τ) : World τ where
  answer
    | .listFolders mailbox parent, s =>
      Reading.answer (Query.folders parent).operation Reading.folders (hear mailbox s)
    | .listItems request, s =>
      Reading.answer (Client.pageQuery request).operation (Reading.ids request)
        (hear request.mailbox s)
    | .fetchItems _ [], s => (.ok [], s)
    | .fetchItems mailbox (id :: ids), s =>
      Reading.answer (Query.items (id :: ids)).operation Reading.items (hear mailbox s)
    | c, s => others.answer c s

/-! ### From replies to readings -/

/-- A request is lost and nothing is heard, or its reply is a success and the reading of its body is
heard.  Of the state of the transport there is a view. -/
inductive HeardAs (view : σ → τ) : Option Http.Reply × σ → Option Reading × τ → Prop
  | lost (s : σ) : HeardAs view (none, s) (none, view s)
  | read {reply : Http.Reply} {body : String} (hstatus : 200 ≤ reply.status ∧ reply.status ≤ 299)
      (htext : reply.text? = some body) (s : σ) :
      HeardAs view (some reply, s) (some (reading body), view s)

/-- What is heard in place of the replies to the requests of a client. -/
def Client.Hearing (c : Client) (t : Http.Transport (StateM σ)) (view : σ → τ)
    (hear : String → StateM τ (Option Reading)) : Prop :=
  ∀ mailbox q s, HeardAs view (t.post (c.request mailbox q) s) (hear mailbox (view s))

section Hearing

variable {c : Client} {t : Http.Transport (StateM σ)} {view : σ → τ}
  {hear : String → StateM τ (Option Reading)}

/-- The answer to a question depends on what is heard. -/
lemma answer_heard (h : c.Hearing t view hear) {read : String → Except ServiceFault α}
    {part : Reading → Except ServiceFault α} (hpart : ∀ body, part (reading body) = read body)
    (mailbox : String) (q : Query) (notes : String → List Note) (s : σ) :
    Reading.answer q.operation part (hear mailbox (view s)) =
      ((c.ask t mailbox q read notes s).1.1, view (c.ask t mailbox q read notes s).2) := by
  unfold Client.ask
  simp only [bind, StateT.bind]
  have hheard := h mailbox q s
  generalize t.post (c.request mailbox q) s = posted at hheard ⊢
  generalize hear mailbox (view s) = heard at hheard ⊢
  cases hheard with
  | lost s' => rfl
  | @read reply body hstatus htext s' =>
    simp only [Client.received, htext, verdict_of_success hstatus, Reading.answer, hpart]
    rfl

/-- A client over a transport is, to a crawl, a service that hears readings. -/
theorem Client.world_seenAs (h : c.Hearing t view hear) {others : World σ} {others' : World τ}
    (hothers : others.SeenAs view others') :
    (c.world t others).SeenAs view (hearingWorld hear others') := by
  intro call s
  cases call with
  | listFolders mailbox parent =>
    have hpart : ∀ body, (reading body).folders = readFolders body := fun _ => rfl
    simp only [hearingWorld, Client.world, Client.service]
    exact answer_heard h hpart mailbox (.folders parent) _ s
  | listItems request =>
    have hpart : ∀ body, Reading.ids request (reading body) = Client.readIds request body := by
      intro body
      unfold Reading.ids Client.readIds
      cases request.cursor <;> rfl
    simp only [hearingWorld, Client.world, Client.service]
    exact answer_heard h hpart request.mailbox (Client.pageQuery request) _ s
  | fetchItems mailbox ids =>
    cases ids with
    | nil => rfl
    | cons id ids =>
      have hpart : ∀ body, (reading body).items = readItems body := fun _ => rfl
      simp only [hearingWorld, Client.world, Client.service]
      exact answer_heard h hpart mailbox (.items (id :: ids)) _ s
  | _ => exact hothers _ s

/-- A crawl over a client depends on the bodies of the replies only through what they are read as.
-/
theorem Client.trace_eq_hearing (h : c.Hearing t view hear) {others : World σ} {others' : World τ}
    (hothers : others.SeenAs view others') (p : Program α) (s : σ) :
    p.trace (c.world t others) s = p.trace (hearingWorld hear others') (view s) :=
  (c.world_seenAs h hothers).trace_eq p s

/-- Requests that cannot be sent are lost. -/
def heardIfSent (heard : StateM τ (Option Reading)) (mailbox : String) :
    StateM τ (Option Reading) :=
  if Http.isHeader ("X-AnchorMailbox", mailbox) then heard else pure none

/-- What is heard over a transport that does not look at requests. -/
lemma Client.hearing_of_send (himpersonates : c.impersonates = true)
    (hcredentials : Http.isHeader (Http.authorization, c.credentials.headerValue) = true)
    {heard : StateM τ (Option Reading)}
    (hsend : ∀ request s, HeardAs view (t.send request s) (heard (view s))) :
    c.Hearing t view (heardIfSent heard) := by
  intro mailbox q s
  have hsendable : (c.request mailbox q).isSendable = Http.isHeader ("X-AnchorMailbox", mailbox) := by
    rw [c.isSendable_request, hcredentials, himpersonates]
    rfl
  unfold Http.Transport.post heardIfSent
  rw [hsendable]
  split
  · exact hsend _ s
  · exact .lost s

end Hearing

/-! ### Answers in turn -/

/-- Readings that come one after the other. -/
def nextReading : StateM (List Reading) (Option Reading) := fun readings =>
  (readings.head?, readings.tail)

lemma sameWorld_seenAs (world : World Unit) (view : σ → τ) :
    (sameWorld world).SeenAs view (sameWorld world) :=
  fun _ _ => rfl

/-- A crawl over the sample client for which answers come in turn. -/
theorem trace_inTurn (others : World Unit) (p : Program α) (bodies : List String) :
    p.trace (sampleClient.world inTurn (sameWorld others)) bodies =
      p.trace (hearingWorld (heardIfSent nextReading) (sameWorld others)) (bodies.map reading) := by
  refine Client.trace_eq_hearing ?_ (sameWorld_seenAs others _) p bodies
  refine Client.hearing_of_send rfl (by decide) fun request bodies => ?_
  cases bodies with
  | nil => exact .lost []
  | cons body bodies =>
    have hstatus : 200 ≤ 200 ∧ 200 ≤ 299 := by decide
    exact .read hstatus (text?_sampleReply body) bodies

end MailCollector.Ews
