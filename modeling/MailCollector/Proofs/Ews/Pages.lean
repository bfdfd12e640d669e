import MailCollector.Proofs.Crawl.Cursors
import MailCollector.Proofs.Ews.Changes
import MailCollector.Proofs.Ews.Readings
import MailCollector.Proofs.Text.Trimming

/-!
# What the pages of a client promise

Whatever a server answers, a page that a client reads has what paging relies on.  A page of changes
has a token, and all changes count as its entries (`IsChangesPage`); a page of a listing has no
token, and its entries are its ids (`IsListedPage`).  An answer whose response message is an error
is no page (`refused_of_error`).

A crawl sees pages only through the replies to its calls, so all that it knows of a client is that
it answers in kind (`Client.world_answersInKind`).  That is enough for the listings of a crawl over
a client to go on from one another, and for a crawl by instants to store no token
(`pages_keep_promises`).
-/

namespace MailCollector.Ews

open MailCollector.Calendar MailCollector.Crawl MailCollector.Log MailCollector.Mail
  MailCollector.Text MailCollector.Xml

variable {α β ε σ : Type}

/-! ### Parts of an answer -/

lemma childText?_eq_some {e : Element} {name text : String} (h : e.childText? name = some text) :
    text ≠ "" ∧ trimmed text = text := by
  obtain ⟨child, -, htext⟩ := Option.bind_eq_some_iff.1 h
  exact trimmed?_eq_some htext

/-- The response message of an answer is the first one of its name, and it is no error. -/
lemma soleMessage_eq_ok {document message : Element} {name : String}
    (h : soleMessage document name = .ok message) :
    document.descendant? name = some message ∧
      message.attribute? "ResponseClass" ≠ some "Error" := by
  obtain ⟨first, hfirst, h⟩ := ok_of_bind h
  cases herror : messageError? first with
  | some fault =>
    rw [herror] at h
    cases h
  | none =>
    rw [herror] at h
    cases h
    refine ⟨required_eq_ok.1 hfirst, fun hclass => ?_⟩
    rw [messageError?, if_pos hclass] at herror
    cases herror

/-- What is read of several things is read of each of them. -/
lemma forall₂_of_mapM {f : α → Except ε β} {as : List α} {bs : List β} (h : as.mapM f = .ok bs) :
    List.Forall₂ (fun a b => f a = .ok b) as bs := by
  induction as generalizing bs with
  | nil =>
    cases h
    exact .nil
  | cons a as ih =>
    rw [List.mapM_cons] at h
    obtain ⟨b, hb, h⟩ := ok_of_bind h
    obtain ⟨bs', hbs, h⟩ := ok_of_bind h
    cases h
    exact .cons hb (ih hbs)

/-! ### Pages -/

/-- A page with this token, on which all changes of a response message count as entries. -/
structure IsChangesPage (message : Element) (state : String) (page : IdPage) : Prop where
  token : page.token = some state
  nonempty : state ≠ ""
  isTrimmed : trimmed state = state
  nextOffset : page.nextOffset = none
  returned : page.entriesReturned = (changesIn message).length
  entries : page.entries = page.entriesReturned
  ids_le : page.ids.length ≤ page.entries

/-- A page that is read from an answer about changes has the new state as its token. -/
lemma isChangesPage_of_readChanges {body : String} {page : IdPage}
    (h : readChanges body = .ok page) :
    ∃ message state, Tells body message state ∧ IsChangesPage message state page := by
  obtain ⟨message, state, htells⟩ := tells_of_readChanges h
  obtain ⟨-, hnames⟩ := page_of_tells htells h
  have hstate : message.childText? "SyncState" = some state := by
    obtain ⟨document, -, -, hstate⟩ := htells
    exact hstate
  obtain ⟨hnonempty, htrimmed⟩ := childText?_eq_some hstate
  -- There are no more ids than creations and updates, and no more of these than changes.
  have hids : page.ids.length ≤ (changesIn message).length :=
    calc page.ids.length = ((brought message).filter refersToItem).length := hnames.length_eq.symm
      _ ≤ (brought message).length := List.length_filter_le _ _
      _ ≤ (changesIn message).length := List.length_filter_le _ _
  rw [readChanges_of_tells htells] at h
  obtain ⟨ids, -, rfl⟩ := map_eq_ok.1 h
  have hentries := Nat.max_eq_left hids
  exact ⟨message, state, htells,
    { token := rfl
      nonempty := hnonempty
      isTrimmed := htrimmed
      nextOffset := rfl
      returned := rfl
      entries := hentries
      ids_le := hids.trans_eq hentries.symm }⟩

/-- The answer is no error, and it has this response message about a listing, with this root. -/
def Shows (body : String) (message root : Element) : Prop :=
  ∃ document, readChecked body = .ok document ∧
    soleMessage document "FindItemResponseMessage" = .ok message ∧
    message.child? "RootFolder" = some root

/-- The items in a listing. -/
def itemsIn (root : Element) : List Element := ((root.child? "Items").map Element.children).getD []

/-- An item of a listing gives its id. -/
def Identifies (item : Element) (id : ItemId) : Prop :=
  ∃ reference, item.child? "ItemId" = some reference ∧ reference.attribute? "Id" = some id.text

lemma identifies_of_listedId {item : Element} {id : ItemId} (h : listedId item = .ok id) :
    Identifies item id := by
  obtain ⟨text, htext, rfl⟩ := Option.map_eq_some_iff.1 (required_eq_ok.1 h)
  exact Option.bind_eq_some_iff.1 htext

/-- A page without a token, on which each item of a listing has its id, in order. -/
structure IsListedPage (root : Element) (page : IdPage) : Prop where
  token : page.token = none
  ids : List.Forall₂ Identifies (itemsIn root) page.ids
  returned : page.entriesReturned = (itemsIn root).length
  entries : page.entries = page.entriesReturned
  length_ids : page.ids.length = page.entries

/-- A page that is read from an answer about a listing has an id for each item. -/
lemma isListedPage_of_readPage {body : String} {page : IdPage} (h : readPage body = .ok page) :
    ∃ message root, Shows body message root ∧ IsListedPage root page := by
  obtain ⟨document, hdocument, h⟩ := ok_of_bind h
  obtain ⟨message, hmessage, h⟩ := ok_of_bind h
  obtain ⟨root, hroot, h⟩ := ok_of_bind h
  obtain ⟨offset, -, h⟩ := ok_of_bind h
  obtain ⟨ids, hids, h⟩ := ok_of_bind h
  cases h
  have hlisted : List.Forall₂ (fun item id => listedId item = .ok id) (itemsIn root) ids :=
    forall₂_of_mapM hids
  exact ⟨message, root, ⟨document, hdocument, hmessage, required_eq_ok.1 hroot⟩,
    { token := rfl
      ids := hlisted.imp fun _ _ => identifies_of_listedId
      returned := hlisted.length_eq.symm
      entries := Nat.max_self _
      length_ids := (Nat.max_self _).symm }⟩

/-- An answer whose first response message is an error is not read as a page. -/
lemma refused_of_error {body name : String} {document message : Element} {γ : Type}
    {payload : Element → Element → Except ServiceFault γ}
    (hparse : Xml.parse body = .ok document) (hmessage : document.descendant? name = some message)
    (herror : message.attribute? "ResponseClass" = some "Error") (page : γ) :
    (readChecked body >>= fun document => soleMessage document name >>= payload document) ≠
      .ok page := by
  intro h
  obtain ⟨document', hdocument, h⟩ := ok_of_bind h
  obtain ⟨message', hmessage', -⟩ := ok_of_bind h
  cases hparse.symm.trans (readChecked_eq_ok.1 hdocument).1
  obtain ⟨hfirst, hclass⟩ := soleMessage_eq_ok hmessage'
  cases hmessage.symm.trans hfirst
  exact hclass herror

/-! ### Crawls over a client -/

/-- A client answers in kind: by the question that a request comes down to, a page has a token or
has none. -/
lemma Client.world_answersInKind (c : Client) (t : Http.Transport (StateM σ)) (others : World σ)
    (call : Call) (s : σ) : AnswersInKind ⟨call, ((c.world t others).answer call s).1⟩ := by
  cases call with
  | listItems request =>
    simp only [Client.world]
    cases hreply : (((c.service t).listItems request s).1).1 with
    | error failure => trivial
    | ok page =>
      obtain ⟨_, body, -, -, -, -, hread⟩ := reply_of_ask hreply
      obtain ⟨mailbox, folder, size, cursor⟩ := request
      cases cursor with
      | token token =>
        obtain ⟨_, state, -, hpage⟩ := isChangesPage_of_readChanges hread
        exact ⟨state, hpage.token, hpage.nonempty⟩
      | offset offset changedSince =>
        obtain ⟨_, _, -, hpage⟩ := isListedPage_of_readPage hread
        exact hpage.token
  | _ => trivial

/-- Whatever a server answers, a page that is read of it has what paging relies on: a page of
changes has a token and counts all changes, a page of a listing has no token and an id for each
item, and an answer whose response message is an error is no page.  So, whatever a client is
answered, the listings of a crawl by tokens go on from one another, each from the token of the page
just before it, and a crawl by instants stores no token. -/
theorem pages_keep_promises (c : Client) (t : Http.Transport (StateM σ)) (others : World σ)
    (config : Config) (s : σ) :
    (∀ body page, readChanges body = .ok page →
      ∃ message state, Tells body message state ∧ IsChangesPage message state page) ∧
    (∀ body page, readPage body = .ok page →
      ∃ message root, Shows body message root ∧ IsListedPage root page) ∧
    (∀ body document message, Xml.parse body = .ok document →
      message.attribute? "ResponseClass" = some "Error" →
      (document.descendant? "SyncFolderItemsResponseMessage" = some message →
        ∀ page, readChanges body ≠ .ok page) ∧
      (document.descendant? "FindItemResponseMessage" = some message →
        ∀ page, readPage body ≠ .ok page)) ∧
    (config.mode = .syncToken → ∀ handle changedSince turns,
      ListingsGoOn ((exhaust (FolderCrawl.turn config) turns
        (FolderCrawl.start handle changedSince)).run.trace (c.world t others) s)) ∧
    (config.mode = .lastSynced → ∀ fuel names,
      StoresNoToken ((collect config fuel names).trace (c.world t others) s)) := by
  have hworld := c.world_answersInKind t others
  refine ⟨fun _ _ => isChangesPage_of_readChanges, fun _ _ => isListedPage_of_readPage, ?_, ?_, ?_⟩
  · intro body document message hparse herror
    exact ⟨fun hfirst => refused_of_error hparse hfirst herror,
      fun hfirst => refused_of_error hparse hfirst herror⟩
  · intro hmode handle changedSince turns
    exact exhaust_listingsGoOn hworld hmode handle changedSince turns s
  · intro hmode fuel names
    exact collect_storesNoToken hworld hmode fuel names s

/-- A transport by which every request gets the same answer. -/
def echoing (body : String) : Http.Transport (StateM Unit) where
  send _ := pure (some { status := 200, body := body.toUTF8.data.toList })

/-- A crawl over a client that gets the same answer all the time. -/
lemma trace_echoing {c : Client} (himpersonates : c.impersonates = true)
    (hcredentials : Http.isHeader (Http.authorization, c.credentials.headerValue) = true)
    (others : World Unit) (p : Program α) (body : String) :
    p.trace (c.world (echoing body) others) () =
      p.trace (hearingWorld (heardIfSent (pure (some (reading body)))) others) () := by
  have hreply : ∀ request s, (echoing body).send request s = (some (sampleReply body), s) := by
    intro request s
    rw [sampleReply, Utf8.encode_toList]
    rfl
  have hsend : ∀ request s, HeardAs id ((echoing body).send request s)
      (pure (f := StateM Unit) (some (reading body)) s) := by
    intro request s
    have hstatus : 200 ≤ 200 ∧ 200 ≤ 299 := by decide
    rw [hreply]
    exact .read hstatus (text?_sampleReply body) s
  exact Client.trace_eq_hearing (Client.hearing_of_send himpersonates hcredentials hsend)
    (fun _ _ => rfl) p ()

/-- An answer about one change, a deletion. -/
def deletionAnswer : String :=
  "<r><SyncFolderItemsResponseMessage><SyncState>s</SyncState><Changes><Delete/></Changes>" ++
    "</SyncFolderItemsResponseMessage></r>"

/-- An answer about changes that is an error. -/
def errorAnswer : String := "<r><SyncFolderItemsResponseMessage ResponseClass=\"Error\"/></r>"

/-- An answer about a folder and, at once, about the items in it, of which there are none. -/
def folderAnswer : String :=
  "<r><FindFolderResponseMessage><Folders><Folder><FolderId Id=\"f\"/></Folder></Folders>" ++
    "</FindFolderResponseMessage><FindItemResponseMessage><RootFolder/>" ++
    "</FindItemResponseMessage></r>"

/-- A page with a deletion only is full, so the next page is asked for by its token; an error is no
page.  A crawl by instants lists an empty page and stores no token. -/
theorem pages_keep_promises_sample :
    let client : Client := { endpoint := "https://e", credentials := .bearer "t" }
    let config := Config.ofRequested 1 1
    let byToken := (exhaust (FolderCrawl.turn config) 2
      (FolderCrawl.start { mailbox := "m" } none)).run.trace
        (client.world (echoing deletionAnswer) Roster.sampleWorld) ()
    let byInstant := (collect (config.withMode .lastSynced) 9 ["m"]).trace
      (client.world (echoing folderAnswer) Roster.sampleWorld) ()
    ((byToken.filterMap listing?).map (·.request.cursor) = [.token none, .token (some "s")] ∧
      ListingsGoOn byToken) ∧
    ((byInstant.filterMap listed?).map (·.ids) = [[]] ∧ StoresNoToken byInstant) ∧
    (∃ page message, readChanges deletionAnswer = .ok page ∧ IsChangesPage message "s" page) ∧
    (∃ page root, readPage folderAnswer = .ok page ∧ IsListedPage root page) ∧
    ∀ page, readChanges errorAnswer ≠ .ok page := by
  intro client config byToken byInstant
  have hchanges : readChanges deletionAnswer =
      .ok { token := some "s", entriesReturned := 1 } := by
    have hchars : deletionAnswer.toList = _ :=
      toList_append_of String.toList_ofList String.toList_ofList
    rw [readChanges, readChecked, parse_eq_parseChars, hchars]
    set_option maxRecDepth 2000 in
    decide
  have hfolderChars : folderAnswer.toList = _ :=
    toList_append_of (toList_append_of String.toList_ofList String.toList_ofList)
      String.toList_ofList
  have hfolders : readFolders folderAnswer = .ok [.opaqueId "f"] := by
    rw [readFolders, readChecked, parse_eq_parseChars, hfolderChars]
    set_option maxRecDepth 2000 in
    decide
  have hpage : readPage folderAnswer = .ok {} := by
    rw [readPage, readChecked, parse_eq_parseChars, hfolderChars]
    set_option maxRecDepth 2000 in
    decide
  have hcursors : (byToken.filterMap listing?).map (·.request.cursor) =
      [.token none, .token (some "s")] := by
    change (((exhaust _ _ _).run.trace (client.world _ _) ()).filterMap listing?).map _ = _
    rw [trace_echoing rfl (by decide), reading, hchanges]
    decide
  have hlisted : (byInstant.filterMap listed?).map (·.ids) = [[]] := by
    change (((collect _ _ _).trace (client.world _ _) ()).filterMap listed?).map _ = _
    rw [trace_echoing rfl (by decide), reading, hfolders, hpage]
    decide
  have herror : (((Xml.parse errorAnswer).toOption.bind
      fun document => document.descendant? "SyncFolderItemsResponseMessage").bind
        fun message => message.attribute? "ResponseClass") = some "Error" := by
    have hchars : errorAnswer.toList = _ := String.toList_ofList
    rw [parse_eq_parseChars, hchars]
    decide
  obtain ⟨hchangesPage, hlistedPage, hrefused, hgoOn, -⟩ := pages_keep_promises client
    (echoing deletionAnswer) Roster.sampleWorld config ()
  obtain ⟨-, -, -, -, hstores⟩ := pages_keep_promises client (echoing folderAnswer)
    Roster.sampleWorld (config.withMode .lastSynced) ()
  refine ⟨⟨hcursors, hgoOn rfl _ _ _⟩, ⟨hlisted, hstores rfl _ _⟩, ?_, ?_, ?_⟩
  · obtain ⟨message, state, -, hpage⟩ := hchangesPage _ _ hchanges
    obtain rfl : state = "s" := Option.some.inj hpage.token.symm
    exact ⟨_, message, hchanges, hpage⟩
  · obtain ⟨_, root, -, hlisted⟩ := hlistedPage _ _ hpage
    exact ⟨_, root, hpage, hlisted⟩
  · obtain ⟨message, hmessage, hclass⟩ := Option.bind_eq_some_iff.1 herror
    obtain ⟨document, hdocument, hfirst⟩ := Option.bind_eq_some_iff.1 hmessage
    cases hparse : Xml.parse errorAnswer with
    | error fault =>
      rw [hparse] at hdocument
      cases hdocument
    | ok document' =>
      rw [hparse] at hdocument
      cases hdocument
      exact (hrefused _ document message hparse hclass).1 hfirst

end MailCollector.Ews
