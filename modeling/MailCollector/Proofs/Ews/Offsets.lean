import MailCollector.Proofs.Crawl.Offsets
import MailCollector.Proofs.Ews.Pages
import MailCollector.Proofs.Ews.Readings

/-!
# Offsets that a server names

The root of a listing may name the offset at which the listing goes on, which is any machine word
(`nextOffset_lt_of_readOffset`).  A crawl by instants over a client begins at the offset zero and
goes on from page to page at machine words.  These are the offsets that are due if and only if, on
the way, no sum of an offset and the entries of a page is too large for a word (`offsets_due_iff`).
A server can bring this about with two pages: it names the largest word after the first page and
nothing after the second, and the crawl asks for the first page again (`offset_wraps_around`).
-/

namespace MailCollector.Ews

open MailCollector.Calendar MailCollector.Crawl MailCollector.Log MailCollector.Mail
  MailCollector.Text MailCollector.Xml

variable {σ : Type}

/-! ### Named offsets -/

/-- A number that is read is within its bound. -/
lemma le_of_readNat? {bound n : ℕ} {text : String} (h : readNat? bound text = some n) :
    n ≤ bound := by
  unfold readNat? at h
  extract_lets digits at h
  cases hdigits : digits with
  | nil => simp [hdigits] at h
  | cons c cs =>
    rw [hdigits] at h
    simpa using (Option.filter_eq_some_iff.1 h).2

/-- The offset that a listing names is a machine word. -/
lemma nextOffset_lt_of_readOffset {root : Element} {offset : Option ℕ}
    (h : readOffset root = .ok offset) : ∀ next ∈ offset, next < wordCount := by
  unfold readOffset at h
  split at h
  · cases h
    exact nofun
  · split at h
    · rename_i next hnext
      cases h
      rintro _ ⟨⟩
      exact Nat.lt_of_le_of_lt (le_of_readNat? hnext) (by decide)
    · cases h

/-- The next offset of a page is the one that the root of the listing names. -/
lemma readOffset_of_readPage {body : String} {message root : Element} {page : IdPage}
    (hshows : Shows body message root) (h : readPage body = .ok page) :
    readOffset root = .ok page.nextOffset := by
  obtain ⟨document, hdocument, hmessage, hroot⟩ := hshows
  obtain ⟨document', hdocument', h⟩ := ok_of_bind h
  obtain rfl : document = document' := Except.ok.inj (hdocument.symm.trans hdocument')
  obtain ⟨message', hmessage', h⟩ := ok_of_bind h
  obtain rfl : message = message' := Except.ok.inj (hmessage.symm.trans hmessage')
  obtain ⟨root', hroot', h⟩ := ok_of_bind h
  obtain rfl : root = root' := Option.some.inj (hroot.symm.trans (required_eq_ok.1 hroot'))
  obtain ⟨offset, hoffset, h⟩ := ok_of_bind h
  obtain ⟨ids, -, h⟩ := ok_of_bind h
  cases h
  exact hoffset

/-- The page is what an answer shows of a listing. -/
def ReadsListing (page : IdPage) : Prop :=
  ∃ body message root, readPage body = .ok page ∧ Shows body message root ∧
    readOffset root = .ok page.nextOffset ∧ page.entries = (itemsIn root).length

lemma readsListing_of_readPage {body : String} {page : IdPage} (h : readPage body = .ok page) :
    ReadsListing page := by
  obtain ⟨message, root, hshows, hlisted⟩ := isListedPage_of_readPage h
  exact ⟨body, message, root, h, hshows, readOffset_of_readPage hshows h,
    hlisted.entries.trans hlisted.returned⟩

/-- A page that was asked for by an offset is what an answer shows of a listing. -/
def ReadsOffsets : Event → Prop
  | ⟨.listItems request, .ok page⟩ =>
    ∀ offset changedSince, request.cursor = .offset offset changedSince → ReadsListing page
  | _ => True

lemma Client.world_readsOffsets (c : Client) (t : Http.Transport (StateM σ)) (others : World σ)
    (call : Call) (s : σ) : ReadsOffsets ⟨call, ((c.world t others).answer call s).1⟩ := by
  cases call with
  | listItems request =>
    simp only [Client.world]
    cases hreply : (((c.service t).listItems request s).1).1 with
    | error failure => trivial
    | ok page =>
      intro offset changedSince hcursor
      obtain ⟨_, body, -, -, -, -, hread⟩ := reply_of_ask hreply
      rw [Client.readIds, hcursor] at hread
      exact readsListing_of_readPage hread
  | _ => trivial

/-! ### The main result -/

/-- The listings of a crawl by instants over a client.  Their pages are what the answers show of
listings.  The first listing is at the offset zero, and each of the others at the next offset after
the page just before: the one that the server names, or else the sum of the offset and the entries,
as a machine word.  So they are at the offsets that are due, as exact sums, if and only if none of
the sums on the way is too large for a word. -/
theorem offsets_due_iff (c : Client) (t : Http.Transport (StateM σ)) (others : World σ)
    (config : Config) (hmode : config.mode = .lastSynced) (handle : FolderHandle)
    (changedSince : Option Instant) (turns : ℕ) (s : σ) :
    let listings := ((exhaust (FolderCrawl.turn config) turns
      (FolderCrawl.start handle changedSince)).run.trace (c.world t others) s).filterMap listing?
    let requestAt := fun offset => PageRequest.mk handle.mailbox handle.folder config.idPageSize
      (.offset offset changedSince)
    (∀ l ∈ listings, ∀ page, l.reply = .ok page → ReadsListing page) ∧
    (∀ l ∈ listings.head?, l.request = requestAt 0) ∧
    Advancing Pages.nextOffset listings ∧
    (∀ l ∈ listings, ∃ offset < wordCount, l.request = requestAt offset) ∧
    (Advancing Pages.dueOffset listings ↔ ∀ l ∈ listings.dropLast, l.FitsWord) := by
  intro listings requestAt
  have hby : ListsByOffset (requestAt 0) listings :=
    exhaust_listsByOffset hmode handle changedSince turns s
  have hreads : ∀ l ∈ listings, ∀ offset page, l.request.cursor = .offset offset changedSince →
      l.reply = .ok page → ReadsListing page := by
    intro l hl offset page hcursor hpage
    obtain ⟨e, he, hlisting⟩ := List.mem_filterMap.1 hl
    have hread : ReadsOffsets e :=
      Program.forall_mem_trace _ (c.world_readsOffsets t others) _ s e he
    unfold listing? at hlisting
    split at hlisting
    · cases hlisting
      cases hpage
      exact hread offset changedSince hcursor
    · cases hlisting
  have hwords : ∀ l ∈ listings, ∃ offset < wordCount, l.request = requestAt offset := by
    refine hby.words fun l hl offset page hcursor hpage => ?_
    obtain ⟨_, _, root, -, -, hoffset, -⟩ := hreads l hl offset page hcursor hpage
    exact nextOffset_lt_of_readOffset hoffset
  refine ⟨fun l hl page hpage => ?_, hby.first, hby.advancing, hwords, hby.advancing.due_iff⟩
  obtain ⟨offset, -, hrequest⟩ := hwords l hl
  exact hreads l hl offset page (congrArg PageRequest.cursor hrequest) hpage

/-- An answer about a page of one item. -/
def itemAnswer (attributes : String) : String :=
  "<r><FindItemResponseMessage><RootFolder" ++ attributes ++ "><Items><Message><ItemId Id=\"i\"/>" ++
    "</Message></Items></RootFolder></FindItemResponseMessage></r>"

/-- The answers to a crawl of a folder: pages of one item, and the items on them, which are gone. -/
def pagesInTurn (attributes : List String) : List String :=
  attributes.flatMap fun a => [itemAnswer a, emptyAnswer]

/-- The listings of a crawl by instants over the sample client, in pages of one item, for which
answers with these attributes come back. -/
def listingsInTurn (attributes : List String) : List Listing :=
  ((exhaust (FolderCrawl.turn ((Config.ofRequested 1 1).withMode .lastSynced)) 20
    (FolderCrawl.start { mailbox := "m" } none)).run.trace
      (sampleClient.world inTurn (sameWorld Roster.sampleWorld))
      (pagesInTurn attributes)).filterMap listing?

/-- The page in such an answer. -/
def pageOfOne (nextOffset : Option ℕ) : IdPage where
  ids := [⟨"i"⟩]
  nextOffset := nextOffset
  entriesReturned := 1

/-- What is read from these answers if their pages name these offsets. -/
def readingsInTurn (pages : List (String × Option ℕ)) : List Reading :=
  pages.flatMap fun p =>
    [{ reading (itemAnswer p.1) with page := .ok (pageOfOne p.2) },
      { reading emptyAnswer with items := .ok [] }]

/-- The listings depend on the answers only through what is read from them. -/
lemma listingsInTurn_eq (pages : List (String × Option ℕ))
    (h : ∀ p ∈ pages, readPage (itemAnswer p.1) = .ok (pageOfOne p.2)) :
    listingsInTurn (pages.map Prod.fst) =
      ((exhaust (FolderCrawl.turn ((Config.ofRequested 1 1).withMode .lastSynced)) 20
        (FolderCrawl.start { mailbox := "m" } none)).run.trace
          (hearingWorld (heardIfSent nextReading) (sameWorld Roster.sampleWorld))
          (readingsInTurn pages)).filterMap listing? := by
  have hreadings : (pagesInTurn (pages.map Prod.fst)).map reading = readingsInTurn pages := by
    unfold pagesInTurn readingsInTurn
    rw [List.flatMap_map, List.map_flatMap]
    refine List.flatMap_congr fun p hp => ?_
    rw [← h p hp, ← readItems_emptyAnswer]
    rfl
  rw [listingsInTurn, trace_inTurn, hreadings]

lemma readPage_itemAnswer :
    readPage (itemAnswer "") = .ok (pageOfOne none) ∧
      readPage (itemAnswer " IndexedPagingOffset=\"7\"") = .ok (pageOfOne (some 7)) ∧
      readPage (itemAnswer " IndexedPagingOffset=\"18446744073709551615\"") =
        .ok (pageOfOne (some (wordCount - 1))) := by
  have hchars (attributes : String) {cs : List Char} (h : attributes.toList = cs) :
      (itemAnswer attributes).toList = _ :=
    toList_append_of (toList_append_of (toList_append_of String.toList_ofList h)
      String.toList_ofList) String.toList_ofList
  refine ⟨?_, ?_, ?_⟩
  · rw [readPage, readChecked, parse_eq_parseChars, hchars "" String.toList_ofList]
    set_option maxRecDepth 2000 in
    decide
  · rw [readPage, readChecked, parse_eq_parseChars,
      hchars " IndexedPagingOffset=\"7\"" String.toList_ofList]
    set_option maxRecDepth 2000 in
    decide
  · rw [readPage, readChecked, parse_eq_parseChars,
      hchars " IndexedPagingOffset=\"18446744073709551615\"" String.toList_ofList]
    set_option maxRecDepth 2000 in
    decide

theorem offsets_due_iff_sample :
    (listingsInTurn ["", " IndexedPagingOffset=\"7\""]).map (·.request.cursor) =
        [.offset 0 none, .offset 1 none, .offset 7 none] ∧
      Advancing Pages.dueOffset (listingsInTurn ["", " IndexedPagingOffset=\"7\""]) := by
  obtain ⟨hplain, hseven, -⟩ := readPage_itemAnswer
  have hlistings : listingsInTurn ["", " IndexedPagingOffset=\"7\""] = _ :=
    listingsInTurn_eq [("", none), (" IndexedPagingOffset=\"7\"", some 7)]
      (List.forall_mem_cons.2 ⟨hplain, List.forall_mem_singleton.2 hseven⟩)
  have hrun : (listingsInTurn ["", " IndexedPagingOffset=\"7\""]).map (·.request.cursor) =
        [.offset 0 none, .offset 1 none, .offset 7 none] ∧
      ∀ l ∈ (listingsInTurn ["", " IndexedPagingOffset=\"7\""]).dropLast, l.FitsWord := by
    rw [hlistings]
    decide
  refine ⟨hrun.1, ?_⟩
  exact (offsets_due_iff sampleClient inTurn (sameWorld Roster.sampleWorld)
    ((Config.ofRequested 1 1).withMode .lastSynced) rfl { mailbox := "m" } none 20 _).2.2.2.2.2
      hrun.2

/-- A page of one item at the largest offset leads back to the first page of the folder. -/
theorem offset_wraps_around :
    (listingsInTurn [" IndexedPagingOffset=\"18446744073709551615\"", ""]).map
        (·.request.cursor) =
          [.offset 0 none, .offset (wordCount - 1) none, .offset 0 none] ∧
      ¬ Advancing Pages.dueOffset
        (listingsInTurn [" IndexedPagingOffset=\"18446744073709551615\"", ""]) := by
  obtain ⟨hplain, -, hlargest⟩ := readPage_itemAnswer
  have hlistings : listingsInTurn [" IndexedPagingOffset=\"18446744073709551615\"", ""] = _ :=
    listingsInTurn_eq
      [(" IndexedPagingOffset=\"18446744073709551615\"", some (wordCount - 1)), ("", none)]
      (List.forall_mem_cons.2 ⟨hlargest, List.forall_mem_singleton.2 hplain⟩)
  have hrun : (listingsInTurn [" IndexedPagingOffset=\"18446744073709551615\"", ""]).map
        (·.request.cursor) =
          [.offset 0 none, .offset (wordCount - 1) none, .offset 0 none] ∧
      ¬ ∀ l ∈ (listingsInTurn [" IndexedPagingOffset=\"18446744073709551615\"", ""]).dropLast,
        l.FitsWord := by
    rw [hlistings]
    decide
  have hby : ListsByOffset _
      (listingsInTurn [" IndexedPagingOffset=\"18446744073709551615\"", ""]) :=
    exhaust_listsByOffset rfl { mailbox := "m" } none 20 _
  exact ⟨hrun.1, fun hdue => hrun.2 (hby.advancing.due_iff.1 hdue)⟩

end MailCollector.Ews
