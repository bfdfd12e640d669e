import MailCollector.Proofs.Crawl.Cursors

/-!
# Where offsets lead

A listing by offsets is due to go on where the server says, or else behind the entries of the page
(`Pages.dueOffset`).  Offsets are machine words, so a crawl goes on there if and only if the sum is
one (`Pages.nextOffset_eq_dueOffset_iff`).  The listings of a crawl by instants begin at the offset
zero and go on in this way, whatever the pages are (`exhaust_listsByOffset`), so they follow the
offsets that are due if and only if no sum on the way is too large (`Advancing.due_iff`).
-/

namespace MailCollector.Crawl

open MailCollector.Calendar MailCollector.Log MailCollector.Mail MailCollector.Text Plain
  Plain.Attempt

namespace Pages

/-- The offset at which a listing is due to go on after a page, however large it is. -/
def dueOffset (offset : ℕ) (page : IdPage) : ℕ := page.nextOffset.getD (offset + page.entries)

/-- The offset that is due after a page is a machine word, unless the server names one itself. -/
def FitsWord (offset : ℕ) (page : IdPage) : Prop :=
  page.nextOffset = none → offset + page.entries < wordCount

instance (offset : ℕ) (page : IdPage) : Decidable (FitsWord offset page) :=
  inferInstanceAs (Decidable (_ → _))

/-- A crawl goes on at the offset that is due if and only if that is a machine word. -/
lemma nextOffset_eq_dueOffset_iff (offset : ℕ) (page : IdPage) :
    nextOffset offset page = dueOffset offset page ↔ FitsWord offset page := by
  unfold nextOffset dueOffset FitsWord
  cases page.nextOffset with
  | some next => simp
  | none =>
    have hpos : 0 < wordCount := by decide
    simp [Nat.mod_eq_iff_lt hpos.ne']

/-- A crawl goes on at a machine word, if the server names no larger offset. -/
lemma nextOffset_lt {page : IdPage} (hpage : ∀ next ∈ page.nextOffset, next < wordCount)
    (offset : ℕ) : nextOffset offset page < wordCount := by
  unfold nextOffset
  cases hnext : page.nextOffset with
  | some next => exact hpage next hnext
  | none => exact Nat.mod_lt _ (by decide)

end Pages

/-! ### Listings by offsets -/

/-- The listing brought a page, and the request goes on at the offset that `next` makes of the
offset of the listing and of its page. -/
def Listing.Advances (next : ℕ → IdPage → ℕ) (l : Listing) (request : PageRequest) : Prop :=
  ∃ offset changedSince page, l.request.cursor = .offset offset changedSince ∧ l.reply = .ok page ∧
    request = { l.request with cursor := .offset (next offset page) changedSince }

/-- The offset that is due after the page of the listing, if any, is a machine word, unless the
server names one itself. -/
def Listing.FitsWord (l : Listing) : Prop :=
  match l.request.cursor, l.reply with
  | .offset offset _, .ok page => Pages.FitsWord offset page
  | _, _ => True

instance : (l : Listing) → Decidable l.FitsWord
  | ⟨⟨_, _, _, .offset offset _⟩, .ok page⟩ =>
    inferInstanceAs (Decidable (Pages.FitsWord offset page))
  | ⟨⟨_, _, _, .offset _ _⟩, .error _⟩ | ⟨⟨_, _, _, .token _⟩, _⟩ => isTrue trivial

/-- Each listing after the first goes on at the offset that `next` makes of the one just before. -/
def Advancing (next : ℕ → IdPage → ℕ) (ls : List Listing) : Prop :=
  ls.IsChain fun l later => l.Advances next later.request

lemma Listing.Advances.due_iff {l : Listing} {request : PageRequest}
    (h : l.Advances Pages.nextOffset request) :
    l.Advances Pages.dueOffset request ↔ l.FitsWord := by
  obtain ⟨offset, changedSince, page, hcursor, hreply, rfl⟩ := h
  have hfits : l.FitsWord ↔ Pages.FitsWord offset page := by
    rw [Listing.FitsWord, hcursor, hreply]
  rw [hfits, ← Pages.nextOffset_eq_dueOffset_iff]
  constructor
  · rintro ⟨offset', changedSince', page', hcursor', hreply', hsame⟩
    cases hcursor.symm.trans hcursor'
    cases hreply.symm.trans hreply'
    exact (Cursor.offset.inj (congrArg PageRequest.cursor hsame)).1
  · intro hdue
    exact ⟨offset, changedSince, page, hcursor, hreply, by rw [hdue]⟩

/-- Listings follow the offsets that are due if and only if all of these on the way are words. -/
lemma Advancing.due_iff {ls : List Listing} (h : Advancing Pages.nextOffset ls) :
    Advancing Pages.dueOffset ls ↔ ∀ l ∈ ls.dropLast, l.FitsWord := by
  unfold Advancing at h ⊢
  induction ls with
  | nil => simp
  | cons l ls ih =>
    cases ls with
    | nil => simp
    | cons later ls =>
      rw [List.isChain_cons_cons] at h
      rw [List.isChain_cons_cons, List.dropLast_cons_cons, List.forall_mem_cons, h.1.due_iff,
        ih h.2]

/-- The listings begin with a certain request and go on as a crawl does. -/
structure ListsByOffset (start : PageRequest) (ls : List Listing) : Prop where
  first : ∀ l ∈ ls.head?, l.request = start
  advancing : Advancing Pages.nextOffset ls

/-- The request comes next after listings that begin with `start`. -/
def ComesNext (start : PageRequest) (ls : List Listing) (request : PageRequest) : Prop :=
  match ls.getLast? with
  | none => request = start
  | some last => last.Advances Pages.nextOffset request

namespace ListsByOffset

variable {start request : PageRequest} {ls : List Listing}

lemma nil (start : PageRequest) : ListsByOffset start [] where
  first l hl := by cases hl
  advancing := .nil

/-- The request that comes next may be made, whatever the reply to it is. -/
lemma append (h : ListsByOffset start ls) (hnext : ComesNext start ls request)
    (reply : Except Failure IdPage) : ListsByOffset start (ls ++ [⟨request, reply⟩]) := by
  unfold ComesNext at hnext
  constructor
  · cases ls with
    | nil =>
      rintro l ⟨⟩
      exact hnext
    | cons first ls => exact h.first
  · refine List.isChain_append.2 ⟨h.advancing, List.isChain_singleton _, ?_⟩
    rintro last hlast later ⟨⟩
    rw [Option.mem_def.1 hlast] at hnext
    exact hnext

/-- All listings are for the same instant, at offsets that are words, if the pages of such listings
name no larger ones. -/
lemma words {mailbox : String} {folder : FolderId} {size : ℕ} {changedSince : Option Instant}
    (h : ListsByOffset ⟨mailbox, folder, size, .offset 0 changedSince⟩ ls)
    (hpages : ∀ l ∈ ls, ∀ offset page, l.request.cursor = .offset offset changedSince →
      l.reply = .ok page → ∀ next ∈ page.nextOffset, next < wordCount) :
    ∀ l ∈ ls, ∃ offset < wordCount,
      l.request = ⟨mailbox, folder, size, .offset offset changedSince⟩ := by
  obtain ⟨hfirst, hadvancing⟩ := h
  replace hfirst : ∀ l ∈ ls.head?, ∃ offset < wordCount,
      l.request = ⟨mailbox, folder, size, .offset offset changedSince⟩ := fun l hl =>
    ⟨0, by decide, hfirst l hl⟩
  unfold Advancing at hadvancing
  induction ls with
  | nil => exact List.forall_mem_nil _
  | cons l ls ih =>
    obtain ⟨offset, hoffset, hrequest⟩ := hfirst l rfl
    refine List.forall_mem_cons.2 ⟨⟨offset, hoffset, hrequest⟩, ?_⟩
    rw [List.forall_mem_cons] at hpages
    obtain ⟨hlink, hadvancing⟩ := List.isChain_cons.1 hadvancing
    refine ih hpages.2 hadvancing fun later hlater => ?_
    obtain ⟨offset', _, page, hcursor, hreply, hlater⟩ := hlink later hlater
    rw [hrequest] at hcursor hlater
    cases hcursor
    have hnext := hpages.1 offset page (congrArg PageRequest.cursor hrequest) hreply
    exact ⟨_, Pages.nextOffset_lt hnext offset, hlater⟩

end ListsByOffset

/-! ### A crawl by instants -/

section Loop

variable {allowed : List Event → Event → Prop} {config : Config} {mailbox : String}
  {folder : FolderId} {changedSince : Option Instant} {σ : Type} {start : PageRequest}

/-- If the next request of the plain loop comes next after the listings so far, the listings go on
as they should. -/
lemma pages_listsByOffset (hmode : config.mode = .lastSynced) {bound offset number : ℕ}
    {token : Option String} {h : List Event} (hby : ListsByOffset start (h.filterMap listing?))
    (hnext : ComesNext start (h.filterMap listing?)
      ⟨mailbox, folder, config.idPageSize, .offset offset changedSince⟩) :
    (pages config mailbox folder changedSince bound token offset number).Upholds allowed
      (fun h => ListsByOffset start (h.filterMap listing?)) (fun _ => True) (fun _ _ => True) h := by
  induction bound generalizing token offset number h with
  | zero => exact upholds_throw.2 ⟨hby, trivial⟩
  | succ bound ih =>
    rw [pages, upholds_bind, upholds_tried, hmode]
    refine ⟨hby, fun reply _ => ?_⟩
    have hlisted := hby.append hnext reply
    rw [← listings_append_listItems] at hlisted
    refine ⟨hlisted, ?_⟩
    cases reply with
    | error failure => trivial
    | ok page =>
      refine upholds_bind.2 ?_
      refine ((within_noting id).keepsListings hlisted rfl).mono fun _ h _ hnoted => ?_
      have hbatches : Within (fun c => ¬ c.Lists)
          ((pieces config.detailPageSize page.ids).forM (batch mailbox folder)) :=
        (batches_within mailbox folder _ _).mono fun _ hc => hc.quiet.1
      refine upholds_bind.2 ?_
      refine (hbatches.keepsListings hlisted hnoted).mono fun _ h hby hfetched => ?_
      split
      · have hcommit : Within (fun c => ¬ c.Lists)
            (commit mailbox folder (number + 1) ((nonEmpty page.token).or token)) :=
          commit_within_of mailbox folder (fun _ _ => id) (fun _ => id) _
        exact (hcommit.keepsListings hlisted hfetched).mono fun _ _ _ _ => trivial
      · refine ih hby ?_
        -- The last listing is the one whose page has just been crawled.
        rw [hfetched, listings_append_listItems, ComesNext, List.getLast?_concat]
        exact ⟨offset, changedSince, page, rfl, rfl, rfl⟩

/-- However many turns of a folder are taken, the listings begin at the offset zero, and each of
the others goes on where the page just before lets it. -/
theorem exhaust_listsByOffset {world : World σ} (hmode : config.mode = .lastSynced)
    (handle : FolderHandle) (changedSince : Option Instant) (turns : ℕ) (s : σ) :
    ListsByOffset ⟨handle.mailbox, handle.folder, config.idPageSize, .offset 0 changedSince⟩
      (((exhaust (FolderCrawl.turn config) turns
        (FolderCrawl.start handle changedSince)).run.trace world s).filterMap listing?) := by
  have hloop : (FolderCrawl.rest config turns (FolderCrawl.start handle changedSince)).Upholds
      (fun _ _ => True) (fun h => ListsByOffset
        ⟨handle.mailbox, handle.folder, config.idPageSize, .offset 0 changedSince⟩
        (h.filterMap listing?)) (fun _ => True) (fun _ _ => True) [] :=
    pages_listsByOffset hmode (.nil _) rfl
  have hturns := (le_def.1 (exhaust_le (unfolds_folder config) turns
    (FolderCrawl.start handle changedSince))).upholds hloop
  exact hturns.trace List.prefix_rfl (admits_true _ _)

end Loop

end MailCollector.Crawl
