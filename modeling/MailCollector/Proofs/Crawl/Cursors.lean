import MailCollector.Proofs.Crawl.Collecting
import MailCollector.Proofs.Crawl.Exhausting
import MailCollector.Proofs.Crawl.Visit
import Mathlib.Data.List.Chain

/-!
# Where a listing goes on

A page that was asked for by a token should have one, so that the listing can go on from it, and a
page that was asked for by an offset should have none (`AnswersInKind`).  In a world that answers
so, a crawl by tokens goes on from the token of the page just before (`exhaust_listingsGoOn`), and a
crawl by instants stores no token at all (`collect_storesNoToken`).  Both are shown along the text
of the plain loop, which the lazy crawl begins.
-/

namespace MailCollector.Crawl

open MailCollector.Calendar MailCollector.Log MailCollector.Mail Plain Plain.Attempt

/-- A page that was asked for by a token has a token, and one that was asked for by an offset has
none. -/
def AnswersInKind : Event → Prop
  | ⟨.listItems request, .ok page⟩ =>
    match request.cursor with
    | .token _ => ∃ token, page.token = some token ∧ token ≠ ""
    | .offset _ _ => page.token = none
  | _ => True

/-! ### Histories of listings -/

/-- A request for a page and what came of it. -/
structure Listing where
  request : PageRequest
  reply : Except Failure IdPage

/-- The listing brought a page, and the request goes on from the token of that page. -/
def Listing.GoesOn (l : Listing) (request : PageRequest) : Prop :=
  ∃ page token, l.reply = .ok page ∧ page.token = some token ∧ token ≠ "" ∧
    request = { l.request with cursor := .token (some token) }

/-- The listing that a call is, if it is one. -/
def listing? : Event → Option Listing
  | ⟨.listItems request, reply⟩ => some ⟨request, reply⟩
  | _ => none

/-- Each listing of a history after the first goes on from the one just before. -/
def ListingsGoOn (h : List Event) : Prop :=
  List.IsChain (fun l next => l.GoesOn next.request) (h.filterMap listing?)

/-- The request of each listing of a history after the first has this link to the listing just
before. -/
def Linked (link : Listing → PageRequest → Prop) (h : List Event) : Prop :=
  List.IsChain (fun l next => link l next.request) (h.filterMap listing?)

section History

variable {h : List Event}

lemma listings_append_listItems (request : PageRequest) (reply : Except Failure IdPage) :
    (h ++ [(⟨.listItems request, reply⟩ : Event)]).filterMap listing? =
      h.filterMap listing? ++ [⟨request, reply⟩] :=
  List.filterMap_append

/-- One more listing is one more link. -/
lemma Linked.append {link : Listing → PageRequest → Prop} (hchain : Linked link h)
    {request : PageRequest} (hlast : ∀ last ∈ (h.filterMap listing?).getLast?, link last request)
    (reply : Except Failure IdPage) : Linked link (h ++ [⟨.listItems request, reply⟩]) := by
  rw [Linked, listings_append_listItems, List.isChain_append]
  refine ⟨hchain, List.isChain_singleton _, fun last hmem next hnext => ?_⟩
  cases hnext
  exact hlast last hmem

/-- Calls that ask for no ids are no listings. -/
lemma listings_append {e : Event} (he : ¬ e.1.Lists) :
    (h ++ [e]).filterMap listing? = h.filterMap listing? := by
  have hnone : listing? e = none := by
    unfold listing?
    split
    · exact absurd trivial he
    · rfl
  rw [List.filterMap_append, List.filterMap_cons_none hnone, List.filterMap_nil, List.append_nil]

/-- Attempts that ask for no ids keep what is true of the listings. -/
lemma Plain.Attempt.Within.keepsListings {allowed : List Event → Event → Prop} {α : Type}
    {p : Attempt α} (hp : p.Within fun c => ¬ c.Lists) {sound : List Listing → Prop}
    {before : List Event} (hsound : sound (before.filterMap listing?))
    (hsame : h.filterMap listing? = before.filterMap listing?) :
    p.Upholds allowed (fun h => sound (h.filterMap listing?)) (fun _ => True)
      (fun _ h => h.filterMap listing? = before.filterMap listing?) h := by
  refine hp.upholds (fun h hsame => ?_) (fun _ _ => trivial) (fun h e hsame he => ?_) hsame
  · rwa [hsame]
  · rw [listings_append he, hsame]

/-- No call of a history stores a token. -/
def StoresNoToken (h : List Event) : Prop := ∀ e ∈ h, ¬ e.1.WritesToken

lemma StoresNoToken.append (hquiet : StoresNoToken h) {e : Event} (he : ¬ e.1.WritesToken) :
    StoresNoToken (h ++ [e]) :=
  List.forall_mem_append.2 ⟨hquiet, List.forall_mem_singleton.2 he⟩

/-- Attempts that store no token keep that none is stored. -/
lemma Plain.Attempt.Within.storesNoToken {allowed : List Event → Event → Prop} {α : Type}
    {p : Attempt α} (hp : p.Within fun c => ¬ c.WritesToken) (hquiet : StoresNoToken h) :
    p.Upholds allowed StoresNoToken StoresNoToken (fun _ => StoresNoToken) h :=
  hp.upholds (fun _ => id) (fun _ => id) (fun _ _ hquiet he => hquiet.append he) hquiet

lemma Call.AroundFolders.not_writesToken {c : Call} (hc : c.AroundFolders) : ¬ c.WritesToken := by
  cases c <;> first | exact hc.elim | exact id

lemma Call.OfRun.not_writesToken {c : Call} (hc : c.OfRun) : ¬ c.WritesToken := by
  cases c <;> first | exact hc.elim | exact id

end History

section Loop

variable {allowed : List Event → Event → Prop} {config : Config} {mailbox : String}
  {folder : FolderId} {changedSince : Option Instant} {σ : Type} {world : World σ}

/-! ### A crawl by tokens -/

/-- If the listings so far go on from one another, and the next one goes on from the last of them,
so do all listings of the plain loop. -/
lemma pages_listingsGoOn (hallowed : ∀ h e, allowed h e → AnswersInKind e)
    (hmode : config.mode = .syncToken) {bound offset number : ℕ} {token : Option String}
    {h : List Event} (hchain : ListingsGoOn h)
    (hlast : ∀ last ∈ (h.filterMap listing?).getLast?,
      last.GoesOn ⟨mailbox, folder, config.idPageSize, .token token⟩) :
    (pages config mailbox folder changedSince bound token offset number).Upholds allowed
      ListingsGoOn (fun _ => True) (fun _ _ => True) h := by
  induction bound generalizing token offset number h with
  | zero => exact upholds_throw.2 ⟨hchain, trivial⟩
  | succ bound ih =>
    rw [pages, upholds_bind, upholds_tried, hmode]
    refine ⟨hchain, fun reply hreply => ?_⟩
    have hlisted : ListingsGoOn (h ++ [⟨.listItems _, reply⟩]) := Linked.append hchain hlast reply
    refine ⟨hlisted, ?_⟩
    cases reply with
    | error failure => trivial
    | ok page =>
      obtain ⟨found, hfound, hnonempty⟩ := hallowed _ _ hreply
      have htoken : (Text.nonEmpty page.token).or token = some found := by
        simp [hfound, hnonempty, Text.nonEmpty]
      refine upholds_bind.2 ?_
      refine ((within_noting id).keepsListings hlisted rfl).mono fun _ h _ hnoted => ?_
      have hbatches : Within (fun c => ¬ c.Lists)
          ((pieces config.detailPageSize page.ids).forM (batch mailbox folder)) :=
        (batches_within mailbox folder _ _).mono fun _ hc => hc.quiet.1
      refine upholds_bind.2 ?_
      refine (hbatches.keepsListings hlisted hnoted).mono fun _ h hchain hfetched => ?_
      rw [htoken]
      split
      · have hcommit : Within (fun c => ¬ c.Lists)
            (commit mailbox folder (number + 1) (some found)) :=
          commit_within_of mailbox folder (fun _ _ => id) (fun _ => id) _
        exact (hcommit.keepsListings hlisted hfetched).mono fun _ _ _ _ => trivial
      · -- The last listing is the one whose page has just been crawled.
        refine ih hchain fun last hmem => ?_
        rw [hfetched, listings_append_listItems, List.getLast?_concat] at hmem
        cases hmem
        exact ⟨page, found, rfl, hfound, hnonempty, rfl⟩

/-- In a world that answers in kind, however many turns of a folder are taken, each listing after
the first goes on from the token of the page just before. -/
theorem exhaust_listingsGoOn (hworld : ∀ c s, AnswersInKind ⟨c, (world.answer c s).1⟩)
    (hmode : config.mode = .syncToken) (handle : FolderHandle) (changedSince : Option Instant)
    (turns : ℕ) (s : σ) :
    ListingsGoOn ((exhaust (FolderCrawl.turn config) turns
      (FolderCrawl.start handle changedSince)).run.trace world s) := by
  have hloop : (FolderCrawl.rest config turns (FolderCrawl.start handle changedSince)).Upholds
      (fun _ e => AnswersInKind e) ListingsGoOn (fun _ => True) (fun _ _ => True) [] :=
    pages_listingsGoOn (fun _ _ hanswer => hanswer) hmode .nil fun last hlast => by cases hlast
  have hturns := (le_def.1 (exhaust_le (unfolds_folder config) turns
    (FolderCrawl.start handle changedSince))).upholds hloop
  exact hturns.trace List.prefix_rfl (Program.trace_admits hworld _ [] s)

/-! ### A crawl by instants -/

/-- Without a token to go on from, the pages of a folder leave none to be stored. -/
lemma pages_storesNoToken (hallowed : ∀ h e, allowed h e → AnswersInKind e)
    (hmode : config.mode = .lastSynced) {bound offset number : ℕ} {h : List Event}
    (hquiet : StoresNoToken h) :
    (pages config mailbox folder changedSince bound none offset number).Upholds allowed
      StoresNoToken StoresNoToken (fun _ => StoresNoToken) h := by
  induction bound generalizing offset number h with
  | zero => exact upholds_throw.2 ⟨hquiet, hquiet⟩
  | succ bound ih =>
    rw [pages, upholds_bind, upholds_tried, hmode]
    refine ⟨hquiet, fun reply hreply => ?_⟩
    refine ⟨hquiet.append id, ?_⟩
    cases reply with
    | error failure => exact hquiet.append id
    | ok page =>
      have hnone : page.token = none := hallowed _ _ hreply
      refine upholds_bind.2 ?_
      refine ((within_noting id).storesNoToken (hquiet.append id)).mono fun _ h _ hquiet => ?_
      have hbatches : Within (fun c => ¬ c.WritesToken)
          ((pieces config.detailPageSize page.ids).forM (batch mailbox folder)) :=
        (batches_within mailbox folder _ _).mono fun _ hc => hc.quiet.2
      refine upholds_bind.2 ((hbatches.storesNoToken hquiet).mono fun _ h _ hquiet => ?_)
      rw [hnone]
      split
      · exact upholds_pure.2 ⟨hquiet, hquiet⟩
      · exact ih hquiet

/-- Where answers come in kind, the plain loop over mailboxes stores no token. -/
lemma mailboxes_storesNoToken (hallowed : ∀ h e, allowed h e → AnswersInKind e)
    (hmode : config.mode = .lastSynced) (bound : ℕ) (names : List String) :
    (mailboxes config bound names).Upholds allowed StoresNoToken (fun _ => StoresNoToken) [] := by
  refine mailboxes_upholds (fun _ => id) ?_ ?_ names (List.forall_mem_nil _)
  · intro h e haround hquiet
    exact hquiet.append haround.not_writesToken
  · intro name changedSince f h hquiet
    unfold folder
    rw [hmode]
    exact pages_storesNoToken hallowed hmode hquiet

/-- In a world that answers in kind, a run by instants stores no token. -/
theorem collect_storesNoToken (hworld : ∀ c s, AnswersInKind ⟨c, (world.answer c s).1⟩)
    (hmode : config.mode = .lastSynced) (fuel : ℕ) (names : List String) (s : σ) :
    StoresNoToken ((collect config fuel names).trace world s) := by
  have hloop : (mailboxes config fuel names).Upholds (fun _ e => AnswersInKind e ∧ ¬ Refused e)
      StoresNoToken (fun _ => StoresNoToken) [] :=
    mailboxes_storesNoToken (fun _ _ hanswer => hanswer.1) hmode fuel names
  have hrun : (collect config fuel names).Upholds (fun _ e => AnswersInKind e) StoresNoToken
      (fun _ _ => True) [] := by
    refine collect_upholds config fuel names ?_ (hloop.mono (fun _ => id) fun _ _ _ _ => trivial)
    intro h e hofRun hquiet
    exact hquiet.append hofRun.not_writesToken
  exact hrun.trace List.prefix_rfl (Program.trace_admits hworld _ [] s)

end Loop

end MailCollector.Crawl
