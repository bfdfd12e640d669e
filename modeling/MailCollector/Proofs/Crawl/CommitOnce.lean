import MailCollector.Proofs.Crawl.Lazy
import MailCollector.Proofs.Crawl.PlainSafety

/-!
# The token of a folder is written once, and last

When a folder is opened, its token is written at most once before it is left: after a short page has
been listed, after all items of all its pages have been asked for and all their records handed over,
and never after a failure.  The token is the last one that the server gave out, or else the one from
which the folder was opened, and nothing but a note follows it (`CommitsLast`).

This is proved along the plain loop.  While the pages of a folder are crawled nothing is written;
what has been asked for and handed over is kept track of (`Progress`) until nothing is left open.
The lazy crawl then does the same up to any moment (`Roster.pulls_commit_once`).
-/

namespace MailCollector.Crawl

open MailCollector.Calendar MailCollector.Mail MailCollector.Log Plain Plain.Attempt

/-- A call of the crawl of a folder fails: it reads a checkpoint or asks the server. -/
def CrawlFails : Event → Prop
  | ⟨.readToken _ _, .error _⟩ | ⟨.listItems _, .error _⟩ | ⟨.fetchItems _ _, .error _⟩ => True
  | _ => False

/-! ### What is known when a token is written -/

/-- What the calls before and after the write of a token for a folder say about it. -/
structure Settled (config : Config) (mailbox : String) (folder : FolderId) (before : List Event)
    (token : String) (after : List Event) : Prop where
  /-- No other token is written. -/
  once : ∀ e ∈ before ++ after, ¬ e.1.WritesToken
  /-- Nothing has failed. -/
  unfailed : ∀ e ∈ before ++ after, ¬ CrawlFails e
  /-- A page was listed that is shorter than a full page. -/
  shortPage : ∃ page ∈ before.filterMap listed?, page.entries < config.idPageSize
  /-- Nothing is asked for afterwards. -/
  silent : ∀ e ∈ after, ∃ n, e = ⟨.note n, ()⟩
  /-- The ids of all pages were asked for. -/
  asked : (before.filterMap asked?).flatten = (before.filterMap listed?).flatMap IdPage.ids
  /-- The records of all items were handed over. -/
  handed : (before.filterMap fetched?).flatten.map (Record.ofItem? · mailbox folder) =
    (before.filterMap yielded?).map some
  /-- The token is the last one that was seen. -/
  last : lastToken before = some token
  nonempty : token ≠ ""

/-- In these calls either no token is written, or one is, when everything is settled. -/
def CommitsLast (config : Config) (mailbox : String) (folder : FolderId) (t : List Event) : Prop :=
  (∀ e ∈ t, ¬ e.1.WritesToken) ∨
    ∃ before token reply after, t = before ++ ⟨.writeToken mailbox folder token, reply⟩ :: after ∧
      Settled config mailbox folder before token after

/-- A token that was seen is not empty. -/
lemma lastToken_ne_empty {t : List Event} {token : String} (htoken : lastToken t = some token) :
    token ≠ "" := by
  have hkept : ∀ {text : Option String}, Text.nonEmpty text = some token → token ≠ "" := by
    intro text htext
    have hnonempty := (Option.filter_eq_some_iff.1 htext).2
    rintro rfl
    simp at hnonempty
  rcases Option.or_eq_some_iff.1 htoken with hpage | ⟨-, hseed⟩
  · obtain ⟨page, -, hpage⟩ := List.mem_filterMap.1 (List.mem_of_getLast? hpage)
    exact hkept hpage
  · obtain ⟨⟨c, reply⟩, -, he⟩ := List.exists_of_findSome?_eq_some hseed
    unfold seed? at he
    split at he
    · exact hkept he
    · cases he

/-- Calls that bring neither pages nor tokens leave the last token as it is. -/
lemma lastToken_append {t u : List Event} (hlisted : u.filterMap listed? = [])
    (hseed : u.findSome? seed? = none) : lastToken (t ++ u) = lastToken t := by
  rw [lastToken, List.filterMap_append, hlisted, List.append_nil, List.findSome?_append, hseed,
    Option.or_none, lastToken]

/-! ### While the pages of a folder are crawled -/

/-- The state of the crawl of a folder before its token is written: the last token, the ids that are
still to be asked for, and the records that are still to be handed over. -/
structure Progress (mailbox : String) (folder : FolderId) (t : List Event) (token : Option String)
    (waiting : List ItemId) (pending : List (Option Record)) : Prop where
  quiet : ∀ e ∈ t, ¬ e.1.WritesToken
  unfailed : ∀ e ∈ t, ¬ CrawlFails e
  last : lastToken t = token
  asked : (t.filterMap asked?).flatten ++ waiting = (t.filterMap listed?).flatMap IdPage.ids
  handed : (t.filterMap fetched?).flatten.map (Record.ofItem? · mailbox folder) =
    (t.filterMap yielded?).map some ++ pending

namespace Progress

variable {mailbox : String} {folder : FolderId} {t : List Event} {token token' : Option String}
  {waiting waiting' : List ItemId} {pending pending' : List (Option Record)}

/-- Nothing has happened yet. -/
lemma nil : Progress mailbox folder [] none [] [] where
  quiet := by simp
  unfailed := by simp
  last := rfl
  asked := rfl
  handed := rfl

/-- A call takes from what was open what it asks for and hands over, and adds what it brings. -/
lemma append (hp : Progress mailbox folder t token waiting pending) {e : Event}
    (hquiet : ¬ e.1.WritesToken) (hunfailed : ¬ CrawlFails e)
    (hlast : lastToken (t ++ [e]) = token')
    (hasked : waiting ++ ([e].filterMap listed?).flatMap IdPage.ids =
      ([e].filterMap asked?).flatten ++ waiting')
    (hhanded : pending ++ ([e].filterMap fetched?).flatten.map (Record.ofItem? · mailbox folder) =
      ([e].filterMap yielded?).map some ++ pending') :
    Progress mailbox folder (t ++ [e]) token' waiting' pending' where
  quiet := List.forall_mem_append.2 ⟨hp.quiet, List.forall_mem_singleton.2 hquiet⟩
  unfailed := List.forall_mem_append.2 ⟨hp.unfailed, List.forall_mem_singleton.2 hunfailed⟩
  last := hlast
  asked := by
    rw [List.filterMap_append, List.flatten_append, List.append_assoc, ← hasked,
      ← List.append_assoc, hp.asked, List.filterMap_append, List.flatMap_append]
  handed := by
    rw [List.filterMap_append, List.flatten_append, List.map_append, hp.handed, List.append_assoc,
      hhanded, ← List.append_assoc, List.filterMap_append, List.map_append]

/-- The token is read. -/
lemma read (stored : Option String) : Progress mailbox folder
    [⟨.readToken mailbox folder, .ok stored⟩] (Text.nonEmpty stored) [] [] := by
  refine nil.append (e := ⟨.readToken mailbox folder, .ok stored⟩) id id ?_ rfl rfl
  have hpages : [(⟨.readToken mailbox folder, .ok stored⟩ : Event)].filterMap listed? = [] := rfl
  have hseed : [(⟨.readToken mailbox folder, .ok stored⟩ : Event)].findSome? seed? =
      Text.nonEmpty stored := List.findSome?_singleton
  rw [List.nil_append, lastToken, hpages, hseed]
  exact Option.none_or

/-- A page is listed. -/
lemma list (hp : Progress mailbox folder t token [] []) (request : PageRequest) (page : IdPage) :
    Progress mailbox folder (t ++ [⟨.listItems request, .ok page⟩])
      ((Text.nonEmpty page.token).or token) page.ids [] := by
  refine hp.append (e := ⟨.listItems request, .ok page⟩) id id ?_ (List.append_nil _) rfl
  have hpages : (t ++ [(⟨.listItems request, .ok page⟩ : Event)]).filterMap listed? =
      t.filterMap listed? ++ [page] := List.filterMap_append
  have hseed : [(⟨.listItems request, .ok page⟩ : Event)].findSome? seed? = none := rfl
  have hlast := hp.last
  unfold lastToken at hlast ⊢
  rw [hpages, List.findSome?_append, hseed, Option.or_none, List.filterMap_append,
    List.getLast?_append]
  cases hkept : Text.nonEmpty page.token with
  | none => simpa [hkept] using hlast
  | some token => simp [hkept]

/-- A note is written. -/
lemma note (hp : Progress mailbox folder t token waiting pending) (n : Note) :
    Progress mailbox folder (t ++ [⟨.note n, ()⟩]) token waiting pending :=
  hp.append id id ((lastToken_append rfl rfl).trans hp.last) (List.append_nil _)
    (List.append_nil _)

/-- A batch of items comes back. -/
lemma fetch {ids : List ItemId} (hp : Progress mailbox folder t token (ids ++ waiting) [])
    (items : List Item) :
    Progress mailbox folder (t ++ [⟨.fetchItems mailbox ids, .ok items⟩]) token waiting
      (items.map (Record.ofItem? · mailbox folder)) := by
  refine hp.append id id ((lastToken_append rfl rfl).trans hp.last) ?_ ?_
  · exact (List.append_nil _).trans (congrArg (· ++ waiting) (List.append_nil ids).symm)
  · exact congrArg (List.map _) (List.append_nil items)

/-- A record is handed over. -/
lemma hand {record : Record}
    (hp : Progress mailbox folder t token waiting (some record :: pending))
    (reply : Except Failure Unit) :
    Progress mailbox folder (t ++ [⟨.store record, reply⟩]) token waiting pending :=
  hp.append id id ((lastToken_append rfl rfl).trans hp.last) (List.append_nil _)
    (List.append_nil _)

/-- While no token is written, everything is as it should be. -/
lemma commitsLast (hp : Progress mailbox folder t token waiting pending) (config : Config) :
    CommitsLast config mailbox folder t := .inl hp.quiet

/-- A call that writes no token, be it one that fails, leaves everything as it should be. -/
lemma commitsLast_append (hp : Progress mailbox folder t token waiting pending) (config : Config)
    {e : Event} (he : ¬ e.1.WritesToken) : CommitsLast config mailbox folder (t ++ [e]) :=
  .inl (List.forall_mem_append.2 ⟨hp.quiet, List.forall_mem_singleton.2 he⟩)

/-- When nothing is open and the last page was short, the token may be written. -/
lemma settled {config : Config} {text : String}
    (hp : Progress mailbox folder t (some text) [] [])
    (hshort : ∃ page ∈ t.filterMap listed?, page.entries < config.idPageSize) {after : List Event}
    (hafter : ∀ e ∈ after, ∃ n, e = ⟨.note n, ()⟩) :
    Settled config mailbox folder t text after where
  once := by
    refine List.forall_mem_append.2 ⟨hp.quiet, fun e he => ?_⟩
    obtain ⟨n, rfl⟩ := hafter e he
    exact id
  unfailed := by
    refine List.forall_mem_append.2 ⟨hp.unfailed, fun e he => ?_⟩
    obtain ⟨n, rfl⟩ := hafter e he
    exact id
  shortPage := hshort
  silent := hafter
  asked := by rw [← hp.asked, List.append_nil]
  handed := by rw [hp.handed, List.append_nil]
  last := hp.last
  nonempty := lastToken_ne_empty hp.last

end Progress

/-! ### Along the plain loop -/

/-- The last token, if there is one, has been stored. -/
def Stored (mailbox : String) (folder : FolderId) (t : List Event) : Prop :=
  ∀ token, lastToken t = some token → ⟨.writeToken mailbox folder token, .ok ()⟩ ∈ t

/-- A folder was crawled to its end, with these calls. -/
structure Exhausted (config : Config) (mailbox : String) (folder : FolderId) (t : List Event) :
    Prop where
  /-- Nothing has failed, nor has a write of a token. -/
  unfailed : ∀ e ∈ t, ¬ CrawlFails e ∧
    ∀ m f token failure, e ≠ ⟨.writeToken m f token, .error failure⟩
  /-- A page was listed that is shorter than a full page. -/
  shortPage : ∃ page ∈ t.filterMap listed?, page.entries < config.idPageSize
  /-- The ids of all pages were asked for. -/
  asked : (t.filterMap asked?).flatten = (t.filterMap listed?).flatMap IdPage.ids
  /-- The records of all items were handed over. -/
  handed : (t.filterMap fetched?).flatten.map (Record.ofItem? · mailbox folder) =
    (t.filterMap yielded?).map some
  /-- The last token, if there is one, has been stored. -/
  stored : Stored mailbox folder t

/-- When nothing is open, the last page was short and the last token is stored, the folder was
crawled to its end. -/
lemma Progress.exhausted {config : Config} {mailbox : String} {folder : FolderId} {t : List Event}
    {token : Option String} (hp : Progress mailbox folder t token [] [])
    (hshort : ∃ page ∈ t.filterMap listed?, page.entries < config.idPageSize) {after : List Event}
    (hafter : ∀ e ∈ after, (∃ n, e = ⟨.note n, ()⟩) ∨
      ∃ text, e = ⟨.writeToken mailbox folder text, .ok ()⟩)
    (hstored : Stored mailbox folder (t ++ after)) :
    Exhausted config mailbox folder (t ++ after) := by
  have hnothing : ∀ {γ : Type} (observed : Event → Option γ),
      (∀ n, observed ⟨.note n, ()⟩ = none) →
      (∀ text, observed ⟨.writeToken mailbox folder text, .ok ()⟩ = none) →
      (t ++ after).filterMap observed = t.filterMap observed := by
    intro γ observed hnote hwrite
    have hnone : after.filterMap observed = [] := by
      refine List.filterMap_eq_nil_iff.2 fun e he => ?_
      rcases hafter e he with ⟨n, rfl⟩ | ⟨text, rfl⟩
      · exact hnote n
      · exact hwrite text
    rw [List.filterMap_append, hnone, List.append_nil]
  have hlisted := hnothing listed? (fun _ => rfl) fun _ => rfl
  have hasked := hnothing asked? (fun _ => rfl) fun _ => rfl
  have hfetched := hnothing fetched? (fun _ => rfl) fun _ => rfl
  have hyielded := hnothing yielded? (fun _ => rfl) fun _ => rfl
  refine ⟨List.forall_mem_append.2 ⟨fun e he => ⟨hp.unfailed e he, ?_⟩, fun e he => ?_⟩, ?_, ?_, ?_,
    hstored⟩
  · rintro m f text failure rfl
    exact hp.quiet _ he trivial
  · rcases hafter e he with ⟨n, rfl⟩ | ⟨text, rfl⟩
    · exact ⟨id, fun _ _ _ _ h => by cases h⟩
    · exact ⟨id, fun _ _ _ _ h => by cases h⟩
  · rwa [hlisted]
  · rw [hlisted, hasked, ← hp.asked, List.append_nil]
  · rw [hfetched, hyielded, hp.handed, List.append_nil]

section Loop

variable {config : Config} {mailbox : String} {folder : FolderId} {t : List Event}
  {token : Option String} {waiting : List ItemId}

/-- Anything may happen to the crawl of a folder. -/
abbrev anything : List Event → Event → Prop := fun _ _ => True

/-- Records are handed over one after the other. -/
lemma hand_progress {records : List Record}
    (hp : Progress mailbox folder t token waiting (records.map some)) :
    (records.forM hand).Upholds anything (CommitsLast config mailbox folder)
      (fun _ t => Progress mailbox folder t token waiting []) t := by
  induction records generalizing t with
  | nil => exact ⟨hp.commitsLast config, hp⟩
  | cons record records ih =>
    rw [List.forM_eq_forM, List.forM_cons, Program.upholds_bind]
    exact ⟨hp.commitsLast config, fun reply _ =>
      ⟨(hp.hand reply).commitsLast config, ih (hp.hand reply)⟩⟩

/-- A batch of ids is asked for, and its records are handed over. -/
lemma batch_progress {ids : List ItemId}
    (hp : Progress mailbox folder t token (ids ++ waiting) []) :
    (batch mailbox folder ids).Upholds anything (CommitsLast config mailbox folder) (fun _ => True)
      (fun _ t => Progress mailbox folder t token waiting []) t := by
  rw [batch, upholds_bind, upholds_tried]
  refine ⟨hp.commitsLast config, fun reply _ => ⟨hp.commitsLast_append config id, ?_⟩⟩
  cases reply with
  | error failure => trivial
  | ok items =>
    have hfetched := hp.fetch items
    have hnoted := hfetched.note (.itemsFetched items.length ids.length folder mailbox)
    refine upholds_bind.2 (upholds_noting.2 ⟨hfetched.commitsLast config, fun _ => ?_⟩)
    refine ⟨hnoted.commitsLast config, upholds_bind.2 (upholds_lift.2 ?_)⟩
    refine ((recordsOf_within _ mailbox folder items).upholds_silent
      (hnoted.commitsLast config)).mono (fun _ hinv => hinv) ?_
    rintro records _ - ⟨rfl, hrecords⟩
    rw [hrecords] at hnoted
    exact upholds_lift.2 (hand_progress hnoted)

/-- The batches of a page leave nothing open. -/
lemma batches_progress {batches : List (List ItemId)} (hbatches : batches.flatten = waiting)
    (hp : Progress mailbox folder t token waiting []) :
    (batches.forM (batch mailbox folder)).Upholds anything (CommitsLast config mailbox folder)
      (fun _ => True) (fun _ t => Progress mailbox folder t token [] []) t := by
  induction batches generalizing t waiting with
  | nil =>
    cases hbatches
    exact ⟨hp.commitsLast config, hp⟩
  | cons ids batches ih =>
    cases hbatches
    rw [List.forM_eq_forM, List.forM_cons, upholds_bind]
    exact (batch_progress hp).mono fun _ _ _ hp => ih rfl hp

/-- When nothing is open and the last page was short, storing the last token ends the folder. -/
lemma commit_progress (number : ℕ) (hp : Progress mailbox folder t token [] [])
    (hshort : ∃ page ∈ t.filterMap listed?, page.entries < config.idPageSize) :
    (commit mailbox folder number token).Upholds anything (CommitsLast config mailbox folder)
      (fun _ => True) (fun _ => Exhausted config mailbox folder) t := by
  cases token with
  | none =>
    have hstored : Stored mailbox folder (t ++ []) := by
      intro text htext
      rw [List.append_nil, hp.last] at htext
      cases htext
    have hexhausted := hp.exhausted hshort (by simp) hstored
    rw [List.append_nil] at hexhausted
    exact upholds_pure.2 ⟨hp.commitsLast config, hexhausted⟩
  | some text =>
    rw [commit, upholds_bind, upholds_tried]
    have hsettled : ∀ reply (notes : List Note), CommitsLast config mailbox folder
        (t ++ ⟨.writeToken mailbox folder text, reply⟩ :: notes.map fun n => ⟨.note n, ()⟩) := by
      intro reply notes
      refine .inr ⟨t, text, reply, _, rfl, hp.settled hshort fun e he => ?_⟩
      obtain ⟨n, -, rfl⟩ := List.mem_map.1 he
      exact ⟨n, rfl⟩
    refine ⟨hp.commitsLast config, fun reply _ => ⟨hsettled reply [], ?_⟩⟩
    cases reply with
    | error failure => trivial
    | ok _ =>
      refine upholds_noting.2 ⟨hsettled (.ok ()) [], fun _ => ?_⟩
      rw [List.append_assoc]
      refine ⟨hsettled (.ok ()) [.tokenWritten folder mailbox number], hp.exhausted hshort ?_ ?_⟩
      · simp
      · intro token htoken
        rw [lastToken_append rfl rfl, hp.last] at htoken
        cases htoken
        simp

/-- The pages of a folder are crawled until a short one, and then its crawl has come to its end. -/
lemma pages_progress (changedSince : Option Instant) (bound offset number : ℕ)
    (hp : Progress mailbox folder t token [] []) :
    (pages config mailbox folder changedSince bound token offset number).Upholds anything
      (CommitsLast config mailbox folder) (fun _ => True)
      (fun _ => Exhausted config mailbox folder) t := by
  induction bound generalizing t token offset number with
  | zero => exact upholds_throw.2 ⟨hp.commitsLast config, trivial⟩
  | succ bound ih =>
    rw [pages, upholds_bind, upholds_tried]
    refine ⟨hp.commitsLast config, fun reply _ => ⟨hp.commitsLast_append config id, ?_⟩⟩
    cases reply with
    | error failure => trivial
    | ok page =>
      have hlisted := fun request => hp.list request page
      have hnoted := fun request => (hlisted request).note (.pageListed (number + 1) folder mailbox
        page.ids.length page.entries page.saysLast)
      refine upholds_bind.2 (upholds_noting.2 ⟨(hlisted _).commitsLast config, fun _ => ?_⟩)
      refine ⟨(hnoted _).commitsLast config, upholds_bind.2 ?_⟩
      refine (batches_progress (flatten_pieces config.detailPageSize page.ids)
        (hnoted _)).extends.mono ?_
      rintro _ t' - ⟨hbegins, hp'⟩
      split
      · rename_i hshort
        refine commit_progress _ hp' ⟨page, (hbegins.filterMap listed?).subset ?_, hshort⟩
        simp [listed?]
      · exact ih _ _ hp'

/-- The crawl of a folder stores the last token, only when nothing is open, and comes to its end. -/
theorem folder_progress (bound : ℕ) (changedSince : Option Instant) :
    (Plain.folder config bound mailbox changedSince folder).Upholds anything
      (CommitsLast config mailbox folder) (fun _ => True)
      (fun _ => Exhausted config mailbox folder) [] := by
  have hnil : Progress mailbox folder [] none [] [] := .nil
  cases hmode : config.mode with
  | syncToken =>
    simp only [Plain.folder, hmode]
    rw [upholds_bind, upholds_tried]
    refine ⟨hnil.commitsLast config, fun reply _ => ⟨hnil.commitsLast_append config id, ?_⟩⟩
    cases reply with
    | error failure => trivial
    | ok stored => exact pages_progress changedSince bound 0 0 (.read stored)
  | lastSynced =>
    simp only [Plain.folder, hmode]
    exact pages_progress changedSince bound 0 0 hnil

end Loop

/-! ### Openings of folders in a crawl -/

/-- The calls that were made for a folder from its opening on. -/
structure Opening where
  mailbox : String
  folder : FolderId
  changedSince : Option Instant
  events : List Event

/-- The crawl of the folder that is opened. -/
def Opening.program (config : Config) (bound : ℕ) (o : Opening) : Program (Except Halt Unit) :=
  (Plain.folder config bound o.mailbox o.changedSince o.folder).run

/-- The token of an opened folder is written once, and last. -/
structure CommitsOnce (config : Config) (bound : ℕ) (o : Opening) : Prop where
  /-- The calls are those of the crawl of the folder. -/
  crawls : (o.program config bound).Makes o.events
  /-- At most one token is written, when everything is settled. -/
  last : CommitsLast config o.mailbox o.folder o.events
  /-- Where no token was seen none is written. -/
  untouched : lastToken o.events = none → ∀ e ∈ o.events, ¬ e.1.WritesToken
  /-- After a failure no token is written, and the stored one is what it was before. -/
  failed : (∃ e ∈ o.events, CrawlFails e) → (∀ e ∈ o.events, ¬ e.1.WritesToken) ∧
    ∀ h, storedToken (h ++ o.events) o.mailbox o.folder = storedToken h o.mailbox o.folder
  /-- If the crawl of the folder came to its end, the last token has been stored. -/
  stored : (o.program config bound).Finishes o.events (.ok ()) →
    Stored o.mailbox o.folder o.events

section Opening

variable {config : Config} {bound : ℕ}

/-- Where no token was seen none is written. -/
lemma CommitsLast.untouched {mailbox : String} {folder : FolderId} {t : List Event}
    (ht : CommitsLast config mailbox folder t) (hnone : lastToken t = none) :
    ∀ e ∈ t, ¬ e.1.WritesToken := by
  rcases ht with hquiet | ⟨before, token, reply, after, rfl, hsettled⟩
  · exact hquiet
  · have hnothing : ∀ e ∈ ⟨.writeToken mailbox folder token, reply⟩ :: after,
        listed? e = none ∧ seed? e = none := by
      refine List.forall_mem_cons.2 ⟨⟨rfl, rfl⟩, fun e he => ?_⟩
      obtain ⟨n, rfl⟩ := hsettled.silent e he
      exact ⟨rfl, rfl⟩
    rw [lastToken_append (List.filterMap_eq_nil_iff.2 fun e he => (hnothing e he).1)
      (List.findSome?_eq_none_iff.2 fun e he => (hnothing e he).2), hsettled.last] at hnone
    cases hnone

/-- After a failure no token is written. -/
lemma CommitsLast.failed {mailbox : String} {folder : FolderId} {t : List Event}
    (ht : CommitsLast config mailbox folder t) (hfailed : ∃ e ∈ t, CrawlFails e) :
    ∀ e ∈ t, ¬ e.1.WritesToken := by
  rcases ht with hquiet | ⟨before, token, reply, after, rfl, hsettled⟩
  · exact hquiet
  · obtain ⟨e, he, hfails⟩ := hfailed
    rcases List.mem_append.1 he with he | he
    · exact absurd hfails (hsettled.unfailed e (List.mem_append_left _ he))
    · rcases List.mem_cons.1 he with rfl | he
      · exact hfails.elim
      · exact absurd hfails (hsettled.unfailed e (List.mem_append_right _ he))

/-- An opening whose calls are as they should be. -/
lemma CommitsLast.commitsOnce {o : Opening} (hmakes : (o.program config bound).Makes o.events)
    (hlast : CommitsLast config o.mailbox o.folder o.events) : CommitsOnce config bound o where
  crawls := hmakes
  last := hlast
  untouched := hlast.untouched
  failed hfailed := ⟨hlast.failed hfailed, fun _ => storedToken_append (hlast.failed hfailed)⟩
  stored hfinishes :=
    (Program.Upholds.finishes (folder_progress bound o.changedSince) hfinishes).stored

end Opening

/-! ### The main result -/

/-- A part of a crawl: an opening of a folder, or a call around the folders. -/
inductive Part where
  | around (e : Event)
  | opening (o : Opening)

/-- The calls of a part. -/
def Part.events : Part → List Event
  | around e => [e]
  | opening o => o.events

/-- A history consists of parts, and in each opening the token of the folder is written once, and
last. -/
structure Consists (config : Config) (bound : ℕ) (parts : List Part) (h : List Event) : Prop where
  events : h = parts.flatMap Part.events
  around : ∀ e, .around e ∈ parts → e.1.AroundFolders
  opening : ∀ o, .opening o ∈ parts → CommitsOnce config bound o

/-- The crawls of the folders that are opened in some parts have ended. -/
def Closed (config : Config) (bound : ℕ) (parts : List Part) : Prop :=
  ∀ o, .opening o ∈ parts → ∃ result, (o.program config bound).Finishes o.events result

section Parts

variable {config : Config} {bound : ℕ} {parts : List Part} {h : List Event}

lemma Closed.dropLast (hparts : Closed config bound parts) : Closed config bound parts.dropLast :=
  fun o ho => hparts o ((List.dropLast_sublist parts).subset ho)

/-- One more call around the folders. -/
lemma Consists.append_around (hparts : Consists config bound parts h) {e : Event}
    (he : e.1.AroundFolders) : Consists config bound (parts ++ [.around e]) (h ++ [e]) where
  events := by simp [hparts.events, Part.events]
  around e' he' := by
    rcases List.mem_append.1 he' with he' | he'
    · exact hparts.around e' he'
    · cases List.mem_singleton.1 he'
      exact he
  opening o ho := hparts.opening o ((List.mem_append.1 ho).resolve_right (by simp))

/-- One more opening. -/
lemma Consists.append_opening (hparts : Consists config bound parts h) {o : Opening}
    (ho : CommitsOnce config bound o) :
    Consists config bound (parts ++ [.opening o]) (h ++ o.events) where
  events := by simp [hparts.events, Part.events]
  around e he := hparts.around e ((List.mem_append.1 he).resolve_right (by simp))
  opening o' ho' := by
    rcases List.mem_append.1 ho' with ho' | ho'
    · exact hparts.opening o' ho'
    · cases List.mem_singleton.1 ho'
      exact ho

/-- The plain loop consists of such parts at every moment, and all openings but the last one have
ended. -/
theorem mailboxes_consists (names : List String) :
    (mailboxes config bound names).Upholds anything
      (fun h => ∃ parts, Consists config bound parts h ∧ Closed config bound parts.dropLast)
      (fun _ h => ∃ parts, Consists config bound parts h ∧ Closed config bound parts) [] := by
  refine mailboxes_upholds ?_ ?_ ?_ names ⟨[], ⟨rfl, by simp, by simp⟩, by simp [Closed]⟩
  · rintro h ⟨parts, hparts, hclosed⟩
    exact ⟨parts, hparts, hclosed.dropLast⟩
  · rintro h e he ⟨parts, hparts, hclosed⟩
    refine ⟨_, hparts.append_around he, fun o ho => hclosed o ?_⟩
    exact (List.mem_append.1 ho).resolve_right (by simp)
  · rintro name changedSince f h ⟨parts, hparts, hclosed⟩
    have hmakes : Program.Upholds anything _ _
      (Plain.folder config bound name changedSince f).run [] := Program.upholds_makes _ []
    have hfolder : Program.Upholds anything _ _ _ (h ++ []) :=
      ((folder_progress bound changedSince).and hmakes).after h
    rw [List.append_nil] at hfolder
    refine Program.Upholds.mono hfolder ?_ ?_
    · rintro _ ⟨t, rfl, hlast, _, rfl, hmade⟩
      refine ⟨_, hparts.append_opening (o := ⟨name, f, changedSince, t⟩)
        (hlast.commitsOnce hmade), ?_⟩
      rwa [List.dropLast_concat]
    · rintro result _ ⟨t, rfl, hlast, _, rfl, hmade⟩ ⟨u, hu, -, _, rfl, hended⟩
      cases List.append_cancel_left hu
      have hopening : ∃ parts', Consists config bound parts' (h ++ t) ∧
          Closed config bound parts' := by
        refine ⟨_, hparts.append_opening (o := ⟨name, f, changedSince, t⟩)
          (hlast.commitsOnce hmade), fun o ho => ?_⟩
        rcases List.mem_append.1 ho with ho | ho
        · exact hclosed o ho
        · cases List.mem_singleton.1 ho
          exact ⟨result, hended⟩
      cases result with
      | ok _ => exact hopening
      | error halt => exact hopening

end Parts

/-- At any moment while some mailboxes are pulled from, the calls so far consist of openings of
folders and of calls around them.  In each opening the token of the folder is written once, and
last; all openings but the last one have ended. -/
theorem Roster.pulls_commit_once {σ : Type} (world : World σ) (config : Config)
    (names : List String) (fuel count moment : ℕ) (s : σ) :
    ∃ parts, Consists config (count * fuel) parts
        (((pulls config fuel count (start names)).trace world s).take moment) ∧
      Closed config (count * fuel) parts.dropLast := by
  have hbegins : ((pulls config fuel count (start names)).trace world s).take moment <+:
      (mailboxes config (count * fuel) names).trace world s :=
    (List.take_prefix moment _).trans
      ((pulls_start_begins config (Nat.le_refl _) names).trace_isPrefix world s)
  have hparts := (mailboxes_consists names).trace hbegins (admits_true [] _)
  rwa [List.nil_append] at hparts

end MailCollector.Crawl
