import MailCollector.Proofs.Crawl.Calls
import MailCollector.Proofs.Crawl.Crashes
import MailCollector.Proofs.Crawl.Flattening
import MailCollector.Proofs.Program.Safety

/-!
# The batches of a page

The items of a page are fetched batch by batch.  Whatever the replies are, the batches that were
asked for are the first pieces of the list of ids, only the last of them can have failed, and the
pulls say the records of the replies in order, then the failure if there was one, and then the end
(`pulls_fetch_pieces`).  The end comes when all ids were asked for or a call failed, never because
a reply was short.  Once a call has failed, the pulls are over, and what the calls before it brought
stays said (`PageCrawl.pulls_of_failure`).

At every moment the calls so far and the state of the crawl fit together (`Account`).  A turn keeps
this, and so do pulls.  That the pulls come to an end is a matter of the state alone: each turn
leaves fewer ids waiting, or fewer records of the batch that is being drained (`PageCrawl.Nearer`).
-/

namespace MailCollector.Crawl

open MailCollector.Mail MailCollector.Log Program

variable {σ : Type}

/-! ### Pieces of a list -/

section Pieces

variable {α : Type} {n : ℕ}

/-- The first piece of a list is its beginning, and the others are the pieces of the rest. -/
lemma pieces_of_ne_nil (hn : 0 < n) {as : List α} (has : as ≠ []) :
    pieces n as = as.take n :: pieces n (as.drop n) := by
  obtain ⟨a, as, rfl⟩ := List.exists_cons_of_ne_nil has
  exact pieces_cons hn a as

/-- All pieces of a list but the last have full length. -/
lemma length_of_mem_dropLast_pieces (hn : 0 < n) {as piece : List α}
    (hpiece : piece ∈ (pieces n as).dropLast) : piece.length = n := by
  fun_induction pieces n as with
  | case1 => exact absurd hpiece List.not_mem_nil
  | case2 a as ih =>
    -- The last piece is not meant, so something is left behind the first one.
    have hmore : pieces n (as.drop (n - 1)) ≠ [] := by
      intro hnil
      rw [hnil] at hpiece
      exact List.not_mem_nil hpiece
    have hlong : n - 1 ≤ as.length := by
      by_contra hshort
      have hdrop : as.drop (n - 1) = [] := List.drop_eq_nil_of_le (Nat.le_of_not_le hshort)
      rw [hdrop, pieces] at hmore
      exact hmore rfl
    rw [List.dropLast_cons_of_ne_nil hmore] at hpiece
    rcases List.mem_cons.1 hpiece with rfl | hpiece
    · rw [List.length_cons, List.length_take, Nat.min_eq_left hlong]
      omega
    · exact ih hpiece

/-- The number of pieces of a list is its length divided by theirs, rounded up. -/
lemma length_pieces (hn : 0 < n) (as : List α) :
    (pieces n as).length = (as.length + n - 1) / n := by
  fun_induction pieces n as with
  | case1 =>
    rw [List.length_nil, List.length_nil, Nat.zero_add,
      Nat.div_eq_of_lt (Nat.sub_lt hn Nat.one_pos)]
  | case2 a as ih =>
    rw [List.length_cons, ih, List.length_drop, List.length_cons]
    by_cases hlong : n - 1 ≤ as.length
    · have hsum : as.length + 1 + n - 1 = as.length - (n - 1) + n - 1 + n := by omega
      rw [hsum, Nat.add_div_right _ hn]
    · have hnone : as.length - (n - 1) + n - 1 < n := by omega
      have hone : (as.length + 1 + n - 1) / n = 1 := Nat.div_eq_of_lt_le (by omega) (by omega)
      rw [Nat.div_eq_of_lt hnone, hone]

end Pieces

/-! ### Calls for items -/

/-- A call for items with its reply. -/
structure Fetch where
  mailbox : String
  ids : List ItemId
  reply : Except Failure (List Item)

/-- The call for items that an event is, if it is one. -/
def fetch? : Event → Option Fetch
  | ⟨.fetchItems mailbox ids, reply⟩ => some ⟨mailbox, ids, reply⟩
  | _ => none

/-- The calls for items in a history. -/
def fetches (h : List Event) : List Fetch := h.filterMap fetch?

namespace Fetch

/-- Whether the call succeeds. -/
def succeeds (f : Fetch) : Bool :=
  match f.reply with
  | .ok _ => true
  | .error _ => false

/-- Whether all items that came back have date lines that can be written, if they have any. -/
def datable (f : Fetch) : Bool :=
  match f.reply with
  | .ok items => items.all Crawl.datable
  | .error _ => true

/-- What the call adds to the records of a folder: those of the items that came back, or the failure
of the call. -/
def yields (folder : FolderId) (f : Fetch) : List (Except Failure Record) :=
  match f.reply with
  | .ok items => (items.filterMap (Record.ofItem? · f.mailbox folder)).map .ok
  | .error failure => [.error (failure.during (.fetchingItems f.ids.length folder f.mailbox))]

end Fetch

/-- Whether an item without a record came back is a matter of date lines. -/
lemma exists_fetched_undatable_iff (t : List Event) (mailbox : String) (folder : FolderId) :
    (∃ items ∈ t.filterMap fetched?, ∃ item ∈ items, datable item = false) ↔
      ∃ items ∈ t.filterMap fetched?, ∃ item ∈ items,
        Record.ofItem? item mailbox folder = none := by
  simp only [ofItem?_eq_none_iff]

/-! ### Pulls from a page -/

namespace PageCrawl

/-- The ids that wait count twice, once for the call and once for the end of the batch. -/
def effort (c : PageCrawl) : ℕ :=
  2 * c.remaining +
    match c.phase with
    | .draining _ => 1
    | .between | .exhausted => 0

/-- The records of the batch that is being drained. -/
def loaded (c : PageCrawl) : List Record :=
  match c.phase with
  | .draining records => records
  | .between | .exhausted => []

/-- A number of turns after which a pull has said something. -/
def patience (c : PageCrawl) : ℕ := c.effort + 1

/-- The next record of a page. -/
def next (config : Config) (c : PageCrawl) : Program (Turn Failure Record PageCrawl) :=
  pull (turn config) c.patience c

/-- Pulls a number of times: what was said, and the state afterwards. -/
def pulls (config : Config) :
    (count : ℕ) → PageCrawl →
      Program (List (Option (Option (Except Failure Record))) × PageCrawl)
  | 0, c => pure ([], c)
  | count + 1, c => do
    let said ← next config c
    let (others, c) ← pulls config count said.rest
    pure (said.said? :: others, c)

/-- An exhausted page says that it has ended, whatever is pulled. -/
lemma pulls_exhausted (config : Config) (count : ℕ) (source : Batches) :
    pulls config count ⟨source, .exhausted⟩ =
      .done (List.replicate count (some none), ⟨source, .exhausted⟩) := by
  induction count with
  | zero => rfl
  | succ count ih =>
    have hnext : next config ⟨source, .exhausted⟩ = .done (.ended ⟨source, .exhausted⟩) := rfl
    rw [pulls, hnext, done_bind]
    change (pulls config count ⟨source, .exhausted⟩ >>= _) = _
    rw [ih]
    rfl

/-! ### The end comes nearer -/

/-- A page is nearer to its end than another one: less effort is left, or fewer records of the same
batch. -/
def Nearer (c' c : PageCrawl) : Prop :=
  c'.effort < c.effort ∨ c'.effort = c.effort ∧ c'.loaded.length < c.loaded.length

/-- What turns do to the way that is left. -/
def Paces (c : PageCrawl) : Turn Failure Record PageCrawl → Prop
  | .value _ c' => c'.Nearer c
  | .failed _ c' | .ended c' => c'.phase = .exhausted
  | .working c' => c'.effort < c.effort

lemma turn_paces (config : Config) (c : PageCrawl) :
    (c.turn config).Within (fun _ => True) c.Paces := by
  obtain ⟨⟨mailbox, folder, waiting⟩, phase⟩ := c
  cases phase with
  | exhausted => exact rfl
  | draining records =>
    cases records with
    | nil => exact Nat.lt_succ_self _
    | cons record records => exact .inr ⟨rfl, Nat.lt_succ_self _⟩
  | between =>
    cases waiting with
    | nil => exact rfl
    | cons id ids =>
      refine ⟨trivial, fun reply => ?_⟩
      cases reply with
      | error failure => exact rfl
      | ok items =>
        refine ⟨trivial, fun _ => ?_⟩
        have hsupplied : (recordsOf mailbox folder items >>= fun records => pure
            (.value records ⟨mailbox, folder, (id :: ids).drop config.detailPageSize⟩) :
              Program (Turn Failure (List Record) Batches)).Within (fun _ => True) fun said =>
            ∃ records, said =
              .value records ⟨mailbox, folder, (id :: ids).drop config.detailPageSize⟩ :=
          (recordsOf_within _ mailbox folder items).bind fun records _ => ⟨records, rfl⟩
        refine hsupplied.bind ?_
        rintro _ ⟨records, rfl⟩
        have hpos := config.detailPageSize_pos
        change 2 * ((id :: ids).drop config.detailPageSize).length + 1 < 2 * (id :: ids).length + 0
        rw [List.length_drop, List.length_cons]
        omega

/-- A pull says something and brings the end nearer. -/
lemma next_paces (config : Config) (c : PageCrawl) :
    (c.next config).Within (fun _ => True) fun said =>
      c.Paces said ∧ ∀ c', said ≠ .working c' := by
  suffices hpull : ∀ fuel (c' : PageCrawl), c'.effort < fuel → c'.effort ≤ c.effort →
      (c' = c ∨ c'.effort < c.effort) →
      (pull (turn config) fuel c').Within (fun _ => True) fun said =>
        c.Paces said ∧ ∀ c', said ≠ .working c' from
    hpull _ c (Nat.lt_succ_self _) (Nat.le_refl _) (.inl rfl)
  intro fuel
  induction fuel with
  | zero => exact fun c' hfuel => absurd hfuel (Nat.not_lt_zero _)
  | succ fuel ih =>
    intro c' hfuel hle hfrom
    refine (turn_paces config c').bind fun said hsaid => ?_
    cases said with
    | value record c'' =>
      refine ⟨?_, nofun⟩
      rcases hfrom with rfl | hless
      · exact hsaid
      · rcases hsaid with hnearer | ⟨hequal, -⟩
        · exact .inl (Nat.lt_trans hnearer hless)
        · exact .inl (hequal ▸ hless)
    | failed failure c'' => exact ⟨hsaid, nofun⟩
    | ended c'' => exact ⟨hsaid, nofun⟩
    | working c'' =>
      have hless : c''.effort < c'.effort := hsaid
      exact ih c'' (by omega) (by omega) (.inr (by omega))

end PageCrawl

/-! ### The calls so far -/

section Account

/-- All calls so far succeeded, and they leave these ids of the page waiting.  All items that came
back have records. -/
structure Fetched (size : ℕ) (page : Batches) (h : List Event) (waiting : List ItemId) : Prop where
  mailbox : ∀ f ∈ fetches h, f.mailbox = page.mailbox
  succeeds : ∀ f ∈ fetches h, f.succeeds = true
  datable : ∀ f ∈ fetches h, f.datable = true
  ids : (fetches h).map (·.ids) ++ pieces size waiting = pieces size page.waiting

/-- The calls so far are for the first batches of the page, and all but the last have succeeded and
brought items that have records. -/
structure FetchesPieces (size : ℕ) (page : Batches) (h : List Event) : Prop where
  mailbox : ∀ f ∈ fetches h, f.mailbox = page.mailbox
  succeeds : ∀ f ∈ (fetches h).dropLast, f.succeeds = true
  datable : ∀ f ∈ (fetches h).dropLast, f.datable = true
  ids : (fetches h).map (·.ids) <+: pieces size page.waiting

variable {config : Config} {page : Batches} {h : List Event} {waiting : List ItemId}
  {taken : List (Except Failure Record)}

@[simp] lemma fetches_nil : fetches [] = [] := rfl

lemma fetches_append (h t : List Event) : fetches (h ++ t) = fetches h ++ fetches t :=
  List.filterMap_append

lemma fetches_append_fetch (h : List Event) (mailbox : String) (ids : List ItemId)
    (reply : Except Failure (List Item)) :
    fetches (h ++ [⟨.fetchItems mailbox ids, reply⟩]) = fetches h ++ [⟨mailbox, ids, reply⟩] :=
  fetches_append _ _

lemma fetches_append_note (h : List Event) (n : Note) :
    fetches (h ++ [⟨.note n, ()⟩]) = fetches h := by
  rw [fetches_append]
  exact List.append_nil _

lemma Fetched.fetchesPieces {size : ℕ} (hfetched : Fetched size page h waiting) :
    FetchesPieces size page h where
  mailbox := hfetched.mailbox
  succeeds f hf := hfetched.succeeds f ((List.dropLast_subset _) hf)
  datable f hf := hfetched.datable f ((List.dropLast_subset _) hf)
  ids := ⟨_, hfetched.ids⟩

lemma FetchesPieces.note {size : ℕ} (hpieces : FetchesPieces size page h) (n : Note) :
    FetchesPieces size page (h ++ [⟨.note n, ()⟩]) := by
  obtain ⟨hmailbox, hsucceeds, hdatable, hids⟩ := hpieces
  constructor <;> rwa [fetches_append_note]

lemma Fetched.note {size : ℕ} (hfetched : Fetched size page h waiting) (n : Note) :
    Fetched size page (h ++ [⟨.note n, ()⟩]) waiting := by
  obtain ⟨hmailbox, hsucceeds, hdatable, hids⟩ := hfetched
  constructor <;> rwa [fetches_append_note]

/-- The next call is for the next batch, whatever comes of it. -/
lemma Fetched.fetchesPieces_fetch (hfetched : Fetched config.detailPageSize page h waiting)
    (hwaiting : waiting ≠ []) (reply : Except Failure (List Item)) :
    FetchesPieces config.detailPageSize page
      (h ++ [⟨.fetchItems page.mailbox (waiting.take config.detailPageSize), reply⟩]) := by
  constructor
  · rw [fetches_append_fetch]
    exact List.forall_mem_append.2 ⟨hfetched.mailbox, List.forall_mem_singleton.2 rfl⟩
  · rw [fetches_append_fetch, List.dropLast_concat]
    exact hfetched.succeeds
  · rw [fetches_append_fetch, List.dropLast_concat]
    exact hfetched.datable
  · rw [fetches_append_fetch, List.map_append, ← hfetched.ids,
      pieces_of_ne_nil config.detailPageSize_pos hwaiting]
    exact (List.prefix_append_right_inj _).2 ⟨_, rfl⟩

/-- A call that brings items with records leaves the other batches waiting. -/
lemma Fetched.fetch (hfetched : Fetched config.detailPageSize page h waiting)
    (hwaiting : waiting ≠ []) {items : List Item} (hitems : items.all Crawl.datable = true) :
    Fetched config.detailPageSize page
      (h ++ [⟨.fetchItems page.mailbox (waiting.take config.detailPageSize), .ok items⟩])
      (waiting.drop config.detailPageSize) := by
  constructor
  · rw [fetches_append_fetch]
    exact List.forall_mem_append.2 ⟨hfetched.mailbox, List.forall_mem_singleton.2 rfl⟩
  · rw [fetches_append_fetch]
    exact List.forall_mem_append.2 ⟨hfetched.succeeds, List.forall_mem_singleton.2 rfl⟩
  · rw [fetches_append_fetch]
    exact List.forall_mem_append.2 ⟨hfetched.datable, List.forall_mem_singleton.2 hitems⟩
  · rw [fetches_append_fetch, List.map_append, List.append_assoc, ← hfetched.ids,
      pieces_of_ne_nil config.detailPageSize_pos hwaiting]
    rfl

/-- The calls so far and the state of the crawl of a page fit together, where `taken` is what has
been pulled.  After a call has failed nothing is left to be said but its failure. -/
inductive Account (size : ℕ) (page : Batches) (taken : List (Except Failure Record)) :
    List Event → PageCrawl → Prop
  | sound {h : List Event} {waiting : List ItemId} {phase : Phase (List Record)}
      (fetched : Fetched size page h waiting)
      (yields : (fetches h).flatMap (·.yields page.folder) =
        taken ++ (PageCrawl.loaded ⟨⟨page.mailbox, page.folder, waiting⟩, phase⟩).map .ok)
      (ended : phase = .exhausted → waiting = []) :
      Account size page taken h ⟨⟨page.mailbox, page.folder, waiting⟩, phase⟩
  | broken {h : List Event} {waiting : List ItemId} {failure : Failure}
      (fetched : Fetched size page h waiting) (left : waiting ≠ [])
      (yields : (fetches (h ++
          [⟨.fetchItems page.mailbox (waiting.take size), .error failure⟩])).flatMap
        (·.yields page.folder) = taken) :
      Account size page taken
        (h ++ [⟨.fetchItems page.mailbox (waiting.take size), .error failure⟩])
        ⟨⟨page.mailbox, page.folder, waiting⟩, .exhausted⟩

/-- What is pulled next is accounted for. -/
def Account.Says (size : ℕ) (page : Batches) (taken : List (Except Failure Record)) :
    Turn Failure Record PageCrawl → List Event → Prop
  | .value record c, h => Account size page (taken ++ [.ok record]) h c
  | .failed failure c, h => Account size page (taken ++ [.error failure]) h c
  | .ended c, h | .working c, h => Account size page taken h c

lemma Account.fetchesPieces {c : PageCrawl} (hc : Account config.detailPageSize page taken h c) :
    FetchesPieces config.detailPageSize page h := by
  cases hc with
  | sound hfetched hyields hended => exact hfetched.fetchesPieces
  | broken hfetched hleft hyields => exact hfetched.fetchesPieces_fetch hleft _

/-- At the start nothing has been asked or taken. -/
lemma Account.start (size : ℕ) (mailbox : String) (folder : FolderId) (ids : List ItemId) :
    Account size ⟨mailbox, folder, ids⟩ [] [] (PageCrawl.start mailbox folder ids) :=
  .sound ⟨by simp, by simp, by simp, rfl⟩ rfl nofun

/-- The records of a batch are those of its items. -/
lemma yields_of_records {items : List Item} {records : List Record} {mailbox : String}
    {folder : FolderId} (ids : List ItemId)
    (hrecords : items.map (Record.ofItem? · mailbox folder) = records.map some) :
    (Fetch.mk mailbox ids (.ok items)).yields folder = records.map .ok := by
  have hall : items.filterMap (Record.ofItem? · mailbox folder) = records := by
    calc items.filterMap (Record.ofItem? · mailbox folder)
        = (items.map (Record.ofItem? · mailbox folder)).filterMap id := by
          rw [List.filterMap_map]
          rfl
      _ = records := by
          rw [hrecords, List.filterMap_map]
          exact List.filterMap_some
  exact congrArg (List.map Except.ok) hall

/-- Items of which records were made have date lines that can be written. -/
lemma datable_of_records {items : List Item} {records : List Record} {mailbox : String}
    {folder : FolderId}
    (hrecords : items.map (Record.ofItem? · mailbox folder) = records.map some) :
    items.all datable = true := by
  refine List.all_eq_true.2 fun item hitem => ?_
  by_contra hundatable
  have hnone := (ofItem?_eq_none_iff item mailbox folder).2 (Bool.eq_false_iff.2 hundatable)
  have hmem : none ∈ records.map some := hrecords ▸ List.mem_map.2 ⟨item, hitem, hnone⟩
  simp at hmem

/-- What comes of asking for the next batch of a page after a history. -/
def Fetched.Supplies (size : ℕ) (page : Batches) (h : List Event) (waiting : List ItemId) :
    Turn Failure (List Record) Batches → List Event → Prop
  | .value records source, h' => ∃ waiting', source = ⟨page.mailbox, page.folder, waiting'⟩ ∧
      Fetched size page h' waiting' ∧ (fetches h').flatMap (·.yields page.folder) =
        (fetches h).flatMap (·.yields page.folder) ++ records.map .ok
  | .failed failure source, h' => source = ⟨page.mailbox, page.folder, waiting⟩ ∧ waiting ≠ [] ∧
      (fetches h').flatMap (·.yields page.folder) =
        (fetches h).flatMap (·.yields page.folder) ++ [.error failure] ∧
      ∃ reason, h' = h ++ [⟨.fetchItems page.mailbox (waiting.take size), .error reason⟩]
  | .ended source, h' => source = ⟨page.mailbox, page.folder, waiting⟩ ∧ waiting = [] ∧ h' = h
  | .working _, _ => False

/-- The next batch is asked for, unless nothing waits. -/
lemma Fetched.supply (hfetched : Fetched config.detailPageSize page h waiting) :
    (Batches.supply config ⟨page.mailbox, page.folder, waiting⟩).Upholds (fun _ _ => True)
      (FetchesPieces config.detailPageSize page)
      (Fetched.Supplies config.detailPageSize page h waiting) h := by
  cases waiting with
  | nil => exact ⟨hfetched.fetchesPieces, rfl, rfl, rfl⟩
  | cons id ids =>
    have hleft : id :: ids ≠ [] := List.cons_ne_nil _ _
    refine ⟨hfetched.fetchesPieces, fun reply _ => ?_⟩
    have hpieces := hfetched.fetchesPieces_fetch hleft reply
    cases reply with
    | error reason =>
      refine ⟨hpieces, rfl, hleft, ?_, reason, rfl⟩
      rw [fetches_append_fetch, List.flatMap_append, List.flatMap_singleton]
      rfl
    | ok items =>
      have hsilent := recordsOf_within (fun _ => False) page.mailbox page.folder items
      refine ⟨hpieces, fun _ _ => ?_⟩
      refine (upholds_bind (recordsOf page.mailbox page.folder items) _ _).2
        ((hsilent.upholds_silent (hpieces.note _)).mono (fun _ hpieces => hpieces) ?_)
      rintro records _ hpieces ⟨rfl, hrecords⟩
      have hitems := datable_of_records hrecords
      refine ⟨hpieces, _, rfl, (hfetched.fetch hleft hitems).note _, ?_⟩
      rw [fetches_append_note, fetches_append_fetch, List.flatMap_append, List.flatMap_singleton,
        yields_of_records _ hrecords]

/-- A turn keeps the account. -/
lemma Account.turn {c : PageCrawl} (hc : Account config.detailPageSize page taken h c) :
    (c.turn config).Upholds (fun _ _ => True) (FetchesPieces config.detailPageSize page)
      (Account.Says config.detailPageSize page taken) h := by
  cases hc with
  | broken hfetched hleft hyields =>
    exact ⟨hfetched.fetchesPieces_fetch hleft _, .broken hfetched hleft hyields⟩
  | @sound _ waiting phase hfetched hyields hended =>
    cases phase with
    | exhausted => exact ⟨hfetched.fetchesPieces, .sound hfetched hyields hended⟩
    | draining records =>
      cases records with
      | nil => exact ⟨hfetched.fetchesPieces, .sound hfetched hyields nofun⟩
      | cons record records =>
        refine ⟨hfetched.fetchesPieces, .sound hfetched ?_ nofun⟩
        exact hyields.trans (List.append_cons _ _ _)
    | between =>
      have htaken : (fetches h).flatMap (·.yields page.folder) = taken :=
        hyields.trans (List.append_nil _)
      refine (upholds_bind _ _ _).2 (hfetched.supply.mono (fun _ => id) ?_)
      intro said h' hpieces hsaid
      cases said with
      | value records source =>
        obtain ⟨waiting', rfl, hfetched', hyields'⟩ := hsaid
        rw [htaken] at hyields'
        exact ⟨hpieces, .sound hfetched' hyields' nofun⟩
      | failed failure source =>
        obtain ⟨rfl, hleft, hyields', reason, rfl⟩ := hsaid
        rw [htaken] at hyields'
        exact ⟨hpieces, .broken hfetched hleft hyields'⟩
      | ended source =>
        obtain ⟨rfl, rfl, rfl⟩ := hsaid
        exact ⟨hpieces, .sound hfetched hyields fun _ => rfl⟩
      | working source => exact hsaid.elim

/-- Pulling keeps the account. -/
lemma Account.pull (fuel : ℕ) {c : PageCrawl} (hc : Account config.detailPageSize page taken h c) :
    (pull (PageCrawl.turn config) fuel c).Upholds (fun _ _ => True)
      (FetchesPieces config.detailPageSize page)
      (Account.Says config.detailPageSize page taken) h := by
  induction fuel generalizing h c with
  | zero => exact ⟨hc.fetchesPieces, hc⟩
  | succ fuel ih =>
    refine (upholds_bind _ _ _).2 (hc.turn.mono (fun _ => id) fun said h' hpieces hsaid => ?_)
    cases said with
    | value record c => exact ⟨hpieces, hsaid⟩
    | failed failure c => exact ⟨hpieces, hsaid⟩
    | ended c => exact ⟨hpieces, hsaid⟩
    | working c => exact ih hsaid

/-- A pull keeps the account, and after a failure or an end the page is exhausted. -/
lemma Account.next {c : PageCrawl} (hc : Account config.detailPageSize page taken h c) :
    (c.next config).Upholds (fun _ _ => True) (FetchesPieces config.detailPageSize page)
      (fun said h' => (c.Paces said ∧ ∀ c', said ≠ .working c') ∧
        Account.Says config.detailPageSize page taken said h') h :=
  (Account.pull c.patience hc).restrict (c.next_paces config) fun _ _ _ => id

/-- What a list has to say from its beginning: its first elements, and then the end. -/
lemma map_range_getElem?_cons {α : Type} (a : α) (as : List α) (count : ℕ) :
    (List.range (count + 1)).map (fun i => some (a :: as)[i]?) =
      some (some a) :: (List.range count).map fun i => some as[i]? := by
  rw [List.range_succ_eq_map, List.map_cons, List.map_map]
  rfl

/-- Beyond the end of a list there is nothing but the end. -/
lemma map_range_getElem?_nil {α : Type} (count : ℕ) :
    (List.range count).map (fun i => some ([] : List α)[i]?) =
      List.replicate count (some none) := by
  simp

/-- Pulls keep the account: they say what is taken, and then the end. -/
theorem Account.pulls (count : ℕ) {c : PageCrawl}
    (hc : Account config.detailPageSize page taken h c) :
    (PageCrawl.pulls config count c).Upholds (fun _ _ => True)
      (FetchesPieces config.detailPageSize page) (fun (said, c') h' => ∃ more,
        Account config.detailPageSize page (taken ++ more) h' c' ∧
        said = (List.range count).map (fun i => some more[i]?) ∧ more.length ≤ count ∧
        (more.length < count → c'.phase = .exhausted)) h := by
  -- Once the page is exhausted nothing more is taken.
  have hexhausted : ∀ count {taken : List (Except Failure Record)} {h : List Event} {c : PageCrawl},
      Account config.detailPageSize page taken h c → c.phase = .exhausted →
      (PageCrawl.pulls config count c).Upholds (fun _ _ => True)
        (FetchesPieces config.detailPageSize page) (fun (said, c') h' =>
          Account config.detailPageSize page taken h' c' ∧ c'.phase = .exhausted ∧
            said = List.replicate count (some none)) h := by
    rintro count taken h ⟨source, _⟩ hc rfl
    rw [PageCrawl.pulls_exhausted]
    exact ⟨hc.fetchesPieces, hc, rfl, rfl⟩
  induction count generalizing taken h c with
  | zero => exact ⟨hc.fetchesPieces, [], by rwa [List.append_nil], rfl, Nat.le_refl _, nofun⟩
  | succ count ih =>
    refine (upholds_bind _ _ _).2 (hc.next.mono (fun _ => id) ?_)
    rintro said h' - ⟨⟨hpaces, hspoken⟩, hsays⟩
    refine (upholds_bind _ _ _).2 ?_
    cases said with
    | value record c =>
      refine (ih hsays).mono (fun _ => id) ?_
      rintro ⟨others, c'⟩ h'' hpieces ⟨more, haccount, rfl, hle, hend⟩
      refine ⟨hpieces, .ok record :: more, ?_, (map_range_getElem?_cons _ _ _).symm,
        Nat.succ_le_succ hle, fun hless => hend (Nat.lt_of_succ_lt_succ hless)⟩
      rwa [List.append_cons]
    | failed failure c =>
      refine (hexhausted count hsays hpaces).mono (fun _ => id) ?_
      rintro ⟨others, c'⟩ h'' hpieces ⟨haccount, hend, rfl⟩
      refine ⟨hpieces, [.error failure], haccount, ?_, Nat.succ_le_succ (Nat.zero_le _),
        fun _ => hend⟩
      rw [map_range_getElem?_cons, map_range_getElem?_nil]
      rfl
    | ended c =>
      refine (hexhausted count hsays hpaces).mono (fun _ => id) ?_
      rintro ⟨others, c'⟩ h'' hpieces ⟨haccount, hend, rfl⟩
      refine ⟨hpieces, [], by rwa [List.append_nil], ?_, Nat.zero_le _, fun _ => hend⟩
      rw [map_range_getElem?_nil]
      rfl
    | working c => exact absurd rfl (hspoken c)

end Account

/-! ### The pulls come to an end -/

namespace PageCrawl

/-- Less is left only finitely often. -/
lemma nearer_wf : WellFounded Nearer := by
  have hlex := (Prod.lex Nat.lt_wfRel Nat.lt_wfRel).wf
  refine Subrelation.wf ?_ (InvImage.wf (fun c : PageCrawl => (c.effort, c.loaded.length)) hlex)
  rintro c' c (hless | ⟨hequal, hless⟩)
  · exact Prod.Lex.left _ _ hless
  · exact Prod.lex_def.2 (.inr ⟨hequal, hless⟩)

/-- Pulls that ran to their end consist of the first one and the others. -/
lemma pulls_succ_eq_ok {config : Config} {world : World σ} {c c' : PageCrawl} {s : σ} {count : ℕ}
    {results : List (Option (Option (Except Failure Record)))}
    (hrun : ((pulls config (count + 1) c).run world s).1 = .ok (results, c')) :
    ∃ said s' others, (c.next config).run world s = (.ok said, s') ∧
      ((pulls config count said.rest).run world s').1 = .ok (others, c') ∧
      results = said.said? :: others := by
  rw [pulls, run_bind] at hrun
  cases hfirst : (c.next config).run world s with
  | mk first s' =>
    rw [hfirst] at hrun
    cases first with
    | error reason => cases hrun
    | ok said =>
      dsimp only at hrun
      rw [run_bind] at hrun
      cases hothers : (pulls config count said.rest).run world s' with
      | mk later s'' =>
        rw [hothers] at hrun
        cases later with
        | error reason => cases hrun
        | ok later =>
          cases hrun
          exact ⟨said, s', later.1, rfl, by rw [hothers], rfl⟩

/-- In every world all but finitely many numbers of pulls are enough to come to the end. -/
lemma pulls_end (config : Config) (world : World σ) (c : PageCrawl) (s : σ) :
    ∃ enough, ∀ count, enough < count → ∀ said c',
      ((pulls config count c).run world s).1 = .ok (said, c') → some none ∈ said := by
  induction c using nearer_wf.induction generalizing s with
  | _ c ih =>
    -- It is enough that either the first pull says the end or the others do.
    suffices hfirst : ∃ enough, ∀ said s', (c.next config).run world s = (.ok said, s') →
        said.said? = some none ∨ ∀ count, enough < count → ∀ others c',
          ((pulls config count said.rest).run world s').1 = .ok (others, c') →
            some none ∈ others by
      obtain ⟨enough, henough⟩ := hfirst
      refine ⟨enough + 1, fun count hcount results c' hrun => ?_⟩
      obtain ⟨count, rfl⟩ := Nat.exists_eq_add_one_of_ne_zero (Nat.ne_zero_of_lt hcount)
      obtain ⟨said, s', others, hsaid, hothers, rfl⟩ := pulls_succ_eq_ok hrun
      rcases henough said s' hsaid with hend | hlater
      · rw [hend]
        exact List.mem_cons_self
      · have hmember := hlater count (Nat.lt_of_succ_lt_succ hcount) others c' hothers
        exact List.mem_cons_of_mem _ hmember
    cases hrun : (c.next config).run world s with
    | mk first s' =>
      cases first with
      | error reason =>
        refine ⟨0, fun said s'' hsaid => ?_⟩
        cases congrArg Prod.fst hsaid
      | ok said =>
        obtain ⟨hpaces, hspoken⟩ := (c.next_paces config).run (congrArg Prod.fst hrun)
        cases said with
        | value record c' =>
          obtain ⟨enough, henough⟩ := ih c' hpaces s'
          refine ⟨enough, fun said s'' hsaid => .inr ?_⟩
          cases hsaid
          exact henough
        | failed failure c' =>
          obtain ⟨source, phase⟩ := c'
          obtain rfl : phase = .exhausted := hpaces
          refine ⟨0, fun said s'' hsaid => .inr fun count hcount others c' hothers => ?_⟩
          cases hsaid
          have hpulls := pulls_exhausted config count source
          rw [Turn.rest, hpulls, run_done] at hothers
          cases hothers
          exact List.mem_replicate.2 ⟨Nat.ne_of_gt hcount, rfl⟩
        | ended c' =>
          refine ⟨0, fun said s'' hsaid => .inl ?_⟩
          cases hsaid
          rfl
        | working c' => exact absurd rfl (hspoken c')

end PageCrawl

/-! ### What pulls have said -/

/-- Pulls from a page are sturdy. -/
lemma PageCrawl.pulls_sturdy (config : Config) (count : ℕ) (c : PageCrawl) :
    (pulls config count c).Sturdy := by
  induction count generalizing c with
  | zero => trivial
  | succ count ih =>
    have hturn := Chain.turn_sturdy (Batches.supply_sturdy config) listTurn_sturdy
    exact (pull_sturdy hturn c.patience c).bind fun said => (ih said.rest).bind fun _ => trivial

section Account

variable {size : ℕ} {page : Batches} {h : List Event} {waiting : List ItemId}
  {taken : List (Except Failure Record)} {c : PageCrawl}

/-- The ids that successful calls have asked for are those that do not wait any more. -/
lemma Fetched.remaining (hfetched : Fetched size page h waiting) :
    waiting.length + (((fetches h).filter (·.succeeds)).flatMap (·.ids)).length =
      page.waiting.length := by
  have hflat := congrArg List.flatten hfetched.ids
  rw [List.flatten_append, flatten_pieces, flatten_pieces, ← List.flatMap_def] at hflat
  rw [List.filter_eq_self.2 hfetched.succeeds, ← hflat, List.length_append, Nat.add_comm]

/-- What the calls yield is what was taken, then what is loaded. -/
lemma Account.yields (hc : Account size page taken h c) :
    (fetches h).flatMap (·.yields page.folder) = taken ++ c.loaded.map .ok := by
  cases hc with
  | sound hfetched hyields hended => exact hyields
  | broken hfetched hleft hyields => exact hyields.trans (List.append_nil _).symm

lemma Account.remaining (hc : Account size page taken h c) :
    c.remaining + (((fetches h).filter (·.succeeds)).flatMap (·.ids)).length =
      page.waiting.length := by
  cases hc with
  | sound hfetched hyields hended => exact hfetched.remaining
  | broken hfetched hleft hyields =>
    rw [fetches_append_fetch, List.filter_append]
    exact (congrArg _ (by simp [Fetch.succeeds])).trans hfetched.remaining

/-- An exhausted page has been asked for completely, unless a call failed. -/
lemma Account.exhausted (hc : Account size page taken h c) (hphase : c.phase = .exhausted) :
    (fetches h).map (·.ids) = pieces size page.waiting ∨ ∃ f ∈ fetches h, f.succeeds = false := by
  cases hc with
  | sound hfetched hyields hended =>
    obtain rfl := hended hphase
    have hids := hfetched.ids
    rw [pieces, List.append_nil] at hids
    exact .inl hids
  | broken hfetched hleft hyields =>
    rw [fetches_append_fetch]
    exact .inr ⟨_, List.mem_concat_self, rfl⟩

/-- The pulls have said what the calls yield, and nothing but the end thereafter. -/
lemma Account.said (hc : Account size page taken h c) {count : ℕ} (hle : taken.length ≤ count)
    (hend : taken.length < count → c.phase = .exhausted) :
    (List.range count).map (fun i => some taken[i]?) =
      (List.range count).map fun i =>
        some ((fetches h).flatMap (·.yields page.folder))[i]? := by
  refine List.map_congr_left fun i hi => congrArg some ?_
  rw [hc.yields]
  rcases Nat.lt_or_ge taken.length count with hless | hge
  · have hloaded : c.loaded = [] := by
      rw [PageCrawl.loaded, hend hless]
    rw [hloaded, List.map_nil, List.append_nil]
  · have hi := List.mem_range.1 hi
    rw [List.getElem?_append_left (by omega)]

end Account

/-! ### Failed calls -/

/-- A call has brought the items that were fetched. -/
lemma exists_fetch_of_fetched {t : List Event} {items : List Item}
    (h : items ∈ t.filterMap fetched?) : ∃ f ∈ fetches t, f.reply = .ok items := by
  obtain ⟨e, he, hitems⟩ := List.mem_filterMap.1 h
  unfold fetched? at hitems
  split at hitems
  · cases hitems
    exact ⟨_, List.mem_filterMap.2 ⟨_, he, rfl⟩, rfl⟩
  · cases hitems

/-- Once a call has failed, all that the calls yield was taken. -/
lemma Account.taken_of_failure {size : ℕ} {page : Batches} {taken : List (Except Failure Record)}
    {h : List Event} {c : PageCrawl} (hc : Account size page taken h c) {f : Fetch}
    (hmem : f ∈ fetches h) (hf : f.succeeds = false) :
    (fetches h).flatMap (·.yields page.folder) = taken := by
  cases hc with
  | sound hfetched =>
    rw [hfetched.succeeds f hmem] at hf
    cases hf
  | broken hfetched hleft hyields => exact hyields

/-- What a list has to say in so many pulls: its elements, and then the end. -/
lemma map_range_getElem? {α : Type} {as : List α} {count : ℕ} (hle : as.length ≤ count) :
    (List.range count).map (fun i => some as[i]?) =
      as.map (fun a => some (some a)) ++ List.replicate (count - as.length) (some none) := by
  induction as generalizing count with
  | nil => exact map_range_getElem?_nil count
  | cons a as ih =>
    obtain ⟨count, rfl⟩ := Nat.exists_eq_add_one_of_ne_zero (Nat.ne_zero_of_lt hle)
    rw [map_range_getElem?_cons, ih (Nat.le_of_succ_le_succ hle), List.length_cons,
      Nat.add_sub_add_right]
    rfl

/-- Calls that succeed yield records only. -/
lemma exists_records_of_succeeds (folder : FolderId) {calls : List Fetch}
    (hsucceeds : ∀ f ∈ calls, f.succeeds = true) :
    ∃ records : List Record, calls.flatMap (·.yields folder) = records.map .ok := by
  induction calls with
  | nil => exact ⟨[], rfl⟩
  | cons f calls ih =>
    obtain ⟨hf, hcalls⟩ := List.forall_mem_cons.1 hsucceeds
    obtain ⟨records, hrecords⟩ := ih hcalls
    obtain ⟨mailbox, ids, reply⟩ := f
    cases reply with
    | error failure => cases hf
    | ok items =>
      refine ⟨items.filterMap (Record.ofItem? · mailbox folder) ++ records, ?_⟩
      rw [List.flatMap_cons, hrecords, List.map_append]
      rfl

section Failed

variable {config : Config} {mailbox : String} {folder : FolderId} {ids : List ItemId}
  {world : World σ} {s : σ} {count : ℕ} {earlier later : List Fetch} {f : Fetch}

/-- The calls of pulls from a page are for its first batches. -/
lemma PageCrawl.pulls_fetchesPieces (config : Config) (mailbox : String) (folder : FolderId)
    (ids : List ItemId) (world : World σ) (s : σ) (count : ℕ) :
    FetchesPieces config.detailPageSize ⟨mailbox, folder, ids⟩
      ((pulls config count (start mailbox folder ids)).trace world s) :=
  ((Account.start config.detailPageSize mailbox folder ids).pulls count).trace List.prefix_rfl
    (admits_true _ _)

/-- If a call has failed, no item that came back before brings the pulls down. -/
lemma PageCrawl.pulls_survive (hdatable : ∀ e ∈ earlier, e.datable = true)
    (hf : f.succeeds = false)
    (hcalls : fetches ((pulls config count (start mailbox folder ids)).trace world s) =
      earlier ++ [f]) :
    ∃ result, ((pulls config count (start mailbox folder ids)).run world s).1 = .ok result := by
  cases hrun : ((pulls config count (start mailbox folder ids)).run world s).1 with
  | ok result => exact ⟨result, rfl⟩
  | error reason =>
    obtain ⟨items, hitems, item, hitem, hundatable⟩ :=
      (pulls_sturdy config count _).crash_iff.1 ⟨reason, hrun⟩
    obtain ⟨e, he, hreply⟩ := exists_fetch_of_fetched hitems
    rw [hcalls] at he
    rcases List.mem_append.1 he with he | he
    · have hall := hdatable e he
      rw [Fetch.datable, hreply] at hall
      rw [List.all_eq_true.1 hall item hitem] at hundatable
      cases hundatable
    · rw [List.mem_singleton.1 he] at hreply
      rw [Fetch.succeeds, hreply] at hf
      cases hf

/-- After a call that has failed, no call is made.  The calls before it succeeded, and the pulls
have said the records of these, then the failure, and then nothing but the end. -/
lemma PageCrawl.pulls_of_failure (hf : f.succeeds = false)
    (hcalls : fetches ((pulls config count (start mailbox folder ids)).trace world s) =
      earlier ++ f :: later) :
    later = [] ∧ (∀ e ∈ earlier, e.succeeds = true) ∧
      ∃ (records : List Record) (failure : Failure) (rest : ℕ) (c : PageCrawl),
        earlier.flatMap (·.yields folder) = records.map .ok ∧
        f.yields folder = [.error failure] ∧
        ((pulls config count (start mailbox folder ids)).run world s).1 =
          .ok (records.map (fun record => some (some (.ok record))) ++
            some (some (.error failure)) :: List.replicate rest (some none), c) := by
  obtain ⟨-, hsucceeds, hdatable, -⟩ :=
    PageCrawl.pulls_fetchesPieces config mailbox folder ids world s count
  rw [hcalls] at hsucceeds hdatable
  obtain rfl : later = [] := by
    by_contra hmore
    have hmem : f ∈ (earlier ++ f :: later).dropLast := by
      rw [List.dropLast_append_cons, List.dropLast_cons_of_ne_nil hmore]
      exact List.mem_append_right _ List.mem_cons_self
    rw [hsucceeds f hmem] at hf
    cases hf
  rw [List.dropLast_concat] at hsucceeds hdatable
  obtain ⟨records, hrecords⟩ := exists_records_of_succeeds folder hsucceeds
  obtain ⟨failure, hfailure⟩ : ∃ failure, f.yields folder = [.error failure] := by
    obtain ⟨_, _, failure | items⟩ := f
    · exact ⟨_, rfl⟩
    · cases hf
  obtain ⟨⟨said, c⟩, hrun⟩ := PageCrawl.pulls_survive hdatable hf hcalls
  have hpost := ((Account.start config.detailPageSize mailbox folder ids).pulls count).run
    (admits_true _ _) hrun
  rw [List.nil_append] at hpost
  obtain ⟨more, haccount, rfl, hle, -⟩ := hpost
  have hmem : f ∈ fetches ((pulls config count (start mailbox folder ids)).trace world s) := by
    rw [hcalls]
    exact List.mem_concat_self
  have htaken := haccount.taken_of_failure hmem hf
  rw [hcalls, List.flatMap_append, List.flatMap_singleton, hrecords, hfailure,
    List.nil_append] at htaken
  subst htaken
  rw [map_range_getElem? hle, List.map_append, List.map_map, List.append_assoc] at hrun
  exact ⟨rfl, hsucceeds, records, failure, _, c, hrecords, hfailure, hrun⟩

end Failed

/-! ### The main result -/

/-- The batches of a page are the pieces of its list of ids.  After any number of pulls the calls so
far are for the first batches, in order, and at most the last of them has failed.  The pulls have
said the records of the replies, in order, then the failure if there was one, and then nothing but
the end; the ids that remain are those that no successful call has asked for; and if the end was
said, all batches have been asked for or a call has failed.  A crash means that an item came back
that has no record.  In every world the end is said after finitely many pulls. -/
theorem pulls_fetch_pieces (config : Config) (mailbox : String) (folder : FolderId)
    (ids : List ItemId) (world : World σ) (s : σ) :
    let batches := pieces config.detailPageSize ids
    let program := fun count =>
      PageCrawl.pulls config count (PageCrawl.start mailbox folder ids)
    (batches.flatten = ids ∧ (∀ batch ∈ batches, batch ≠ []) ∧
      (∀ batch ∈ batches.dropLast, batch.length = config.detailPageSize) ∧
      batches.length = (ids.length + config.detailPageSize - 1) / config.detailPageSize) ∧
    (∀ count,
      let calls := fetches ((program count).trace world s)
      (∀ f ∈ calls, f.mailbox = mailbox) ∧
      calls.map (·.ids) <+: batches ∧
      (∀ f ∈ calls.dropLast, f.succeeds = true) ∧
      ((∃ reason, ((program count).run world s).1 = .error reason) ↔
        ∃ items ∈ ((program count).trace world s).filterMap fetched?, ∃ item ∈ items,
          Record.ofItem? item mailbox folder = none) ∧
      ∀ said c, ((program count).run world s).1 = .ok (said, c) →
        said = (List.range count).map (fun i => some (calls.flatMap (·.yields folder))[i]?) ∧
        c.remaining + ((calls.filter (·.succeeds)).flatMap (·.ids)).length = ids.length ∧
        (some none ∈ said → calls.map (·.ids) = batches ∨ ∃ f ∈ calls, f.succeeds = false)) ∧
    ∃ enough, ∀ count, enough < count → ∀ said c,
      ((program count).run world s).1 = .ok (said, c) → some none ∈ said := by
  intro batches program
  refine ⟨⟨flatten_pieces _ ids, fun _ => ne_nil_of_mem_pieces, fun _ hbatch =>
    length_of_mem_dropLast_pieces config.detailPageSize_pos hbatch,
    length_pieces config.detailPageSize_pos ids⟩, fun count => ?_,
    PageCrawl.pulls_end config world _ s⟩
  intro calls
  have hupholds := (Account.start config.detailPageSize mailbox folder ids).pulls count
  have hpieces : FetchesPieces config.detailPageSize ⟨mailbox, folder, ids⟩
      ([] ++ (program count).trace world s) :=
    hupholds.trace List.prefix_rfl (admits_true _ _)
  rw [List.nil_append] at hpieces
  refine ⟨hpieces.mailbox, hpieces.ids, hpieces.succeeds, ?_, fun said c hrun => ?_⟩
  · rw [(PageCrawl.pulls_sturdy config count _).crash_iff,
      exists_fetched_undatable_iff _ mailbox folder]
  · have hpost := hupholds.run (admits_true _ _) hrun
    rw [List.nil_append] at hpost
    obtain ⟨more, haccount, rfl, hle, hend⟩ := hpost
    rw [List.nil_append] at haccount
    refine ⟨haccount.said hle hend, haccount.remaining, fun hover => haccount.exhausted (hend ?_)⟩
    obtain ⟨i, hi, hnone⟩ := List.mem_map.1 hover
    have hbeyond := List.getElem?_eq_none_iff.1 (Option.some.inj hnone)
    exact Nat.lt_of_le_of_lt hbeyond (List.mem_range.1 hi)

/-- A server that knows none of the items that it is asked for. -/
def forgetfulWorld : World Unit where
  answer
    | .clock, s => (.epoch, s)
    | .readInstant _, s | .readToken _ _, s => (.ok none, s)
    | .writeInstant _ _, s | .writeToken _ _ _, s | .store _, s | .flush, s => (.ok (), s)
    | .listFolders _ _, s | .fetchItems _ _, s => (.ok [], s)
    | .listItems _, s => (.ok {}, s)
    | .note _, s => ((), s)

/-- Empty replies do not end a page: all five ids are asked for before the end is said. -/
example :
    let ids := ["a", "b", "c", "d", "e"].map ItemId.mk
    let program := PageCrawl.pulls ⟨1, 2, .syncToken, by decide, by decide⟩ 1
      (PageCrawl.start "m" .default ids)
    (fetches (program.trace forgetfulWorld ())).map (·.ids) =
      [["a", "b"], ["c", "d"], ["e"]].map (·.map ItemId.mk) := rfl

end MailCollector.Crawl
