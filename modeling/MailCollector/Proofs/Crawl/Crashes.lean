import MailCollector.Crawl.Collect
import MailCollector.Crawl.Plain
import MailCollector.Proofs.Crawl.Observed
import MailCollector.Proofs.Program.Laws

/-!
# What brings a crawl down

A crawl crashes over an item whose date line cannot be written, and over nothing else.  Programs
that do so are sturdy: they crash if and only if they fetched such an item
(`Program.Sturdy.crash_iff`), and the first such item is the reason (`Program.Sturdy.run_iff`).
Pulls are sturdy, and so are runs (`Roster.pulls_sturdy`, `drain_sturdy`).  Everything else that can
go wrong is a failure, which a crawl survives.
-/

namespace MailCollector.Crawl

open MailCollector.Calendar MailCollector.Mail MailCollector.Log

variable {α β ε ι σ τ : Type}

/-! ### Items without a date line -/

/-- Whether the date line of an item can be written, if it has one. -/
def datable (item : Item) : Bool := item.sentAt.all (·.hasPlainYear)

/-- What brings a crawl down that fetches these items: the first item whose date line cannot be
written. -/
def undatable? (items : List Item) : Option Crash :=
  (items.find? fun item => !datable item).map fun item => .unwritableDate item.id

/-- What brings a crawl down over an answer to a call. -/
def downfall? (e : Event) : Option Crash := (fetched? e).bind undatable?

/-- An item has no record if and only if its date line cannot be written. -/
lemma ofItem?_eq_none_iff (item : Item) (mailbox : String) (folder : FolderId) :
    Record.ofItem? item mailbox folder = none ↔ datable item = false := by
  unfold Record.ofItem? datable
  cases item.sentAt with
  | none => simp
  | some sent =>
    cases hyear : sent.hasPlainYear <;> simp [Rfc2822.format?, hyear]

/-- Items are made into records, unless one of them brings the crawl down. -/
lemma recordsOf_eq (mailbox : String) (folder : FolderId) (items : List Item) :
    match undatable? items with
    | none => ∃ records, recordsOf mailbox folder items = .done records
    | some reason => recordsOf mailbox folder items = .crash reason := by
  induction items with
  | nil => exact ⟨[], rfl⟩
  | cons item items ih =>
    have hitem := ofItem?_eq_none_iff item mailbox folder
    cases hdatable : datable item with
    | false =>
      have hundatable : undatable? (item :: items) = some (.unwritableDate item.id) := by
        simp [undatable?, hdatable]
      rw [hundatable, recordsOf, hitem.2 hdatable]
    | true =>
      have hundatable : undatable? (item :: items) = undatable? items := by
        simp [undatable?, hdatable]
      obtain ⟨record, hrecord⟩ : ∃ record, Record.ofItem? item mailbox folder = some record :=
        Option.ne_none_iff_exists'.1 fun hnone => by simp [hitem.1 hnone] at hdatable
      rw [hundatable, recordsOf, hrecord]
      cases hothers : undatable? items with
      | none =>
        rw [hothers] at ih
        obtain ⟨records, hrecords⟩ := ih
        exact ⟨record :: records, by rw [hrecords]; rfl⟩
      | some reason =>
        rw [hothers] at ih
        exact congrArg (· >>= fun records => Program.done (record :: records)) ih

/-- Some answer in a trace brings a crawl down if and only if an item was fetched whose date line
cannot be written. -/
lemma downfall?_isSome_iff (t : List Event) :
    (t.findSome? downfall?).isSome ↔
      ∃ items ∈ t.filterMap fetched?, ∃ item ∈ items, datable item = false := by
  rw [List.findSome?_isSome_iff]
  constructor
  · rintro ⟨e, he, hfall⟩
    obtain ⟨reason, hreason⟩ := Option.isSome_iff_exists.1 hfall
    obtain ⟨items, hitems, hundatable⟩ := Option.bind_eq_some_iff.1 hreason
    obtain ⟨item, hfound, -⟩ := Option.map_eq_some_iff.1 hundatable
    exact ⟨items, List.mem_filterMap.2 ⟨e, he, hitems⟩, item, List.mem_of_find?_eq_some hfound,
      by simpa using List.find?_some hfound⟩
  · rintro ⟨items, hitems, item, hitem, hundatable⟩
    obtain ⟨e, he, hfetched⟩ := List.mem_filterMap.1 hitems
    refine ⟨e, he, ?_⟩
    rw [downfall?, hfetched, Option.bind_some, undatable?, Option.isSome_map, List.find?_isSome]
    exact ⟨item, hitem, by simp [hundatable]⟩

/-! ### Programs that crash over their answers only -/

namespace Program

/-- Whatever it is answered, the program crashes for this reason. -/
def Doomed (reason : Crash) : Program α → Prop
  | done _ => False
  | crash r => r = reason
  | call _ resume => ∀ reply, (resume reply).Doomed reason

/-- The program crashes as soon as an answer has brought it down, and only then. -/
def Sturdy : Program α → Prop
  | done _ => True
  | crash _ => False
  | call c resume => ∀ reply,
    match downfall? ⟨c, reply⟩ with
    | none => (resume reply).Sturdy
    | some reason => (resume reply).Doomed reason

/-- What is doomed stays doomed. -/
lemma Doomed.bind {reason : Crash} {p : Program α} (hp : p.Doomed reason) (f : α → Program β) :
    (p >>= f).Doomed reason := by
  induction p with
  | done a => exact hp.elim
  | crash r => exact hp
  | call c resume ih => exact fun reply => ih reply (hp reply)

/-- Two sturdy programs, one after the other. -/
lemma Sturdy.bind {p : Program α} {f : α → Program β} (hp : p.Sturdy)
    (hf : ∀ a, (f a).Sturdy) : (p >>= f).Sturdy := by
  induction p with
  | done a => exact hf a
  | crash r => exact hp.elim
  | call c resume ih =>
    intro reply
    have hreply := hp reply
    cases hfall : downfall? ⟨c, reply⟩ with
    | none =>
      rw [hfall] at hreply
      exact ih reply hreply
    | some reason =>
      rw [hfall] at hreply
      exact hreply.bind f

section World

variable {world : World σ} {s : σ} {p : Program α}

lemma Doomed.run {reason : Crash} (hp : p.Doomed reason) : (p.run world s).1 = .error reason := by
  induction p generalizing s with
  | done a => exact hp.elim
  | crash r => exact congrArg Except.error hp
  | call c resume ih => exact ih _ (hp _)

/-- A sturdy program crashes if and only if one of the answers in its trace brought it down, and the
first such answer is the reason. -/
theorem Sturdy.run_iff (hp : p.Sturdy) (reason : Crash) :
    (p.run world s).1 = .error reason ↔ (p.trace world s).findSome? downfall? = some reason := by
  induction p generalizing s with
  | done a => simp
  | crash r => exact hp.elim
  | call c resume ih =>
    have hreply := hp (world.answer c s).1
    rw [run_call, trace_call, List.findSome?_cons]
    cases hfall : downfall? ⟨c, (world.answer c s).1⟩ with
    | none =>
      rw [hfall] at hreply
      exact ih _ hreply
    | some reason' =>
      rw [hfall] at hreply
      rw [hreply.run]
      simp

/-- A sturdy program crashes if and only if it fetched an item whose date line cannot be written. -/
theorem Sturdy.crash_iff (hp : p.Sturdy) :
    (∃ reason, (p.run world s).1 = .error reason) ↔
      ∃ items ∈ (p.trace world s).filterMap fetched?, ∃ item ∈ items, datable item = false := by
  simp only [hp.run_iff, ← Option.isSome_iff_exists]
  exact downfall?_isSome_iff _

end World

end Program

/-! ### A crawl is sturdy -/

section Chain

variable {supply : τ → Program (Turn ε ι τ)} {next : ι → Program (Turn ε α ι)}

/-- A chain is sturdy if its source and the sequences are. -/
lemma Chain.turn_sturdy (hsupply : ∀ s, (supply s).Sturdy) (hnext : ∀ i, (next i).Sturdy)
    (c : Chain τ ι) : (c.turn supply next).Sturdy := by
  obtain ⟨s, phase⟩ := c
  cases phase with
  | exhausted => trivial
  | draining i =>
    refine (hnext i).bind fun said => ?_
    cases said <;> trivial
  | between =>
    refine (hsupply s).bind fun said => ?_
    cases said <;> trivial

/-- Pulling is sturdy if the turns are. -/
lemma pull_sturdy {turn : τ → Program (Turn ε α τ)} (hturn : ∀ s, (turn s).Sturdy) (fuel : ℕ)
    (s : τ) : (pull turn fuel s).Sturdy := by
  induction fuel generalizing s with
  | zero => trivial
  | succ fuel ih =>
    refine (hturn s).bind fun said => ?_
    cases said with
    | working s => exact ih s
    | value a s => trivial
    | failed e s => trivial
    | ended s => trivial

end Chain

lemma Batches.supply_sturdy (config : Config) (b : Batches) : (b.supply config).Sturdy := by
  unfold supply
  split
  · trivial
  · intro reply
    cases reply with
    | error failure => trivial
    | ok items =>
      have hrecords := recordsOf_eq b.mailbox b.folder items
      change match undatable? items with | none => _ | some reason => _
      cases hfall : undatable? items with
      | none =>
        rw [hfall] at hrecords
        obtain ⟨records, hrecords⟩ := hrecords
        intro _
        rw [hrecords]
        trivial
      | some reason =>
        rw [hfall] at hrecords
        intro _
        rw [hrecords]
        rfl

lemma listTurn_sturdy (as : List α) :
    (listTurn as : Program (Turn ε α (List α))).Sturdy := by
  cases as <;> trivial

lemma Pages.commit_sturdy (p : Pages) : p.commit.Sturdy := by
  unfold commit
  split
  · trivial
  · intro reply
    cases reply with
    | error failure => trivial
    | ok _ => exact fun _ => trivial

lemma Pages.supply_sturdy (config : Config) (p : Pages) : (p.supply config).Sturdy := by
  unfold supply
  split
  · trivial
  · refine p.commit_sturdy.bind fun outcome => ?_
    cases outcome <;> trivial
  · intro reply
    cases reply with
    | error failure => trivial
    | ok page =>
      intro _
      cases page.ids <;> trivial

lemma Folders.openFolder_sturdy (config : Config) (f : Folders) (folder : FolderId) :
    (f.openFolder config folder).Sturdy := by
  unfold openFolder
  cases config.mode with
  | lastSynced => trivial
  | syncToken =>
    intro reply
    cases reply <;> trivial

lemma Folders.complete_sturdy (f : Folders) : f.complete.Sturdy := by
  intro reply
  cases reply with
  | error failure => trivial
  | ok _ => exact fun _ => trivial

lemma Folders.supply_sturdy (config : Config) (f : Folders) : (f.supply config).Sturdy := by
  unfold supply
  split
  · refine f.complete_sturdy.bind fun outcome => ?_
    cases outcome <;> trivial
  · refine (f.openFolder_sturdy config _).bind fun opened => ?_
    cases opened <;> trivial

lemma FolderCrawl.turn_sturdy (config : Config) (c : FolderCrawl) : (c.turn config).Sturdy :=
  Chain.turn_sturdy (Pages.supply_sturdy config)
    (Chain.turn_sturdy (Batches.supply_sturdy config) listTurn_sturdy) c

lemma MailboxCrawl.turn_sturdy (config : Config) (c : MailboxCrawl) : (c.turn config).Sturdy :=
  Chain.turn_sturdy (Folders.supply_sturdy config) (FolderCrawl.turn_sturdy config) c

lemma MailboxCrawl.start_sturdy (config : Config) (mailbox : String) :
    (MailboxCrawl.start config mailbox).Sturdy := by
  unfold start
  intro startedAt
  cases config.mode with
  | syncToken =>
    rintro (failure | folders)
    · trivial
    · exact fun _ => trivial
  | lastSynced =>
    rintro (failure | changedSince)
    · trivial
    · rintro (failure | folders)
      · trivial
      · exact fun _ => trivial

namespace Roster

/-- A turn of the crawl is sturdy. -/
lemma turn_sturdy (config : Config) (r : Roster) : (r.turn config).Sturdy := by
  obtain ⟨waiting, phase, failed⟩ := r
  cases phase with
  | exhausted => trivial
  | between =>
    cases waiting with
    | nil => trivial
    | cons name names =>
      refine (MailboxCrawl.start_sturdy config name).bind fun opened => ?_
      cases opened with
      | error failure => exact fun _ => trivial
      | ok crawl => trivial
  | crawling name crawl =>
    refine (MailboxCrawl.turn_sturdy config crawl).bind fun said => ?_
    cases said with
    | failed failure crawl => exact fun _ => trivial
    | value record crawl => trivial
    | ended crawl => trivial
    | working crawl => trivial

/-- Pulls are sturdy. -/
lemma pulls_sturdy (config : Config) (fuel count : ℕ) (r : Roster) :
    (pulls config fuel count r).Sturdy := by
  induction count generalizing r with
  | zero => trivial
  | succ count ih =>
    refine (pull_sturdy (turn_sturdy config) fuel r).bind fun said => ?_
    cases said with
    | value record r => exact fun _ => ih r
    | failed never r => exact never.elim
    | ended r => exact ih r
    | working r => exact ih r

end Roster

/-- A run is sturdy. -/
lemma drain_sturdy (config : Config) (total fuel stored : ℕ) (r : Roster) :
    (drain config total fuel stored r).Sturdy := by
  induction fuel generalizing stored r with
  | zero => trivial
  | succ fuel ih =>
    refine (Roster.turn_sturdy config r).bind fun said => ?_
    cases said with
    | working r => exact ih stored r
    | failed never r => exact never.elim
    | value record r =>
      intro reply
      cases reply with
      | error failure => trivial
      | ok _ => exact ih _ r
    | ended r =>
      intro reply
      cases reply with
      | error failure => trivial
      | ok _ => exact fun _ => trivial

end MailCollector.Crawl
