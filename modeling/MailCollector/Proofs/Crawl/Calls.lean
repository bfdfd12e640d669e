import MailCollector.Crawl.Plain
import MailCollector.Proofs.Program.Laws

/-!
# Which calls a crawl makes

The crawl of a mailbox asks, reads and writes checkpoints, but it hands no record over and does not
give up on a mailbox: both are left to those who take its turns (`MailboxCrawl.turn_within`).  A
turn of the crawl of several mailboxes hands no record over either, and it says that the crawl has
ended only when the crawl is exhausted (`Roster.turn_within`).
-/

namespace MailCollector.Crawl

open MailCollector.Mail MailCollector.Log

variable {α β ε ι τ : Type}

/-! ### Calls within one mailbox -/

/-- A call that hands a record to the sink or flushes the sink. -/
def Call.ToSink : Call → Prop
  | .store _ | .flush => True
  | _ => False

/-- A note that a mailbox is given up. -/
def Call.Skips : Call → Prop
  | .note (.mailboxSkipped _ _) => True
  | _ => False

/-- A call that the crawl of one mailbox may make. -/
def Call.Inner (c : Call) : Prop := ¬ c.ToSink ∧ ¬ c.Skips

section Chain

variable {allowed : Call → Prop} {supply : τ → Program (Turn ε ι τ)}
  {next : ι → Program (Turn ε α ι)}

/-- A chain makes the calls of its source and of the sequences that it drains. -/
lemma Chain.turn_within (hsupply : ∀ s, (supply s).Within allowed fun _ => True)
    (hnext : ∀ i, (next i).Within allowed fun _ => True) (c : Chain τ ι) :
    (c.turn supply next).Within allowed fun _ => True := by
  obtain ⟨s, phase⟩ := c
  cases phase with
  | exhausted => trivial
  | draining i =>
    refine (hnext i).bind fun said _ => ?_
    cases said <;> trivial
  | between =>
    refine (hsupply s).bind fun said _ => ?_
    cases said <;> trivial

/-- Pulling makes the calls of the turns, and what it says was said by a turn. -/
lemma pull_within {turn : τ → Program (Turn ε α τ)} {post : Turn ε α τ → Prop}
    (hturn : ∀ s, (turn s).Within allowed post) (hworking : ∀ s, post (.working s)) (fuel : ℕ)
    (s : τ) : (pull turn fuel s).Within allowed post := by
  induction fuel generalizing s with
  | zero => exact hworking s
  | succ fuel ih =>
    refine (hturn s).bind fun said hsaid => ?_
    cases said with
    | working s => exact ih s
    | value a s => exact hsaid
    | failed e s => exact hsaid
    | ended s => exact hsaid

end Chain

/-- Making records makes no call, and gives the record of each item. -/
lemma recordsOf_within (allowed : Call → Prop) (mailbox : String) (folder : FolderId)
    (items : List Item) : (recordsOf mailbox folder items).Within allowed fun records =>
      items.map (Record.ofItem? · mailbox folder) = records.map some := by
  induction items with
  | nil => exact rfl
  | cons item items ih =>
    rw [recordsOf]
    split
    · trivial
    · rename_i record hrecord
      refine ih.bind fun records hrecords => ?_
      simp [hrecord, hrecords]

/-- A batch of items is fetched without handing anything over. -/
lemma Batches.supply_within (config : Config) (b : Batches) :
    (b.supply config).Within Call.Inner fun _ => True := by
  unfold supply
  split
  · trivial
  · refine ⟨⟨id, id⟩, fun reply => ?_⟩
    cases reply with
    | error failure => trivial
    | ok items =>
      refine ⟨⟨id, id⟩, fun _ => ?_⟩
      exact (recordsOf_within _ _ _ items).bind fun _ _ => trivial

/-- A list of records is drained without calls. -/
lemma listTurn_within (allowed : Call → Prop) (as : List α) :
    (listTurn as : Program (Turn ε α (List α))).Within allowed fun _ => True := by
  cases as <;> trivial

/-- Writing the token of a folder hands nothing over. -/
lemma Pages.commit_within (p : Pages) : p.commit.Within Call.Inner fun _ => True := by
  unfold commit
  split
  · trivial
  · refine ⟨⟨id, id⟩, fun reply => ?_⟩
    cases reply with
    | error failure => trivial
    | ok _ => exact ⟨⟨id, id⟩, fun _ => trivial⟩

/-- A page is listed without handing anything over. -/
lemma Pages.supply_within (config : Config) (p : Pages) :
    (p.supply config).Within Call.Inner fun _ => True := by
  unfold supply
  split
  · trivial
  · refine p.commit_within.bind fun outcome _ => ?_
    cases outcome <;> trivial
  · refine ⟨⟨id, id⟩, fun reply => ?_⟩
    cases reply with
    | error failure => trivial
    | ok page =>
      refine ⟨⟨id, id⟩, fun _ => ?_⟩
      dsimp only
      split <;> trivial

/-- A folder is opened without handing anything over. -/
lemma Folders.openFolder_within (config : Config) (f : Folders) (folder : FolderId) :
    (f.openFolder config folder).Within Call.Inner fun _ => True := by
  unfold openFolder
  cases config.mode with
  | lastSynced => trivial
  | syncToken =>
    refine ⟨⟨id, id⟩, fun reply => ?_⟩
    cases reply <;> trivial

/-- A mailbox is completed without handing anything over. -/
lemma Folders.complete_within (f : Folders) :
    f.complete.Within Call.Inner fun _ => True := by
  refine ⟨⟨id, id⟩, fun reply => ?_⟩
  cases reply with
  | error failure => trivial
  | ok _ => exact ⟨⟨id, id⟩, fun _ => trivial⟩

/-- The next folder is supplied without handing anything over. -/
lemma Folders.supply_within (config : Config) (f : Folders) :
    (f.supply config).Within Call.Inner fun _ => True := by
  unfold supply
  split
  · refine f.complete_within.bind fun outcome _ => ?_
    cases outcome <;> trivial
  · refine (f.openFolder_within config _).bind fun opened _ => ?_
    cases opened <;> trivial

/-- A turn of the crawl of a mailbox hands nothing over and does not give the mailbox up. -/
theorem MailboxCrawl.turn_within (config : Config) (c : MailboxCrawl) :
    (c.turn config).Within Call.Inner fun _ => True :=
  Chain.turn_within (Folders.supply_within config)
    (Chain.turn_within (Pages.supply_within config)
      (Chain.turn_within (Batches.supply_within config) (listTurn_within _))) c

/-- Opening a mailbox hands nothing over and does not give the mailbox up. -/
lemma MailboxCrawl.start_within (config : Config) (mailbox : String) :
    (MailboxCrawl.start config mailbox).Within Call.Inner fun _ => True := by
  have hnoted : ∀ folders : List FolderId, Call.Inner (.note
      (if folders.isEmpty then .noFolders mailbox else .foldersFound folders.length mailbox)) := by
    intro folders
    split <;> exact ⟨id, id⟩
  unfold start
  refine ⟨⟨id, id⟩, fun startedAt => ?_⟩
  cases config.mode with
  | syncToken =>
    refine ⟨⟨id, id⟩, fun reply => ?_⟩
    cases reply with
    | error failure => trivial
    | ok folders => exact ⟨hnoted folders, fun _ => trivial⟩
  | lastSynced =>
    refine ⟨⟨id, id⟩, fun changedSince => ?_⟩
    cases changedSince with
    | error failure => trivial
    | ok changedSince =>
      refine ⟨⟨id, id⟩, fun reply => ?_⟩
      cases reply with
      | error failure => trivial
      | ok folders => exact ⟨hnoted folders, fun _ => trivial⟩

/-! ### Turns of several mailboxes -/

/-- A turn of the crawl hands nothing over, and it says that the crawl has ended only when the crawl
is exhausted. -/
theorem Roster.turn_within (config : Config) (r : Roster) :
    (r.turn config).Within (fun c => ¬ c.ToSink) fun said =>
      ∀ r', said = .ended r' → r'.phase = .exhausted := by
  obtain ⟨waiting, phase, failed⟩ := r
  cases phase with
  | exhausted =>
    rintro r' hr'
    cases hr'
    rfl
  | between =>
    cases waiting with
    | nil =>
      rintro r' hr'
      cases hr'
      rfl
    | cons name names =>
      refine ((MailboxCrawl.start_within config name).mono (fun _ => And.left)
        fun _ _ => trivial).bind fun opened _ => ?_
      cases opened with
      | error failure => exact ⟨id, fun _ _ hr' => by cases hr'⟩
      | ok crawl => exact fun _ hr' => by cases hr'
  | crawling name crawl =>
    refine ((MailboxCrawl.turn_within config crawl).mono (fun _ => And.left)
      fun _ _ => trivial).bind fun said _ => ?_
    cases said with
    | failed failure crawl => exact ⟨id, fun _ _ hr' => by cases hr'⟩
    | value record crawl => exact fun _ hr' => by cases hr'
    | ended crawl => exact fun _ hr' => by cases hr'
    | working crawl => exact fun _ hr' => by cases hr'

end MailCollector.Crawl
