import MailCollector.Proofs.Crawl.Completion

/-!
# A crawl of a mailbox stops at its first failure

A program fails fast if the first call that fails is its last one, and if its result reports this
failure together with the step during which it happened (`Program.FailsFast`).  What goes on after
such a program fails fast too, provided that it passes on what is reported (`FailsFast.bind`), so
the property is proved along the levels of a crawl, with one lemma for chains
(`Chain.turn_failsFast`).

Each level knows to which mailbox it belongs, and makes calls about this mailbox only.  Opening a
mailbox fails fast after a look at the clock (`MailboxCrawl.start_failsFast`), and so does every
turn of its crawl (`MailboxCrawl.turn_failsFast`).
-/

namespace MailCollector.Crawl

open MailCollector.Calendar MailCollector.Mail MailCollector.Log

variable {α β ι σ τ : Type}

/-! ### Failing calls -/

/-- The failure of a call to the mail service or of a checkpoint, if it fails. -/
def failure? : Event → Option Failure
  | ⟨.readInstant _, .error failure⟩ | ⟨.writeInstant _ _, .error failure⟩
  | ⟨.readToken _ _, .error failure⟩ | ⟨.writeToken _ _ _, .error failure⟩
  | ⟨.listFolders _ _, .error failure⟩ | ⟨.listItems _, .error failure⟩
  | ⟨.fetchItems _ _, .error failure⟩ => some failure
  | _ => none

/-- A call fails if there is a failure of it. -/
lemma fails_iff_isSome (e : Event) : Fails e ↔ (failure? e).isSome := by
  obtain ⟨c, reply⟩ := e
  cases c with
  | clock | note n | store record | flush => exact iff_of_false id (by simp [failure?])
  | _ => cases reply <;> simp [Fails, failure?]

lemma not_fails_iff {e : Event} : ¬ Fails e ↔ failure? e = none := by
  rw [fails_iff_isSome, Option.not_isSome_iff_eq_none]

/-! ### Programs that fail fast -/

namespace Program

/-- The program makes allowed calls only.  As long as none of them fails it goes on, and it ends
`well`; when one fails, it ends at once and reports the failure. -/
def FailsFast (allowed : Call → Prop) (well : α → Prop) (reports : Failure → α → Prop) :
    Program α → Prop
  | done a => well a
  | crash _ => True
  | call c resume => allowed c ∧ ∀ reply,
    match failure? ⟨c, reply⟩ with
    | none => (resume reply).FailsFast allowed well reports
    | some failure => ∃ a step, resume reply = done a ∧ reports (failure.during step) a

variable {allowed : Call → Prop} {well : α → Prop} {reports : Failure → α → Prop}

/-- A program and what goes on after it fail fast together, if what goes on after a failure passes
it on. -/
lemma FailsFast.bind {well' : β → Prop} {reports' : Failure → β → Prop} {p : Program α}
    {f : α → Program β} (hp : p.FailsFast allowed well reports)
    (hwell : ∀ a, well a → (f a).FailsFast allowed well' reports')
    (hreports : ∀ a failure, reports failure a → ∃ b, f a = done b ∧ reports' failure b) :
    (p >>= f).FailsFast allowed well' reports' := by
  induction p with
  | done a => exact hwell a hp
  | crash reason => trivial
  | call c resume ih =>
    refine ⟨hp.1, fun reply => ?_⟩
    have hreply := hp.2 reply
    cases hfail : failure? ⟨c, reply⟩ with
    | none =>
      rw [hfail] at hreply
      exact ih reply hreply
    | some failure =>
      rw [hfail] at hreply
      obtain ⟨a, step, hdone, ha⟩ := hreply
      obtain ⟨b, hb, hreport⟩ := hreports a _ ha
      exact ⟨b, step, (congrArg (· >>= f) hdone).trans hb, hreport⟩

/-- A program without calls has nothing that could fail. -/
lemma Within.failsFast {p : Program α} (hp : p.Within (fun _ => False) well) :
    p.FailsFast allowed well reports := by
  cases p with
  | done a => exact hp
  | crash reason => trivial
  | call c resume => exact hp.1.elim

/-- The calls of a program that fails fast, and what they say of its result: it ended well and none
of them failed, or the last of them failed and this is reported. -/
def StoppedAfter (well : α → Prop) (reports : Failure → α → Prop) (a : α) (t : List Event) : Prop :=
  (well a ∧ ∀ e ∈ t, ¬ Fails e) ∨
    ∃ before e failure step, t = before ++ [e] ∧ (∀ e ∈ before, ¬ Fails e) ∧
      failure? e = some failure ∧ reports (failure.during step) a

/-- A program that fails fast adds such calls to a history. -/
lemma FailsFast.upholds {p : Program α} (hp : p.FailsFast allowed well reports) (h : List Event) :
    p.Upholds (fun _ _ => True) (fun _ => True)
      (fun a h' => ∃ t, h' = h ++ t ∧ (∀ e ∈ t, allowed e.1) ∧ StoppedAfter well reports a t)
      h := by
  induction p generalizing h with
  | done a => exact ⟨trivial, [], by simp, by simp, .inl ⟨hp, by simp⟩⟩
  | crash reason => trivial
  | call c resume ih =>
    refine ⟨trivial, fun reply _ => ?_⟩
    have hreply := hp.2 reply
    cases hfail : failure? ⟨c, reply⟩ with
    | none =>
      rw [hfail] at hreply
      have hgo : ¬ Fails ⟨c, reply⟩ := not_fails_iff.2 hfail
      refine (ih reply hreply _).mono (fun _ _ => trivial) ?_
      rintro a _ - ⟨t, rfl, hallowed, hstopped⟩
      refine ⟨⟨c, reply⟩ :: t, by simp, List.forall_mem_cons.2 ⟨hp.1, hallowed⟩, ?_⟩
      rcases hstopped with ⟨hwell, hquiet⟩ | ⟨before, e, failure, step, rfl, hquiet, he, hreport⟩
      · exact .inl ⟨hwell, List.forall_mem_cons.2 ⟨hgo, hquiet⟩⟩
      · exact .inr ⟨⟨c, reply⟩ :: before, e, failure, step, rfl,
          List.forall_mem_cons.2 ⟨hgo, hquiet⟩, he, hreport⟩
    | some failure =>
      rw [hfail] at hreply
      obtain ⟨a, step, hdone, hreport⟩ := hreply
      rw [hdone]
      exact ⟨trivial, [⟨c, reply⟩], rfl, List.forall_mem_singleton.2 hp.1,
        .inr ⟨[], _, failure, step, rfl, by simp, hfail, hreport⟩⟩

end Program

/-! ### Results that report failures -/

/-- The turn did not fail: it gave such an element, if it gave one, and left such a state. -/
def Turn.Went (element : α → Prop) (state : τ → Prop) : Turn Failure α τ → Prop
  | .value a s => element a ∧ state s
  | .failed _ _ => False
  | .ended s | .working s => state s

/-- The turn failed with this failure. -/
def Turn.Reports (failure : Failure) (said : Turn Failure α τ) : Prop :=
  ∃ s, said = .failed failure s

/-- What was tried succeeded with such a value. -/
def Succeeded (value : α → Prop) (outcome : Except Failure α) : Prop :=
  ∃ a, outcome = .ok a ∧ value a

/-- What was tried failed with this failure. -/
def Reported (failure : Failure) (outcome : Except Failure α) : Prop := outcome = .error failure

/-! ### The calls of a mailbox -/

/-- A call that the crawl of a mailbox may make after its look at the clock: it is about this
mailbox, and it writes no error to the log. -/
structure Call.OfMailbox (name : String) (c : Call) : Prop where
  ne_clock : c ≠ .clock
  concerns : c.Concerns name
  quiet : ∀ n, c = .note n → n.level ≠ .error

namespace Call

lemma ofMailbox_of_mailbox? {name : String} {c : Call} (hc : c.mailbox? = some name) :
    c.OfMailbox name where
  ne_clock := by
    rintro rfl
    cases hc
  concerns mailbox hmailbox := Option.some.inj (hmailbox.symm.trans hc)
  quiet := by
    rintro n rfl
    cases hc

lemma ofMailbox_note {n : Note} (name : String) (hn : n.level ≠ .error) :
    (note n).OfMailbox name where
  ne_clock := by simp
  concerns := by
    rintro mailbox ⟨⟩
  quiet := by
    rintro m ⟨⟩
    exact hn

lemma ofMailbox_store (record : Record) (name : String) : (store record).OfMailbox name where
  ne_clock := by simp
  concerns := by
    rintro mailbox ⟨⟩
  quiet := by
    rintro n ⟨⟩

end Call

/-! ### The levels of a crawl -/

/-- The source of a chain is such, and so is the sequence that it is draining. -/
def Chain.Owned (state : τ → Prop) (inner : ι → Prop) (c : Chain τ ι) : Prop :=
  state c.source ∧ ∀ i, c.phase = .draining i → inner i

section Chain

variable {allowed : Call → Prop} {element : α → Prop} {state : τ → Prop} {inner : ι → Prop}
  {supply : τ → Program (Turn Failure ι τ)} {next : ι → Program (Turn Failure α ι)}

/-- A turn of a chain fails fast if those of its source and of its sequences do. -/
lemma Chain.turn_failsFast
    (hsupply : ∀ s, state s → (supply s).FailsFast allowed (Turn.Went inner state) Turn.Reports)
    (hnext : ∀ i, inner i → (next i).FailsFast allowed (Turn.Went element inner) Turn.Reports)
    (c : Chain τ ι) (hc : c.Owned state inner) :
    (c.turn supply next).FailsFast allowed (Turn.Went element (Chain.Owned state inner))
      Turn.Reports := by
  obtain ⟨s, phase⟩ := c
  obtain ⟨hs, hinner⟩ := hc
  have hbetween : ∀ {s}, state s → Chain.Owned state inner ⟨s, .between⟩ := fun hs =>
    ⟨hs, fun i hi => by cases hi⟩
  have hexhausted : ∀ {s}, state s → Chain.Owned state inner ⟨s, .exhausted⟩ := fun hs =>
    ⟨hs, fun i hi => by cases hi⟩
  have hdraining : ∀ {s i}, state s → inner i → Chain.Owned state inner ⟨s, .draining i⟩ :=
    fun hs hi => ⟨hs, fun j hj => by cases hj; exact hi⟩
  cases phase with
  | exhausted => exact hexhausted hs
  | draining i =>
    refine (hnext i (hinner i rfl)).bind (fun said hsaid => ?_) ?_
    · cases said with
      | value a i' => exact ⟨hsaid.1, hdraining hs hsaid.2⟩
      | failed failure i' => exact hsaid.elim
      | ended i' => exact hbetween hs
      | working i' => exact hdraining hs hsaid
    · rintro _ failure ⟨i', rfl⟩
      exact ⟨_, rfl, _, rfl⟩
  | between =>
    refine (hsupply s hs).bind (fun said hsaid => ?_) ?_
    · cases said with
      | value i s' => exact hdraining hsaid.2 hsaid.1
      | failed failure s' => exact hsaid.elim
      | ended s' => exact hexhausted hsaid
      | working s' => exact hbetween hsaid
    · rintro _ failure ⟨s', rfl⟩
      exact ⟨_, rfl, _, rfl⟩

end Chain

variable {name : String}

/-- The page belongs to this mailbox. -/
def PageCrawl.Belongs (name : String) : PageCrawl → Prop :=
  Chain.Owned (fun b : Batches => b.mailbox = name) fun _ => True

/-- The folder belongs to this mailbox. -/
def FolderCrawl.Belongs (name : String) : FolderCrawl → Prop :=
  Chain.Owned (fun p : Pages => p.handle.mailbox = name) (PageCrawl.Belongs name)

/-- The crawl is one of this mailbox. -/
def MailboxCrawl.Belongs (name : String) : MailboxCrawl → Prop :=
  Chain.Owned (fun f : Folders => f.mailbox = name) (FolderCrawl.Belongs name)

/-- A chain that was just started is owned if its source is. -/
lemma Chain.owned_start {state : τ → Prop} {inner : ι → Prop} {s : τ} (hs : state s) :
    Chain.Owned state inner { source := s } :=
  ⟨hs, fun i hi => by cases hi⟩

lemma Batches.supply_failsFast (config : Config) (b : Batches) (hb : b.mailbox = name) :
    (b.supply config).FailsFast (Call.OfMailbox name)
      (Turn.Went (fun _ => True) fun b : Batches => b.mailbox = name) Turn.Reports := by
  unfold supply
  split
  · exact hb
  · refine ⟨Call.ofMailbox_of_mailbox? (congrArg some hb), ?_⟩
    rintro (failure | items)
    · exact ⟨_, _, rfl, _, rfl⟩
    · refine ⟨Call.ofMailbox_note name nofun, fun _ => ?_⟩
      have hrecords : (recordsOf b.mailbox b.folder items).FailsFast (Call.OfMailbox name) _
          fun _ _ => False := (recordsOf_within _ _ _ items).failsFast
      exact hrecords.bind (fun records _ => ⟨trivial, hb⟩) fun _ _ h => h.elim

lemma listTurn_failsFast {allowed : Call → Prop} (as : List α) :
    (listTurn as : Program (Turn Failure α (List α))).FailsFast allowed
      (Turn.Went (fun _ => True) fun _ => True) Turn.Reports := by
  cases as with
  | nil => trivial
  | cons a as => exact ⟨trivial, trivial⟩

lemma Pages.commit_failsFast (p : Pages) (hp : p.handle.mailbox = name) :
    p.commit.FailsFast (Call.OfMailbox name) (Succeeded fun _ => True) Reported := by
  unfold commit
  split
  · exact ⟨(), rfl, trivial⟩
  · refine ⟨Call.ofMailbox_of_mailbox? (congrArg some hp), ?_⟩
    rintro (failure | _)
    · exact ⟨_, _, rfl, rfl⟩
    · exact ⟨Call.ofMailbox_note name nofun, fun _ => ⟨(), rfl, trivial⟩⟩

/-- Moving on to the token of a page keeps the mailbox. -/
lemma FolderHandle.advance_mailbox (h : FolderHandle) (token : Option String) :
    (h.advance token).mailbox = h.mailbox := by
  rw [advance_eq]

lemma Pages.supply_failsFast (config : Config) (p : Pages) (hp : p.handle.mailbox = name) :
    (p.supply config).FailsFast (Call.OfMailbox name)
      (Turn.Went (PageCrawl.Belongs name) fun p : Pages => p.handle.mailbox = name)
      Turn.Reports := by
  unfold supply
  split
  · exact hp
  · refine (p.commit_failsFast hp).bind ?_ ?_
    · rintro _ ⟨_, rfl, -⟩
      exact hp
    · rintro _ failure rfl
      exact ⟨_, rfl, _, rfl⟩
  · refine ⟨Call.ofMailbox_of_mailbox? (congrArg some hp), ?_⟩
    rintro (failure | page)
    · exact ⟨_, _, rfl, _, rfl⟩
    · refine ⟨Call.ofMailbox_note name nofun, fun _ => ?_⟩
      have hnext : (p.handle.advance page.token).mailbox = name :=
        (p.handle.advance_mailbox page.token).trans hp
      cases page.ids with
      | nil => exact hnext
      | cons id ids => exact ⟨Chain.owned_start hp, hnext⟩

lemma Folders.openFolder_failsFast (config : Config) (f : Folders) (folder : FolderId)
    (hf : f.mailbox = name) :
    (f.openFolder config folder).FailsFast (Call.OfMailbox name)
      (Succeeded (FolderCrawl.Belongs name)) Reported := by
  unfold openFolder
  cases config.mode with
  | lastSynced => exact ⟨_, rfl, Chain.owned_start hf⟩
  | syncToken =>
    refine ⟨Call.ofMailbox_of_mailbox? (congrArg some hf), ?_⟩
    rintro (failure | token)
    · exact ⟨_, _, rfl, rfl⟩
    · exact ⟨_, rfl, Chain.owned_start hf⟩

lemma Folders.complete_failsFast (f : Folders) (hf : f.mailbox = name) :
    f.complete.FailsFast (Call.OfMailbox name) (Succeeded fun _ => True) Reported := by
  refine ⟨Call.ofMailbox_of_mailbox? (congrArg some hf), ?_⟩
  rintro (failure | _)
  · exact ⟨_, _, rfl, rfl⟩
  · exact ⟨Call.ofMailbox_note name nofun, fun _ => ⟨(), rfl, trivial⟩⟩

lemma Folders.supply_failsFast (config : Config) (f : Folders) (hf : f.mailbox = name) :
    (f.supply config).FailsFast (Call.OfMailbox name)
      (Turn.Went (FolderCrawl.Belongs name) fun f : Folders => f.mailbox = name)
      Turn.Reports := by
  unfold supply
  split
  · refine (f.complete_failsFast hf).bind ?_ ?_
    · rintro _ ⟨_, rfl, -⟩
      exact hf
    · rintro _ failure rfl
      exact ⟨_, rfl, _, rfl⟩
  · refine (f.openFolder_failsFast config _ hf).bind ?_ ?_
    · rintro _ ⟨crawl, rfl, hcrawl⟩
      exact ⟨hcrawl, hf⟩
    · rintro _ failure rfl
      exact ⟨_, rfl, _, rfl⟩

/-- A turn of the crawl of a mailbox fails fast. -/
theorem MailboxCrawl.turn_failsFast (config : Config) (c : MailboxCrawl) (hc : c.Belongs name) :
    (c.turn config).FailsFast (Call.OfMailbox name)
      (Turn.Went (fun _ => True) (MailboxCrawl.Belongs name)) Turn.Reports :=
  Chain.turn_failsFast (Folders.supply_failsFast config)
    (Chain.turn_failsFast (Pages.supply_failsFast config)
      (Chain.turn_failsFast (Batches.supply_failsFast config) fun as _ => listTurn_failsFast as))
    c hc

/-- Once the instant to resume from is known, opening a mailbox lists its folders and fails fast. -/
lemma MailboxCrawl.listed_failsFast (name : String) (startedAt : Instant)
    (changedSince : Option Instant)
    {listed : Except Failure (List FolderId) → Program (Except Failure MailboxCrawl)}
    (hfailed : ∀ failure, listed (.error failure) =
      pure (.error (failure.during (.listingFolders name))))
    (hfound : ∀ folders, listed (.ok folders) =
      Program.note (if folders.isEmpty then .noFolders name
        else .foldersFound folders.length name) >>= fun _ =>
      pure (.ok { source := ⟨name, startedAt, changedSince, folders⟩ })) :
    (Program.ask (.listFolders name root) >>= listed).FailsFast (Call.OfMailbox name)
      (Succeeded (MailboxCrawl.Belongs name)) Reported := by
  refine ⟨Call.ofMailbox_of_mailbox? rfl, ?_⟩
  rintro (failure | folders)
  · exact ⟨_, .listingFolders name, hfailed failure, rfl⟩
  · have hnote : (if folders.isEmpty then Note.noFolders name
        else .foldersFound folders.length name).level ≠ .error := by
      split <;> nofun
    change (listed (.ok folders)).FailsFast _ _ _
    rw [hfound]
    exact ⟨Call.ofMailbox_note name hnote, fun _ => ⟨_, rfl, Chain.owned_start rfl⟩⟩

/-- Opening a mailbox looks at the clock, and fails fast after that. -/
theorem MailboxCrawl.start_failsFast (config : Config) (name : String) :
    ∃ opening : Instant → Program (Except Failure MailboxCrawl),
      MailboxCrawl.start config name = Program.call .clock opening ∧
      ∀ startedAt, (opening startedAt).FailsFast (Call.OfMailbox name)
        (Succeeded (MailboxCrawl.Belongs name)) Reported := by
  refine ⟨_, rfl, fun startedAt => ?_⟩
  cases config.mode with
  | syncToken => exact listed_failsFast name startedAt none (fun _ => rfl) fun _ => rfl
  | lastSynced =>
    refine ⟨Call.ofMailbox_of_mailbox? rfl, ?_⟩
    rintro (failure | changedSince)
    · exact ⟨_, _, rfl, rfl⟩
    · exact listed_failsFast name startedAt changedSince (fun _ => rfl) fun _ => rfl

end MailCollector.Crawl
