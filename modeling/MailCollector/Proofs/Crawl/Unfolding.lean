import MailCollector.Crawl.Plain
import MailCollector.Proofs.Program.Laws

/-!
# Unfolding the plain loop turn by turn

Every state of a lazy sequence stands for what remains of the plain nested loop.  This file says
what that is for each level of the crawl (`PageCrawl.rest`, `FolderCrawl.rest`,
`MailboxCrawl.rest`), and proves that a turn followed by what remains after it begins what remained
before it (`Unfolds`).

The rest of a loop over pages takes a bound on the number of pages, as the loop itself does.  A turn
lists at most one page, so it costs at most one unit of the bound.  Attempts are ordered by how
early the bound ends them, and all comparisons are made in this order.

A chain unfolds if its source and its inner sequences do (`Unfolds.chain`).  This one lemma carries
the argument through all levels; what is left for each level is its source.
-/

namespace MailCollector.Crawl

open MailCollector.Calendar MailCollector.Mail MailCollector.Log

variable {α β ι τ : Type}

/-! ### Attempts by how early they are ended -/

namespace Plain

/-- The result of an attempt that its bound ended. -/
def IsCut (result : Except Halt α) : Prop := result = .error .unfinished

lemma isCut_unfinished : IsCut (.error .unfinished : Except Halt α) := rfl

/-- One attempt is at most another one if it makes the same calls, but may be ended by its bound. -/
instance : Preorder (Attempt α) where
  le p q := Program.Begins IsCut Eq p.run q.run
  le_refl p := Program.Begins.refl p.run
  le_trans p q r hpq hqr := Program.Begins.trans hpq hqr

namespace Attempt

lemma le_def {p q : Attempt α} : p ≤ q ↔ Program.Begins IsCut Eq p.run q.run := Iff.rfl

/-- What is ended at once is at most anything. -/
lemma unfinished_le (p : Attempt α) : throw .unfinished ≤ p :=
  Program.Begins.cut isCut_unfinished p.run

/-- Going on is monotone in both attempts. -/
lemma bind_le_bind {p q : Attempt α} {f g : α → Attempt β} (hpq : p ≤ q)
    (hfg : ∀ a, f a ≤ g a) : p >>= f ≤ q >>= g := by
  refine Program.Begins.bind (le_def.1 hpq) ?_ ?_
  · rintro a ha q'
    cases ha
    exact Program.Begins.cut isCut_unfinished q'
  · rintro a b rfl
    cases a with
    | ok a => exact hfg a
    | error halt => exact le_refl (throw halt : Attempt β)

/-- Lifting a program step by step. -/
lemma lift_bind (p : Program α) (f : α → Program β) :
    (ExceptT.lift (p >>= f) : Attempt β) = ExceptT.lift p >>= fun a => ExceptT.lift (f a) := by
  apply ExceptT.ext
  simp

@[simp] lemma lift_done (a : α) :
    (ExceptT.lift (Program.done a) : Attempt α) = pure a := rfl

/-- A loop is monotone in its body. -/
lemma forM_le_forM {f g : α → Attempt Unit} (as : List α) (hfg : ∀ a, f a ≤ g a) :
    as.forM f ≤ as.forM g := by
  induction as with
  | nil => exact le_refl _
  | cons a as ih => exact bind_le_bind (hfg a) fun _ => ih

end Attempt

end Plain

open Plain Plain.Attempt

/-- A program that may fail, as an attempt. -/
def attempt (outcome : Program (Except Failure α)) : Attempt α := do
  match ← ExceptT.lift outcome with
  | .ok a => pure a
  | .error failure => throw (.failed failure)

lemma attempt_bind (p : Program α) (f : α → Program (Except Failure β)) :
    attempt (p >>= f) = ExceptT.lift p >>= fun a => attempt (f a) := by
  simp only [attempt, lift_bind, bind_assoc]

/-- Going on after a step that may fail, where the failure names the step. -/
lemma attempt_step (step : Step) {p : Program (Except Failure α)}
    {f : Except Failure α → Program (Except Failure β)}
    (herror : ∀ failure, f (.error failure) = pure (.error (failure.during step))) :
    attempt (p >>= f) = tried step p >>= fun a => attempt (f (.ok a)) := by
  rw [attempt_bind, tried, bind_assoc]
  refine bind_congr fun outcome => ?_
  cases outcome with
  | ok a => rfl
  | error failure => rw [herror]; rfl

/-! ### Turns and what remains after them -/

/-- What a turn means for a loop over the elements, given what remains in each state. -/
def Turn.resume (element : α → Attempt Unit) (rest : τ → Attempt Unit) :
    Turn Failure α τ → Attempt Unit
  | .value a s => do
    element a
    rest s
  | .failed failure _ => throw (.failed failure)
  | .ended _ => pure ()
  | .working s => rest s

/-- A sequence unfolds to a loop if, with one unit of the bound for each turn, the loop does what
the turn says and goes on with what remains after it. -/
structure Unfolds (turn : τ → Program (Turn Failure α τ)) (element : ℕ → α → Attempt Unit)
    (rest : ℕ → τ → Attempt Unit) : Prop where
  grows : ∀ bound s, rest bound s ≤ rest (bound + 1) s
  turn_le : ∀ bound s,
    (ExceptT.lift (turn s) >>= Turn.resume (element bound) (rest bound)) ≤ rest (bound + 1) s

/-- What remains of a chain: the rest of the sequence that is being drained, then the rest of the
source. -/
def Chain.rest (inner : ι → Attempt Unit) (source : τ → Attempt Unit) (c : Chain τ ι) :
    Attempt Unit :=
  match c.phase with
  | .exhausted => pure ()
  | .draining i => do
    inner i
    source c.source
  | .between => source c.source

section Chain

variable (supply : τ → Program (Turn Failure ι τ)) (next : ι → Program (Turn Failure α ι))
  (element : α → Attempt Unit) (inner : ι → Attempt Unit) (source : τ → Attempt Unit) (s : τ)

/-- Going on after a turn of a chain that is draining a sequence. -/
lemma resume_turn_draining (i : ι) :
    ExceptT.lift (Chain.turn supply next ⟨s, .draining i⟩) >>=
        Turn.resume element (Chain.rest inner source) =
      (ExceptT.lift (next i) >>= Turn.resume element inner) >>= fun _ => source s := by
  simp only [Chain.turn, lift_bind, bind_assoc]
  refine bind_congr fun said => ?_
  cases said <;> simp [Turn.resume, Chain.rest]

/-- Going on after a turn of a chain that asks its source for a sequence. -/
lemma resume_turn_between :
    ExceptT.lift (Chain.turn supply next ⟨s, .between⟩) >>=
        Turn.resume element (Chain.rest inner source) =
      ExceptT.lift (supply s) >>= Turn.resume inner source := by
  simp only [Chain.turn, lift_bind, bind_assoc]
  refine bind_congr fun said => ?_
  cases said <;> simp [Turn.resume, Chain.rest]

end Chain

/-- A chain unfolds if its source and the sequences that it supplies do. -/
theorem Unfolds.chain {supply : τ → Program (Turn Failure ι τ)}
    {next : ι → Program (Turn Failure α ι)} {element : ℕ → α → Attempt Unit}
    {inner : ℕ → ι → Attempt Unit} {source : ℕ → τ → Attempt Unit}
    (hsource : Unfolds supply inner source) (hinner : Unfolds next element inner) :
    Unfolds (Chain.turn supply next) element fun bound =>
      Chain.rest (inner bound) (source bound) where
  grows bound c := by
    obtain ⟨s, phase⟩ := c
    cases phase with
    | exhausted => exact le_refl _
    | draining i => exact bind_le_bind (hinner.grows bound i) fun _ => hsource.grows bound s
    | between => exact hsource.grows bound s
  turn_le bound c := by
    obtain ⟨s, phase⟩ := c
    cases phase with
    | exhausted => exact le_refl _
    | draining i =>
      rw [resume_turn_draining]
      exact bind_le_bind (hinner.turn_le bound i) fun _ => hsource.grows bound s
    | between =>
      rw [resume_turn_between]
      exact hsource.turn_le bound s

/-! ### Records and batches -/

/-- A record is handed over, whatever the bound. -/
def handed (_bound : ℕ) (record : Record) : Attempt Unit := ExceptT.lift (hand record)

/-- What remains of a list of records. -/
def recordsRest (records : List Record) : Attempt Unit := ExceptT.lift (records.forM hand)

/-- A list of records unfolds. -/
lemma unfolds_records : Unfolds listTurn handed fun _ => recordsRest where
  grows _ _ := le_refl _
  turn_le bound records := by
    cases records with
    | nil => exact le_refl _
    | cons record records =>
      apply le_of_eq
      simp [listTurn, Turn.resume, recordsRest, handed]

/-- What remains of the batches of a page. -/
def Batches.rest (config : Config) (b : Batches) : Attempt Unit :=
  (pieces config.detailPageSize b.waiting).forM (batch b.mailbox b.folder)

/-- The batches of a page unfold. -/
lemma unfolds_batches (config : Config) :
    Unfolds (Batches.supply config) (fun _ => recordsRest) fun _ => Batches.rest config where
  grows _ _ := le_refl _
  turn_le bound b := by
    obtain ⟨mailbox, folder, waiting⟩ := b
    apply le_of_eq
    cases waiting with
    | nil => simp [Batches.supply, Turn.resume, Batches.rest, pieces]
    | cons id ids =>
      rw [Batches.rest, pieces_cons config.detailPageSize_pos, List.forM_eq_forM, List.forM_cons]
      simp only [Batches.supply, batch, tried, lift_bind, bind_assoc]
      refine bind_congr fun reply => ?_
      cases reply with
      | error failure => simp [Turn.resume]
      | ok items =>
        simp only [noting, lift_bind, bind_assoc, pure_bind]
        refine bind_congr fun _ => bind_congr fun records => ?_
        simp [Turn.resume, recordsRest, Batches.rest]

/-- What remains of a page. -/
def PageCrawl.rest (config : Config) (c : PageCrawl) : Attempt Unit :=
  Chain.rest recordsRest (Batches.rest config) c

lemma PageCrawl.rest_start (config : Config) (mailbox : String) (folder : FolderId)
    (ids : List ItemId) :
    PageCrawl.rest config (PageCrawl.start mailbox folder ids) =
      (pieces config.detailPageSize ids).forM (batch mailbox folder) := rfl

/-- A page unfolds. -/
lemma unfolds_page (config : Config) :
    Unfolds (PageCrawl.turn config) handed fun _ => PageCrawl.rest config :=
  (unfolds_batches config).chain unfolds_records

/-! ### Pages and folders -/

/-- A larger bound lists at least as many pages. -/
lemma pages_le_pages (config : Config) (mailbox : String) (folder : FolderId)
    (changedSince : Option Instant) (bound : ℕ) (token : Option String) (offset number : ℕ) :
    pages config mailbox folder changedSince bound token offset number ≤
      pages config mailbox folder changedSince (bound + 1) token offset number := by
  induction bound generalizing token offset number with
  | zero => exact unfinished_le _
  | succ bound ih =>
    rw [pages]
    conv_rhs => rw [pages]
    refine bind_le_bind (le_refl _) fun page => bind_le_bind (le_refl _) fun _ =>
      bind_le_bind (le_refl _) fun _ => ?_
    split
    · exact le_refl _
    · exact ih _ _ _

/-- What remains of the pages of a folder. -/
def Pages.rest (config : Config) (bound : ℕ) (p : Pages) : Attempt Unit :=
  match p.stage with
  | .paging =>
    pages config p.handle.mailbox p.handle.folder p.changedSince bound p.handle.token p.offset
      p.fetched
  | .listed => Plain.commit p.handle.mailbox p.handle.folder p.fetched p.handle.token
  | .closed => pure ()

/-- Moving on to the token of a page keeps the mailbox and the folder. -/
lemma FolderHandle.advance_eq (h : FolderHandle) (token : Option String) :
    h.advance token = { h with token := (Text.nonEmpty token).or h.token } := by
  unfold advance
  cases Text.nonEmpty token <;> rfl

/-- Writing the token of a folder, lazily or not. -/
lemma attempt_commit (p : Pages) :
    attempt p.commit =
      Plain.commit p.handle.mailbox p.handle.folder p.fetched p.handle.token := by
  unfold Pages.commit Plain.commit
  cases p.handle.token with
  | none => rfl
  | some token =>
    refine (attempt_step (.writingToken p.handle.folder p.handle.mailbox) fun _ => rfl).trans ?_
    refine bind_congr fun _ => ?_
    rw [attempt_bind]
    exact bind_pure_unit

/-- What remains after a page was listed: its last write if the page was short, and the following
pages otherwise. -/
lemma rest_after_page (config : Config) (bound : ℕ) (p : Pages) (page : IdPage) :
    Pages.rest config bound
        { p with
          handle := p.handle.advance page.token
          offset := Pages.nextOffset p.offset page
          fetched := p.fetched + 1
          stage := if page.entries < config.idPageSize then .listed else .paging } =
      if page.entries < config.idPageSize then
        Plain.commit p.handle.mailbox p.handle.folder (p.fetched + 1)
          ((Text.nonEmpty page.token).or p.handle.token)
      else
        pages config p.handle.mailbox p.handle.folder p.changedSince bound
          ((Text.nonEmpty page.token).or p.handle.token) (Pages.nextOffset p.offset page)
          (p.fetched + 1) := by
  rw [FolderHandle.advance_eq]
  split <;> rfl

/-- The pages of a folder unfold. -/
lemma unfolds_pages (config : Config) :
    Unfolds (Pages.supply config) (fun _ => PageCrawl.rest config) (Pages.rest config) where
  grows bound p := by
    cases hstage : p.stage with
    | paging =>
      simp only [Pages.rest, hstage]
      exact pages_le_pages _ _ _ _ _ _ _ _
    | listed => simp only [Pages.rest, hstage, le_refl]
    | closed => simp only [Pages.rest, hstage, le_refl]
  turn_le bound p := by
    apply le_of_eq
    cases hstage : p.stage with
    | closed => simp [Pages.supply, Pages.rest, hstage, Turn.resume]
    | listed =>
      simp only [Pages.supply, Pages.rest, hstage, lift_bind, bind_assoc, ← attempt_commit, attempt]
      refine bind_congr fun outcome => ?_
      cases outcome <;> simp [Turn.resume]
    | paging =>
      simp only [Pages.supply, Pages.rest, hstage, lift_bind, bind_assoc, pages, tried]
      refine bind_congr fun reply => ?_
      cases reply with
      | error failure => simp [Turn.resume, Pages.request]
      | ok page =>
        simp only [noting, lift_bind, bind_assoc, pure_bind]
        refine bind_congr fun _ => ?_
        rw [← rest_after_page]
        cases page.ids with
        | nil => simp [Turn.resume, pieces]
        | cons id ids => simp [Turn.resume, PageCrawl.rest_start, Pages.request]

/-- What remains of a folder. -/
def FolderCrawl.rest (config : Config) (bound : ℕ) (c : FolderCrawl) : Attempt Unit :=
  Chain.rest (PageCrawl.rest config) (Pages.rest config bound) c

/-- A folder unfolds. -/
lemma unfolds_folder (config : Config) :
    Unfolds (FolderCrawl.turn config) handed (FolderCrawl.rest config) :=
  (unfolds_pages config).chain (unfolds_page config)

/-- A folder that was just started has all its pages before it. -/
lemma FolderCrawl.rest_start (config : Config) (bound : ℕ) (mailbox : String) (folder : FolderId)
    (token : Option String) (changedSince : Option Instant) :
    FolderCrawl.rest config bound
        (FolderCrawl.start
          (({ mailbox := mailbox : FolderHandle }.withFolder folder).withToken token)
          changedSince) =
      pages config mailbox folder changedSince bound (Text.nonEmpty token) 0 0 := rfl

/-! ### Mailboxes -/

/-- What remains of the folders of a mailbox: crawling those that wait, then writing its instant. -/
def Folders.rest (config : Config) (bound : ℕ) (f : Folders) : Attempt Unit := do
  f.waiting.forM (folder config bound f.mailbox f.changedSince)
  tried (.writingInstant f.mailbox) (Program.ask (.writeInstant f.mailbox f.startedAt))
  noting (.mailboxFinished f.mailbox)

/-- A larger bound crawls at least as much of a folder. -/
lemma folder_le_folder (config : Config) (bound : ℕ) (mailbox : String)
    (changedSince : Option Instant) (f : FolderId) :
    folder config bound mailbox changedSince f ≤
      folder config (bound + 1) mailbox changedSince f := by
  unfold folder
  cases config.mode with
  | syncToken => exact bind_le_bind (le_refl _) fun _ => pages_le_pages _ _ _ _ _ _ _ _
  | lastSynced => exact pages_le_pages _ _ _ _ _ _ _ _

/-- Opening a folder and crawling it lazily is crawling it. -/
lemma rest_openFolder (config : Config) (bound : ℕ) (f : Folders) (name : FolderId) :
    attempt (f.openFolder config name) >>= FolderCrawl.rest config bound =
      folder config bound f.mailbox f.changedSince name := by
  cases hmode : config.mode with
  | syncToken =>
    simp only [Folders.openFolder, folder, hmode]
    rw [attempt_step (.readingToken name f.mailbox) fun _ => rfl, bind_assoc]
    rfl
  | lastSynced =>
    simp only [Folders.openFolder, folder, hmode]
    rfl

/-- The folders of a mailbox unfold. -/
lemma unfolds_folders (config : Config) :
    Unfolds (Folders.supply config) (FolderCrawl.rest config) (Folders.rest config) where
  grows bound f :=
    bind_le_bind (forM_le_forM _ (folder_le_folder config bound _ _)) fun _ => le_refl _
  turn_le bound f := by
    obtain ⟨mailbox, startedAt, changedSince, waiting⟩ := f
    cases waiting with
    | nil =>
      apply le_of_eq
      simp only [Folders.supply, Folders.complete, Folders.rest, tried, lift_bind, bind_assoc,
        List.forM_eq_forM, List.forM_nil, pure_bind]
      refine bind_congr fun reply => ?_
      cases reply with
      | error failure => simp [Turn.resume]
      | ok _ =>
        simp only [noting, lift_bind, bind_assoc, pure_bind]
        exact bind_pure_unit
    | cons f rest =>
      have hopen : ExceptT.lift
          (Folders.supply config ⟨mailbox, startedAt, changedSince, f :: rest⟩) >>=
            Turn.resume (FolderCrawl.rest config bound) (Folders.rest config bound) =
          Folders.rest config bound ⟨mailbox, startedAt, changedSince, f :: rest⟩ := by
        simp only [Folders.supply, Folders.rest, lift_bind, bind_assoc, List.forM_eq_forM,
          List.forM_cons,
          ← rest_openFolder config bound ⟨mailbox, startedAt, changedSince, f :: rest⟩ f, attempt]
        refine bind_congr fun opened => ?_
        cases opened <;> simp [Turn.resume, Folders.rest]
      rw [hopen]
      exact bind_le_bind (forM_le_forM _ (folder_le_folder config bound _ _)) fun _ => le_refl _

/-- What remains of a mailbox. -/
def MailboxCrawl.rest (config : Config) (bound : ℕ) (c : MailboxCrawl) : Attempt Unit :=
  Chain.rest (FolderCrawl.rest config bound) (Folders.rest config bound) c

/-- A mailbox unfolds. -/
lemma unfolds_mailbox (config : Config) :
    Unfolds (MailboxCrawl.turn config) handed (MailboxCrawl.rest config) :=
  (unfolds_folders config).chain (unfolds_folder config)

/-- Listing the folders of a mailbox and crawling them lazily is crawling them. -/
lemma rest_listFolders (config : Config) (bound : ℕ) (name : String) (startedAt : Instant)
    (changedSince : Option Instant) :
    attempt (do
        match ← Program.ask (.listFolders name MailboxCrawl.root) with
        | .error failure => pure (.error (failure.during (.listingFolders name)))
        | .ok folders => do
          Program.note
            (if folders.isEmpty then .noFolders name else .foldersFound folders.length name)
          pure (.ok { source := ⟨name, startedAt, changedSince, folders⟩ })) >>=
        MailboxCrawl.rest config bound =
      (do
        let folders ← tried (.listingFolders name)
          (Program.ask (.listFolders name MailboxCrawl.root))
        noting (if folders.isEmpty then .noFolders name else .foldersFound folders.length name)
        Folders.rest config bound ⟨name, startedAt, changedSince, folders⟩) := by
  rw [attempt_step (.listingFolders name) fun _ => rfl, bind_assoc]
  refine bind_congr fun folders => ?_
  rw [attempt_bind, bind_assoc]
  rfl

/-- Opening a mailbox and crawling it lazily is crawling it. -/
lemma rest_start (config : Config) (bound : ℕ) (name : String) :
    attempt (MailboxCrawl.start config name) >>= MailboxCrawl.rest config bound =
      mailbox config bound name := by
  cases hmode : config.mode with
  | syncToken =>
    simp only [MailboxCrawl.start, mailbox, hmode]
    rw [attempt_bind, bind_assoc]
    refine bind_congr fun startedAt => ?_
    exact rest_listFolders config bound name startedAt none
  | lastSynced =>
    simp only [MailboxCrawl.start, mailbox, hmode]
    rw [attempt_bind, bind_assoc]
    refine bind_congr fun startedAt => ?_
    rw [attempt_step (.readingInstant name) fun _ => rfl, bind_assoc]
    exact bind_congr fun changedSince =>
      rest_listFolders config bound name startedAt changedSince

/-- A larger bound crawls at least as much of a mailbox. -/
lemma mailbox_le_mailbox (config : Config) (bound : ℕ) (name : String) :
    mailbox config bound name ≤ mailbox config (bound + 1) name := by
  rw [← rest_start, ← rest_start]
  exact bind_le_bind (le_refl _) fun crawl => (unfolds_mailbox config).grows bound crawl

/-! ### Lists of mailboxes -/

namespace Roster

/-- The failures of some mailboxes, after those that failed before, the latest first. -/
def others (config : Config) (bound : ℕ) (failed : List MailboxFailure) (names : List String) :
    Program (Option (List MailboxFailure)) := do
  let failures ← mailboxes config bound names
  pure (failures.map (failed.reverse ++ ·))

/-- Settles how the crawl of a mailbox ended, and goes on with the others. -/
def settle (config : Config) (bound : ℕ) (failed : List MailboxFailure) (names : List String)
    (name : String) : Except Halt Unit → Program (Option (List MailboxFailure))
  | .ok () => others config bound failed names
  | .error .unfinished => pure none
  | .error (.failed failure) => do
    Program.note (.mailboxSkipped name failure)
    others config bound (⟨name, failure⟩ :: failed) names

/-- What remains of a list of mailboxes. -/
def rest (config : Config) (bound : ℕ) (r : Roster) : Program (Option (List MailboxFailure)) :=
  match r.phase with
  | .exhausted => pure (some r.failures)
  | .between => others config bound r.failed r.waiting
  | .crawling name crawl => do
    let ended ← (MailboxCrawl.rest config bound crawl).run
    settle config bound r.failed r.waiting name ended

/-- What a turn of the crawl means, given what remains in each state. -/
def resume (rest : Roster → Program (Option (List MailboxFailure))) :
    Turn Empty Record Roster → Program (Option (List MailboxFailure))
  | .value record r => do
    hand record
    rest r
  | .ended r | .working r => rest r
  | .failed never _ => nomatch never

/-- The loop over the mailboxes, with the bound on the pages of a folder, gave up. -/
def IsCut (result : Option (List MailboxFailure)) : Prop := result = none

lemma isCut_none : IsCut none := rfl

/-- A larger bound crawls at least as many mailboxes. -/
lemma mailboxes_begins (config : Config) (bound : ℕ) (names : List String) :
    Program.Begins IsCut Eq (mailboxes config bound names)
      (mailboxes config (bound + 1) names) := by
  induction names with
  | nil => exact Program.Begins.refl _
  | cons name names ih =>
    refine Program.Begins.bind (le_def.1 (mailbox_le_mailbox config bound name)) ?_ ?_
    · rintro ended hended q
      cases hended
      exact Program.Begins.cut isCut_none q
    · rintro ended _ rfl
      match ended with
      | .ok () => exact ih
      | .error .unfinished => exact Program.Begins.refl _
      | .error (.failed failure) =>
        refine Program.Begins.bind_left _ fun _ => Program.Begins.bind ih ?_ ?_
        · rintro failures hfailures q
          cases hfailures
          exact Program.Begins.cut isCut_none q
        · rintro failures _ rfl
          exact Program.Begins.refl _

variable (config : Config) (bound : ℕ) (failed : List MailboxFailure) (names : List String)
  (name : String)

/-- A larger bound crawls at least as many of the other mailboxes. -/
lemma others_begins :
    Program.Begins IsCut Eq (others config bound failed names)
      (others config (bound + 1) failed names) := by
  refine Program.Begins.bind (mailboxes_begins config bound names) ?_ ?_
  · rintro failures hfailures q
    cases hfailures
    exact Program.Begins.cut isCut_none q
  · rintro failures _ rfl
    exact Program.Begins.refl _

/-- Settling is monotone in what remains of the mailbox and in the bound. -/
lemma settle_begins {p q : Attempt Unit} (hpq : p ≤ q) :
    Program.Begins IsCut Eq (p.run >>= settle config bound failed names name)
      (q.run >>= settle config (bound + 1) failed names name) := by
  refine Program.Begins.bind (le_def.1 hpq) ?_ ?_
  · rintro ended hended q'
    cases hended
    exact Program.Begins.cut isCut_none q'
  · rintro ended _ rfl
    match ended with
    | .ok () => exact others_begins config bound failed names
    | .error .unfinished => exact Program.Begins.refl _
    | .error (.failed failure) =>
      exact Program.Begins.bind_left _ fun _ => others_begins config bound _ names

/-- The first of some mailboxes is crawled and settled. -/
lemma others_cons :
    others config bound failed (name :: names) =
      (mailbox config bound name).run >>= settle config bound failed names name := by
  simp only [others, mailboxes, bind_assoc]
  refine bind_congr fun ended => ?_
  match ended with
  | .ok () => rfl
  | .error .unfinished => rfl
  | .error (.failed failure) =>
    simp only [settle, others, bind_assoc]
    refine bind_congr fun _ => bind_congr fun failures => ?_
    cases failures <;> simp

/-- Opening the first of the mailboxes that wait. -/
lemma resume_turn_between :
    turn config ⟨name :: names, .between, failed⟩ >>= resume (rest config bound) =
      others config bound failed (name :: names) := by
  rw [others_cons, ← rest_start]
  simp only [turn, attempt, bind_assoc, ExceptT.run_bind, ExceptT.run_lift, bind_map_left]
  refine bind_congr fun opened => ?_
  cases opened with
  | error failure => simp [skip, resume, rest, settle]
  | ok crawl => simp [resume, rest]

/-- A turn of the mailbox that is being crawled. -/
lemma resume_turn_crawling (crawl : MailboxCrawl) :
    turn config ⟨names, .crawling name crawl, failed⟩ >>= resume (rest config bound) =
      (ExceptT.lift (crawl.turn config) >>=
          Turn.resume (handed bound) (MailboxCrawl.rest config bound)).run >>=
        settle config bound failed names name := by
  simp only [turn, bind_assoc, ExceptT.run_bind, ExceptT.run_lift, bind_map_left]
  refine bind_congr fun said => ?_
  cases said with
  | value record crawl => simp [resume, Turn.resume, handed, rest]
  | failed failure crawl => simp [skip, resume, Turn.resume, rest, settle]
  | ended crawl => simp [resume, Turn.resume, rest, settle]
  | working crawl => simp [resume, Turn.resume, rest]

/-- A turn of the crawl, followed by what remains after it, begins what remained before it. -/
theorem turn_begins (r : Roster) :
    Program.Begins IsCut Eq (r.turn config >>= resume (rest config bound))
      (rest config (bound + 1) r) := by
  obtain ⟨waiting, phase, failed⟩ := r
  cases phase with
  | exhausted => exact Program.Begins.refl _
  | between =>
    cases waiting with
    | nil =>
      refine .done ?_
      simp [failures]
    | cons name names =>
      rw [resume_turn_between]
      exact others_begins config bound _ _
  | crawling name crawl =>
    rw [resume_turn_crawling]
    exact settle_begins config bound _ _ name ((unfolds_mailbox config).turn_le bound crawl)

/-- All of the crawl remains when it starts. -/
lemma rest_start_eq (bound : ℕ) (names : List String) :
    rest config bound (start names) = mailboxes config bound names := by
  have hmap : (fun failures : Option (List MailboxFailure) =>
      failures.map (([] : List MailboxFailure).reverse ++ ·)) = id := by
    funext failures
    cases failures <;> rfl
  rw [start, rest, others]
  exact (bind_pure_comp _ _).trans ((congrArg (· <$> _) hmap).trans (id_map _))

end Roster

end MailCollector.Crawl
