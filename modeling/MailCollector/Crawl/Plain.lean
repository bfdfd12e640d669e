import MailCollector.Crawl.Roster

/-!
# The crawl as a plain nested loop

The same crawl without laziness: for each mailbox, for each folder, page after page, for each batch
of ids, hand over the records of its items. The loop over pages ends when the server says so by a
short page, which it may never do, so it takes a bound on the number of pages of a folder. Each
record is handed over by a call, and so are the records that are pulled from a lazy crawl here, so
that the traces of the two can be compared.
-/

namespace MailCollector.Crawl

open MailCollector.Calendar MailCollector.Mail MailCollector.Log

/-- Cuts a list into pieces of `n` elements, of which the last may have fewer. -/
def pieces {α : Type} (n : Nat) : List α → List (List α)
  | [] => []
  | a :: as => (a :: as.take (n - 1)) :: pieces n (as.drop (n - 1))
termination_by as => as.length
decreasing_by
  simp only [List.length_drop, List.length_cons]
  omega

theorem pieces_cons {α : Type} {n : Nat} (hn : 0 < n) (a : α) (as : List α) :
    pieces n (a :: as) = (a :: as).take n :: pieces n ((a :: as).drop n) := by
  rw [pieces, List.take_cons hn, List.drop_cons hn]

/-- No piece is empty. -/
theorem ne_nil_of_mem_pieces {α : Type} {n : Nat} {as piece : List α}
    (hpiece : piece ∈ pieces n as) : piece ≠ [] := by
  fun_induction pieces n as with
  | case1 => exact absurd hpiece List.not_mem_nil
  | case2 a as ih =>
    rcases List.mem_cons.1 hpiece with rfl | hpiece
    · exact List.cons_ne_nil _ _
    · exact ih hpiece

/-- The pieces of a list are the list. -/
theorem flatten_pieces {α : Type} (n : Nat) (as : List α) : (pieces n as).flatten = as := by
  fun_induction pieces n as with
  | case1 => rfl
  | case2 a as ih => simp [ih, List.take_append_drop]

namespace Plain

/-- What ends a loop before its time. -/
inductive Halt where
  | failed (failure : Failure)
  /-- The bound on the number of pages was met. -/
  | unfinished
deriving DecidableEq

/-- A part of the crawl that may end before its time. -/
abbrev Attempt (α : Type) := ExceptT Halt Program α

/-- Hands over a record, whatever comes of it. -/
def hand (record : Record) : Program Unit := do
  let _ ← Program.ask (.store record)
  pure ()

/-- Writes a note. -/
def noting (n : Note) : Attempt Unit := ExceptT.lift (Program.note n)

/-- The result of something that was tried during a step. -/
def tried {α : Type} (step : Step) (outcome : Program (Except Failure α)) : Attempt α := do
  match ← ExceptT.lift outcome with
  | .ok a => pure a
  | .error failure => throw (.failed (failure.during step))

/-- Fetches a batch of items and hands over their records. -/
def batch (mailbox : String) (folder : FolderId) (ids : List ItemId) : Attempt Unit := do
  let items ← tried (.fetchingItems ids.length folder mailbox)
    (Program.ask (.fetchItems mailbox ids))
  noting (.itemsFetched items.length ids.length folder mailbox)
  let records ← ExceptT.lift (recordsOf mailbox folder items)
  ExceptT.lift (records.forM hand)

/-- Writes the token of a folder, if there is one. -/
def commit (mailbox : String) (folder : FolderId) (number : Nat) : Option String → Attempt Unit
  | none => pure ()
  | some token => do
    tried (.writingToken folder mailbox) (Program.ask (.writeToken mailbox folder token))
    noting (.tokenWritten folder mailbox number)

/-- Crawls the pages of a folder, of which `number` have been listed before. -/
def pages (config : Config) (mailbox : String) (folder : FolderId)
    (changedSince : Option Instant) :
    (fuel : Nat) → (token : Option String) → (offset number : Nat) → Attempt Unit
  | 0, _, _, _ => throw .unfinished
  | fuel + 1, token, offset, number => do
    let page ← tried (.listingItems folder mailbox)
      (Program.ask (.listItems
        { mailbox := mailbox
          folder := folder
          pageSize := config.idPageSize
          cursor :=
            match config.mode with
            | .syncToken => .token token
            | .lastSynced => .offset offset changedSince }))
    noting (.pageListed (number + 1) folder mailbox page.ids.length page.entries page.saysLast)
    let token := (Text.nonEmpty page.token).or token
    (pieces config.detailPageSize page.ids).forM (batch mailbox folder)
    if page.entries < config.idPageSize then commit mailbox folder (number + 1) token
    else
      let offset := Pages.nextOffset offset page
      pages config mailbox folder changedSince fuel token offset (number + 1)

/-- Crawls a folder from its token, if the mode looks at tokens. -/
def folder (config : Config) (fuel : Nat) (mailbox : String) (changedSince : Option Instant)
    (folder : FolderId) : Attempt Unit := do
  let token ← match config.mode with
    | .syncToken => tried (.readingToken folder mailbox) (Program.ask (.readToken mailbox folder))
    | .lastSynced => pure none
  pages config mailbox folder changedSince fuel (Text.nonEmpty token) 0 0

/-- Crawls a mailbox. -/
def mailbox (config : Config) (fuel : Nat) (mailbox : String) : Attempt Unit := do
  let startedAt ← ExceptT.lift (Program.ask .clock)
  let changedSince ← match config.mode with
    | .lastSynced => tried (.readingInstant mailbox) (Program.ask (.readInstant mailbox))
    | .syncToken => pure none
  let folders ← tried (.listingFolders mailbox)
    (Program.ask (.listFolders mailbox (.wellKnown .messageRoot)))
  noting (if folders.isEmpty then .noFolders mailbox else .foldersFound folders.length mailbox)
  folders.forM (folder config fuel mailbox changedSince)
  tried (.writingInstant mailbox) (Program.ask (.writeInstant mailbox startedAt))
  noting (.mailboxFinished mailbox)

/-- Crawls mailboxes and gives the failures, or nothing if the bound was met. -/
def mailboxes (config : Config) (fuel : Nat) : List String → Program (Option (List MailboxFailure))
  | [] => pure (some [])
  | name :: rest => do
    match ← (mailbox config fuel name).run with
    | .ok () => mailboxes config fuel rest
    | .error .unfinished => pure none
    | .error (.failed failure) => do
      Program.note (.mailboxSkipped name failure)
      let failures ← mailboxes config fuel rest
      pure (failures.map (⟨name, failure⟩ :: ·))

end Plain

/-- Pulls from the lazy crawl a number of times and hands over what comes. -/
def Roster.pulls (config : Config) (fuel : Nat) : (count : Nat) → Roster → Program Roster
  | 0, r => pure r
  | count + 1, r => do
    match ← pull (turn config) fuel r with
    | .value record r => do
      Plain.hand record
      pulls config fuel count r
    | .ended r | .working r => pulls config fuel count r
    | .failed never _ => nomatch never

end MailCollector.Crawl
