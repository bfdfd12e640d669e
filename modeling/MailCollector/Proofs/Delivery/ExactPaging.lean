import MailCollector.Proofs.Crawl.Exhausting
import MailCollector.Proofs.Crawl.Visit
import MailCollector.Proofs.Delivery.LogServer
import Mathlib.Data.List.Forall2

/-!
# Paging through a log, exactly

A folder is a log of entries, with ids or without.  A server that answers for it counts all entries
of a page, whatever it says about the page being the last one (`FolderLog.Serves`).  If nothing
fails, exhausting the crawl of the folder from a position comes to an end.  With `n` entries from
there on it has made `n / pageSize + 1` requests, each one page behind the one before, has fetched
the ids of these entries in their order and each of them once, and has written the token of the end
of the log, if it pages by tokens (`exhaust_reads_exactly`).

Only an item whose date line cannot be written keeps the crawl from this end.
-/

namespace MailCollector.Crawl

open MailCollector.Calendar MailCollector.Mail MailCollector.Log Plain Plain.Attempt

/-! ### The server -/

/-- The log of a folder, whose positions have tokens. -/
structure FolderLog where
  mailbox : String
  folder : FolderId
  entries : List LogEntry
  /-- The position that a token stands for. -/
  position : String → ℕ

/-- The page that is asked for, if one is. -/
def request? : Event → Option PageRequest
  | ⟨.listItems request, _⟩ => some request
  | _ => none

namespace FolderLog

variable (log : FolderLog)

/-- The position of a cursor. -/
def cursorPosition : Cursor → ℕ
  | .token none => 0
  | .token (some token) => log.position token
  | .offset offset _ => offset

/-- How a page says where it ends.  In reply to a token it has the token of its end.  In reply to an
offset it names the offset of its end or names none, and then the crawl has to count for itself,
which it does in machine words. -/
def Continues (finish : ℕ) (page : IdPage) : Cursor → Prop
  | .token _ => ∃ next, page.token = some next ∧ next ≠ "" ∧ log.position next = finish
  | .offset _ _ =>
    page.nextOffset = some finish ∨ page.nextOffset = none ∧ finish ≤ Text.maxWord

/-- How calls are answered.  A page of the folder has the ids of the entries from the position of
the cursor on, as many as the request allows, and counts these entries.  What it says about being
the last one is free, and so is what items come back.  Nothing fails. -/
def Serves : Event → Prop
  | ⟨.listItems request, reply⟩ => request.mailbox = log.mailbox → request.folder = log.folder →
    let start := log.cursorPosition request.cursor
    let entries := LogServer.slice log.entries start request.pageSize
    ∃ page, reply = .ok page ∧ page.ids = entries.filterMap LogEntry.id? ∧
      page.entries = entries.length ∧ log.Continues (start + entries.length) page request.cursor
  | ⟨.fetchItems _ _, reply⟩ => ∃ items, reply = .ok items
  | ⟨.writeToken _ _ _, reply⟩ => reply = .ok ()
  | _ => True

/-- The position from which the folder is crawled: that of its token, or the beginning. -/
def start (config : Config) (token : Option String) : ℕ :=
  match config.mode with
  | .syncToken => log.cursorPosition (.token token)
  | .lastSynced => 0

/-! ### What is made of the log -/

/-- A request for a page of the folder at a position. -/
structure Asks (size : ℕ) (request : PageRequest) (position : ℕ) : Prop where
  mailbox : request.mailbox = log.mailbox
  folder : request.folder = log.folder
  pageSize : request.pageSize = size
  position : log.cursorPosition request.cursor = position

/-- The calls end with the write of the token for the end of the log, and they write no other. -/
def Commits (t : List Event) : Prop :=
  ∃ before token after, t = before ++ ⟨.writeToken log.mailbox log.folder token, .ok ()⟩ :: after ∧
    log.position token = log.entries.length ∧ (∀ e ∈ before, ¬ e.1.WritesToken) ∧
    ∀ e ∈ after, ∃ n, e = ⟨.note n, ()⟩

/-- The calls read the rest of the log from a position on, in pages of a size. -/
structure ReadExactly (config : Config) (start : ℕ) (t : List Event) : Prop where
  /-- The requests are for the pages at every `size`-th position. -/
  requests : List.Forall₂ (log.Asks config.idPageSize) (t.filterMap request?)
    (List.range' start ((log.entries.length - start) / config.idPageSize + 1) config.idPageSize)
  /-- The ids of the rest of the log are fetched, in their order. -/
  ids : (t.filterMap asked?).flatten = (log.entries.drop start).filterMap LogEntry.id?
  committed : config.mode = .syncToken → log.Commits t

/-- The calls for one page: it is listed, and its items are fetched and handed over. -/
structure PageRead (config : Config) (start : ℕ) (ids : List ItemId) (t : List Event) : Prop where
  requests : ∃ request, t.filterMap request? = [request] ∧ log.Asks config.idPageSize request start
  ids : (t.filterMap asked?).flatten = ids
  quiet : ∀ e ∈ t, ¬ e.1.WritesToken

variable {log} {config : Config} {start : ℕ} {t u : List Event}

/-- A short page, and then the token is written if there is one. -/
lemma PageRead.last (ht : log.PageRead config start
      ((log.entries.drop start).filterMap LogEntry.id?) t)
    (hshort : log.entries.length - start < config.idPageSize)
    (hrequests : u.filterMap request? = []) (hasked : u.filterMap asked? = [])
    (hcommits : config.mode = .syncToken → log.Commits u) : log.ReadExactly config start (t ++ u) := by
  obtain ⟨request, hrequest, hasks⟩ := ht.requests
  refine ⟨?_, ?_, fun hmode => ?_⟩
  · rw [List.filterMap_append, hrequest, hrequests, Nat.div_eq_of_lt hshort]
    exact .cons hasks .nil
  · rw [List.filterMap_append, hasked, List.append_nil, ht.ids]
  · obtain ⟨before, token, after, rfl, htoken, hbefore, hafter⟩ := hcommits hmode
    exact ⟨t ++ before, token, after, (List.append_assoc _ _ _).symm, htoken,
      List.forall_mem_append.2 ⟨ht.quiet, hbefore⟩, hafter⟩

/-- A full page, and then the rest of the log. -/
lemma PageRead.more (ht : log.PageRead config start
      (((log.entries.drop start).take config.idPageSize).filterMap LogEntry.id?) t)
    (hfull : config.idPageSize ≤ log.entries.length - start)
    (hu : log.ReadExactly config (start + config.idPageSize) u) :
    log.ReadExactly config start (t ++ u) := by
  obtain ⟨request, hrequest, hasks⟩ := ht.requests
  refine ⟨?_, ?_, fun hmode => ?_⟩
  · have hcount : (log.entries.length - start) / config.idPageSize =
        (log.entries.length - (start + config.idPageSize)) / config.idPageSize + 1 := by
      rw [Nat.sub_add_eq, Nat.div_eq_sub_div config.idPageSize_pos hfull]
    rw [List.filterMap_append, hrequest, hcount, List.range'_succ]
    exact .cons hasks hu.requests
  · rw [List.filterMap_append, List.flatten_append, ht.ids, hu.ids, ← List.drop_drop,
      ← List.filterMap_append, List.take_append_drop]
  · obtain ⟨before, token, after, rfl, htoken, hbefore, hafter⟩ := hu.committed hmode
    exact ⟨t ++ before, token, after, (List.append_assoc _ _ _).symm, htoken,
      List.forall_mem_append.2 ⟨ht.quiet, hbefore⟩, hafter⟩

end FolderLog

/-! ### Along the pages of a folder -/

section Pages

variable {log : FolderLog} {config : Config} {changedSince : Option Instant} {h : List Event}

/-- The server answers alike, whatever it was asked before. -/
abbrev FolderLog.Allows (log : FolderLog) : List Event → Event → Prop := fun _ e => log.Serves e

/-- A call that neither lists ids nor fetches items nor writes a token. -/
def Call.HandsOver : Call → Prop
  | .store _ | .note _ => True
  | _ => False

lemma asked?_eq_none {e : Event} (he : e.1.HandsOver) : asked? e = none := by
  obtain ⟨c, reply⟩ := e
  cases c <;> first | rfl | exact he.elim

lemma request?_eq_none {e : Event} {mailbox : String} (he : e.1.OfBatch mailbox) :
    request? e = none := by
  obtain ⟨c, reply⟩ := e
  cases c <;> first | rfl | exact he.elim

/-- A batch does not fail, and it asks for its ids once. -/
lemma batch_asks (mailbox : String) (folder : FolderId) (ids : List ItemId) :
    (batch mailbox folder ids).Upholds log.Allows (fun _ => True) (fun _ => False)
      (fun _ h' => ∃ t, h' = h ++ t ∧ t.filterMap asked? = [ids]) h := by
  rw [batch, upholds_bind, upholds_tried]
  refine ⟨trivial, fun reply hreply => ⟨trivial, ?_⟩⟩
  obtain ⟨items, rfl⟩ := hreply
  refine upholds_bind.2 (upholds_noting.2 ⟨trivial, fun _ => ⟨trivial, upholds_bind.2 ?_⟩⟩)
  have hrecords : ∀ h, (recordsOf mailbox folder items).Upholds log.Allows (fun _ => True) _ h :=
    fun h => (recordsOf_within _ mailbox folder items).upholds_silent trivial
  refine upholds_lift.2 ((hrecords _).mono (fun _ _ => trivial) ?_)
  rintro records _ - ⟨rfl, -⟩
  have hhands : (records.forM hand).Within Call.HandsOver fun _ => True :=
    hand_within_of (fun _ => trivial) records
  refine upholds_lift.2 ((hhands.upholds_calls _).mono (fun _ _ => trivial) ?_)
  rintro _ _ - ⟨-, t, rfl, ht⟩
  have hnone : t.filterMap asked? = [] :=
    List.filterMap_eq_nil_iff.2 fun e he => asked?_eq_none (ht e he)
  refine ⟨⟨.fetchItems mailbox ids, .ok items⟩ ::
    ⟨.note (.itemsFetched items.length ids.length folder mailbox), ()⟩ :: t, by simp, ?_⟩
  exact congrArg (ids :: ·) hnone

/-- The batches of a page do not fail, and together they ask for its ids. -/
lemma batches_ask (mailbox : String) (folder : FolderId) (size : ℕ) (ids : List ItemId) :
    ((pieces size ids).forM (batch mailbox folder)).Upholds log.Allows (fun _ => True)
      (fun _ => False) (fun _ h' => ∃ t, h' = h ++ t ∧ (t.filterMap asked?).flatten = ids ∧
        ∀ e ∈ t, e.1.OfBatch mailbox) h := by
  have hasks : ((pieces size ids).forM (batch mailbox folder)).Upholds log.Allows (fun _ => True)
      (fun _ => False) (fun _ h' => ∃ t, h' = h ++ t ∧ t.filterMap asked? = pieces size ids) h := by
    refine upholds_forM (fun before h' => ∃ t, h' = h ++ t ∧ t.filterMap asked? = before) ?_
      (pieces size ids) [] trivial ⟨[], (List.append_nil h).symm, rfl⟩
    rintro before ids _ - ⟨t, rfl, ht⟩
    refine (batch_asks mailbox folder ids).mono ?_
    rintro _ _ - ⟨u, rfl, hu⟩
    exact ⟨t ++ u, List.append_assoc _ _ _, by rw [List.filterMap_append, ht, hu]⟩
  have hcalls : Program.Upholds log.Allows _ _ _ h :=
    Program.Within.upholds_calls (batches_within mailbox folder size ids) h
  refine Program.Upholds.mono (Program.Upholds.and hasks hcalls) (fun _ _ => trivial) ?_
  rintro result _ - ⟨hresult, -, t, rfl, ht⟩
  cases result with
  | error halt => exact hresult
  | ok _ =>
    obtain ⟨t', hsame, hasked⟩ := hresult
    obtain rfl := List.append_cancel_left hsame
    exact ⟨t, rfl, by rw [hasked, flatten_pieces], ht⟩

/-- The calls that write the token of a folder, if there is one. -/
def written (log : FolderLog) (number : ℕ) : Option String → List Event
  | none => []
  | some token =>
    [⟨.writeToken log.mailbox log.folder token, .ok ()⟩,
      ⟨.note (.tokenWritten log.folder log.mailbox number), ()⟩]

lemma request?_written (number : ℕ) (token : Option String) :
    (written log number token).filterMap request? = [] := by
  cases token <;> rfl

lemma asked?_written (number : ℕ) (token : Option String) :
    (written log number token).filterMap asked? = [] := by
  cases token <;> rfl

/-- The token of a folder is written, if there is one, and nothing else is done. -/
lemma commit_writes (number : ℕ) (token : Option String) :
    (commit log.mailbox log.folder number token).Upholds log.Allows (fun _ => True)
      (fun _ => False) (fun _ h' => h' = h ++ written log number token) h := by
  cases token with
  | none => exact upholds_pure.2 ⟨trivial, (List.append_nil h).symm⟩
  | some token =>
    rw [commit, upholds_bind, upholds_tried]
    refine ⟨trivial, fun reply hreply => ⟨trivial, ?_⟩⟩
    cases hreply
    exact upholds_noting.2 ⟨trivial, fun _ => ⟨trivial, List.append_assoc _ _ _⟩⟩

/-- A token that is not empty counts as one. -/
lemma nonEmpty_some {text : String} (h : text ≠ "") : Text.nonEmpty (some text) = some text := by
  simp [Text.nonEmpty, h]

/-- The cursor of a request, by the mode of the crawl. -/
def cursorOf (config : Config) (changedSince : Option Instant) (token : Option String)
    (offset : ℕ) : Cursor :=
  match config.mode with
  | .syncToken => .token token
  | .lastSynced => .offset offset changedSince

lemma cursorOf_syncToken (hmode : config.mode = .syncToken) (token : Option String) (offset : ℕ) :
    cursorOf config changedSince token offset = .token token := by
  rw [cursorOf, hmode]

lemma cursorOf_lastSynced (hmode : config.mode = .lastSynced) (token : Option String)
    (offset : ℕ) : cursorOf config changedSince token offset = .offset offset changedSince := by
  rw [cursorOf, hmode]

/-- The next cursor is at the end of the page, whether by its token or by its offset. -/
lemma cursorPosition_next {token : Option String} {offset : ℕ} {page : IdPage}
    (hcontinues : log.Continues
      (log.cursorPosition (cursorOf config changedSince token offset) + page.entries) page
      (cursorOf config changedSince token offset)) :
    log.cursorPosition (cursorOf config changedSince ((Text.nonEmpty page.token).or token)
      (Pages.nextOffset offset page)) =
      log.cursorPosition (cursorOf config changedSince token offset) + page.entries := by
  cases hmode : config.mode with
  | syncToken =>
    rw [cursorOf_syncToken hmode] at hcontinues ⊢
    obtain ⟨next, hnext, hnonempty, hposition⟩ := hcontinues
    rw [cursorOf_syncToken hmode, ← hposition, hnext, nonEmpty_some hnonempty, Option.some_or]
    rfl
  | lastSynced =>
    rw [cursorOf_lastSynced hmode] at hcontinues ⊢
    rw [cursorOf_lastSynced hmode]
    simp only [FolderLog.cursorPosition, Pages.nextOffset] at hcontinues ⊢
    rcases hcontinues with hnext | ⟨hnext, hword⟩
    · rw [hnext, Option.getD_some]
    · rw [hnext, Option.getD_none]
      exact Nat.mod_eq_of_lt (Nat.lt_succ_of_le hword)

/-- The token of the last page, which ends the log, is written. -/
lemma commits_last {token : Option String} {offset number : ℕ} {page : IdPage}
    (hmode : config.mode = .syncToken)
    (hcontinues : log.Continues log.entries.length page
      (cursorOf config changedSince token offset)) :
    log.Commits (written log number ((Text.nonEmpty page.token).or token)) := by
  rw [cursorOf_syncToken hmode] at hcontinues
  obtain ⟨next, hnext, hnonempty, hposition⟩ := hcontinues
  rw [hnext, nonEmpty_some hnonempty, Option.some_or]
  exact ⟨[], next, _, rfl, hposition, by simp, by simp⟩

/-- A page is read by listing it and going through its batches. -/
lemma pageRead_listed {start : ℕ} {cursor : Cursor} {page : IdPage} {note : Note}
    {batches : List Event} (hposition : log.cursorPosition cursor = start)
    (hasked : (batches.filterMap asked?).flatten = page.ids)
    (hbatches : ∀ e ∈ batches, e.1.OfBatch log.mailbox) :
    log.PageRead config start page.ids
      (⟨.listItems ⟨log.mailbox, log.folder, config.idPageSize, cursor⟩, .ok page⟩ ::
        ⟨.note note, ()⟩ :: batches) := by
  have hrequests : batches.filterMap request? = [] :=
    List.filterMap_eq_nil_iff.2 fun e he => request?_eq_none (hbatches e he)
  refine ⟨⟨_, congrArg (_ :: ·) hrequests, rfl, rfl, rfl, hposition⟩, hasked, ?_⟩
  exact List.forall_mem_cons.2 ⟨id, List.forall_mem_cons.2 ⟨id, fun e he =>
    (hbatches e he).quiet.2⟩⟩

/-- The pages of a folder are read exactly, if their number is not bounded too low. -/
lemma pages_read {bound offset number start : ℕ} {token : Option String}
    (hposition : log.cursorPosition (cursorOf config changedSince token offset) = start)
    (hstart : start ≤ log.entries.length)
    (hbound : (log.entries.length - start) / config.idPageSize < bound) :
    (pages config log.mailbox log.folder changedSince bound token offset number).Upholds
      log.Allows (fun _ => True) (fun _ => False)
      (fun _ h' => ∃ t, h' = h ++ t ∧ log.ReadExactly config start t) h := by
  induction bound generalizing token offset number start h with
  | zero => exact absurd hbound (Nat.not_lt_zero _)
  | succ bound ih =>
    rw [pages, upholds_bind, upholds_tried]
    refine ⟨trivial, fun reply hreply => ⟨trivial, ?_⟩⟩
    have hanswer : log.Serves ⟨.listItems ⟨log.mailbox, log.folder, config.idPageSize,
        cursorOf config changedSince token offset⟩, reply⟩ := hreply
    obtain ⟨page, rfl, hids, hcount, hcontinues⟩ := hanswer rfl rfl
    dsimp only at hids hcount hcontinues
    rw [hposition] at hids hcount hcontinues
    rw [← hcount] at hcontinues
    refine upholds_bind.2 (upholds_noting.2 ⟨trivial, fun _ => ⟨trivial, upholds_bind.2 ?_⟩⟩)
    refine (batches_ask log.mailbox log.folder _ page.ids).mono ?_
    rintro _ _ - ⟨batches, rfl, hasked, hbatches⟩
    have hlength : page.entries = min config.idPageSize (log.entries.length - start) := by
      rw [hcount, LogServer.slice, List.length_take, List.length_drop]
    let listed : Event := ⟨.listItems ⟨log.mailbox, log.folder, config.idPageSize,
      cursorOf config changedSince token offset⟩, .ok page⟩
    let noted : Event := ⟨.note (.pageListed (number + 1) log.folder log.mailbox page.ids.length
      page.entries page.saysLast), ()⟩
    have hpage : log.PageRead config start page.ids (listed :: noted :: batches) :=
      pageRead_listed hposition hasked hbatches
    split
    · rename_i hshort
      have hrest : log.entries.length - start < config.idPageSize := by omega
      have hall : LogServer.slice log.entries start config.idPageSize = log.entries.drop start := by
        refine List.take_of_length_le ?_
        rw [List.length_drop]
        omega
      have hend : start + page.entries = log.entries.length := by omega
      rw [hids, hall] at hpage
      rw [hend] at hcontinues
      refine (commit_writes _ _).mono ?_
      rintro _ _ - rfl
      refine ⟨listed :: noted :: batches ++ written log (number + 1)
        ((Text.nonEmpty page.token).or token), ?_, hpage.last hrest (request?_written _ _)
          (asked?_written _ _) fun hmode => commits_last hmode hcontinues⟩
      simp only [List.append_assoc]
      rfl
    · rename_i hfull
      have hsize : page.entries = config.idPageSize := by omega
      have hnext := cursorPosition_next (hposition ▸ hcontinues)
      rw [hposition, hsize] at hnext
      rw [hids, LogServer.slice] at hpage
      refine (ih hnext (by omega) ?_).mono ?_
      · have hdiv : (log.entries.length - start) / config.idPageSize =
            (log.entries.length - start - config.idPageSize) / config.idPageSize + 1 :=
          Nat.div_eq_sub_div config.idPageSize_pos (by omega)
        rw [Nat.sub_add_eq]
        omega
      · rintro _ _ - ⟨t, rfl, ht⟩
        refine ⟨listed :: noted :: batches ++ t, ?_, hpage.more (by omega) ht⟩
        simp only [List.append_assoc]
        rfl

end Pages

/-! ### The main result -/

/-- Exhausting the crawl of a folder from a position in its log comes to an end, and reads the rest
of the log exactly, if the server answers for the log and the date lines of all items that come back
can be written. -/
theorem exhaust_reads_exactly {σ : Type} (log : FolderLog) (config : Config)
    (token : Option String) (changedSince : Option Instant) (world : World σ)
    (hserves : ∀ c w, log.Serves ⟨c, (world.answer c w).1⟩)
    (hstart : log.start config token ≤ log.entries.length) (w : σ) :
    ∃ enough, ∀ turns ≥ enough,
      let crawl := (exhaust (FolderCrawl.turn config) turns
        (FolderCrawl.start ⟨log.mailbox, log.folder, token⟩ changedSince)).run
      (∀ items ∈ (crawl.trace world w).filterMap fetched?, ∀ item ∈ items, datable item) →
        (crawl.run world w).1 = .ok (.ok ()) ∧
          log.ReadExactly config (log.start config token) (crawl.trace world w) := by
  have hposition : log.cursorPosition (cursorOf config changedSince token 0) =
      log.start config token := by
    unfold cursorOf FolderLog.start
    cases config.mode <;> rfl
  set bound := (log.entries.length - log.start config token) / config.idPageSize + 1
  set start := FolderCrawl.start ⟨log.mailbox, log.folder, token⟩ changedSince
  have hread : ∀ bound' ≥ bound, Attempt.Upholds log.Allows (fun _ => True) (fun _ => False) _
      (FolderCrawl.rest config bound' start) [] := fun bound' hbound =>
    pages_read hposition hstart hbound
  have hadmits : ∀ {α : Type} (p : Program α), Admits log.Allows [] (p.trace world w) :=
    fun p => p.trace_admits hserves [] w
  have huncut : ∀ result, ((FolderCrawl.rest config bound start).run.run world w).1 = .ok result →
      ¬ IsCut result := by
    rintro result hrun rfl
    exact (hread bound (Nat.le_refl _)).run (hadmits _) hrun
  obtain ⟨enough, henough⟩ := exhaust_finishes (unfolds_folder config) FolderCrawl.slack_le
    FolderCrawl.slack_lt huncut
  refine ⟨max enough bound, fun turns hturns => ?_⟩
  obtain ⟨hfinishes, hbound⟩ := Nat.max_le.1 hturns
  intro crawl hdatable
  have hupholds := (le_def.1 (exhaust_le (unfolds_folder config) turns start)).upholds
    (hread turns hbound)
  cases hrun : (crawl.run world w).1 with
  | error reason =>
    obtain ⟨items, hitems, item, hitem, hundatable⟩ :=
      (exhaust_sturdy (FolderCrawl.turn_sturdy config) turns start).crash_iff.1 ⟨reason, hrun⟩
    rw [hdatable items hitems item hitem] at hundatable
    cases hundatable
  | ok result =>
    rcases hupholds.run (hadmits _) hrun with rfl | ⟨_, rfl, hended⟩
    · exact absurd hrun (henough turns hfinishes)
    · cases result with
      | error halt => exact hended.elim
      | ok _ =>
        obtain ⟨t, ht, hexactly⟩ := hended
        rw [List.nil_append, List.nil_append] at ht
        exact ⟨rfl, ht ▸ hexactly⟩

/-- A log that fills two pages of two entries. -/
def evenLog : FolderLog where
  mailbox := "m"
  folder := .default
  entries := [.item ⟨"a"⟩, .deletion, .deletion, .item ⟨"b"⟩]
  position token := token.length - 1

/-- A server for this log, which calls every page the last one. -/
def evenReply : (c : Call) → c.Reply
  | .clock => default
  | .readInstant _ => .ok none
  | .writeInstant _ _ => .ok ()
  | .readToken _ _ => .ok none
  | .writeToken _ _ _ => .ok ()
  | .listFolders _ _ => .ok [.default]
  | .listItems request =>
    let start := evenLog.cursorPosition request.cursor
    let entries := LogServer.slice evenLog.entries start request.pageSize
    .ok
      { ids := entries.filterMap LogEntry.id?
        nextOffset := some (start + entries.length)
        token := some (String.ofList (List.replicate (start + entries.length + 1) 'x'))
        saysLast := true
        entriesReturned := entries.length }
  | .fetchItems _ ids => .ok (ids.map fun id => { id := id })
  | .store _ => .ok ()
  | .flush => .ok ()
  | .note _ => ()

/-- The server as a world. -/
def evenWorld : World Unit where
  answer c _ := (evenReply c, ())

lemma evenWorld_serves (c : Call) (w : Unit) : evenLog.Serves ⟨c, (evenWorld.answer c w).1⟩ := by
  cases c with
  | listItems request =>
    obtain ⟨mailbox, folder, pageSize, cursor⟩ := request
    refine fun _ _ => ⟨_, rfl, rfl, Nat.max_eq_left (List.length_filterMap_le _ _), ?_⟩
    cases cursor with
    | token token =>
      refine ⟨_, rfl, fun hempty => ?_, by simp [evenLog]⟩
      simpa using congrArg String.length hempty
    | offset offset changedSince => exact .inl rfl
  | fetchItems mailbox ids => exact ⟨_, rfl⟩
  | writeToken mailbox folder token => exact rfl
  | _ => trivial

/-- No item of this server has a date line. -/
lemma evenWorld_datable {α : Type} (p : Program α) :
    ∀ items ∈ (p.trace evenWorld ()).filterMap fetched?, ∀ item ∈ items, datable item := by
  let plain : Event → Prop := fun e => ∀ items, fetched? e = some items → ∀ item ∈ items,
    datable item
  have hadmits : Admits (fun _ e => plain e) [] (p.trace evenWorld ()) := by
    refine Program.trace_admits (fun c w items hitems item hitem => ?_) p [] ()
    cases c <;> cases hitems
    obtain ⟨id, -, rfl⟩ := List.mem_map.1 hitem
    rfl
  intro items hitems
  obtain ⟨e, he, hfetched⟩ := List.mem_filterMap.1 hitems
  have hkept : ∀ (_ : List Event) e, plain e → plain e := fun _ _ hplain => hplain
  exact hadmits.forall_mem hkept e he items hfetched

/-- The last page of the log is full, so it takes a third request, which is empty. -/
theorem evenLog_read_exactly :
    ∃ turns, let crawl := (exhaust (FolderCrawl.turn (Config.ofRequested 2 5)) turns
        (FolderCrawl.start ⟨"m", .default, none⟩ none)).run
      (crawl.run evenWorld ()).1 = .ok (.ok ()) ∧
        ((crawl.trace evenWorld ()).filterMap request?).length = 3 ∧
        ((crawl.trace evenWorld ()).filterMap asked?).flatten = [⟨"a"⟩, ⟨"b"⟩] ∧
        evenLog.Commits (crawl.trace evenWorld ()) := by
  obtain ⟨enough, henough⟩ := exhaust_reads_exactly evenLog (Config.ofRequested 2 5) none none
    evenWorld evenWorld_serves (Nat.zero_le _) ()
  obtain ⟨hrun, hread⟩ := henough enough (Nat.le_refl _) (evenWorld_datable _)
  exact ⟨enough, hrun, hread.requests.length_eq.trans List.length_range', hread.ids,
    hread.committed rfl⟩

end MailCollector.Crawl
