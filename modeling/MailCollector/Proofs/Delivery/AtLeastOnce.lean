import MailCollector.Proofs.Crawl.Collecting
import MailCollector.Proofs.Crawl.PlainSafety
import MailCollector.Proofs.Delivery.LogServer

/-!
# Every item is delivered before its folder moves past it

A run that resumes from tokens moves the token of a folder only past items that it has fetched and
whose records the sink has accepted.  So in any sequence of runs that share their stored tokens, at
every moment of every run, whatever fails and wherever a run stops, the items before a stored token
are delivered.

The invariant of a whole history is that its checkpoints are safe.  Within a folder the loop over
pages carries more: the position of its token is covered, although nothing may have been stored yet.
A page moves this position to its own end, and its batches deliver what lies in between.
-/

namespace MailCollector.Crawl

open MailCollector.Calendar MailCollector.Mail MailCollector.Log Plain Plain.Attempt

section Loop

variable (server : LogServer) {mailbox : String} {folder : FolderId} {h : List Event}

/-- The surroundings of the plain loop: a server with logs, and a sink that refuses no record. -/
def Accepting (h : List Event) (e : Event) : Prop := server.Allows h e ∧ ¬ Refused e

variable {server}

/-- Records that are handed over are accepted, in their order. -/
lemma hand_upholds (records : List Record) (hsafe : server.Safe h) :
    (records.forM hand).Upholds (Accepting server) server.Safe
      (fun _ h' => ∃ after, h' = h ++ after ∧ after.filterMap accepted? = records) h := by
  induction records generalizing h with
  | nil => exact ⟨hsafe, [], (List.append_nil h).symm, rfl⟩
  | cons record records ih =>
    rw [List.forM_eq_forM, List.forM_cons, Program.upholds_bind]
    refine ⟨hsafe, fun reply hreply => ?_⟩
    cases reply with
    | error failure => exact absurd trivial hreply.2
    | ok _ =>
      have hnext : server.Safe (h ++ [⟨.store record, .ok ()⟩]) := hsafe.append id
      refine ⟨hnext, (ih hnext).mono (fun _ hinv => hinv) ?_⟩
      rintro _ _ - ⟨after, rfl, rfl⟩
      exact ⟨⟨.store record, .ok ()⟩ :: after, List.append_assoc _ _ _, rfl⟩

/-- A batch delivers its ids. -/
lemma batch_upholds (ids : List ItemId) (hsafe : server.Safe h) :
    (batch mailbox folder ids).Upholds (Accepting server) server.Safe server.Safe
      (fun _ h => ∀ id ∈ ids, Delivered h mailbox folder id) h := by
  have hfetched := fun reply : Except Failure (List Item) =>
    hsafe.append (e := ⟨.fetchItems mailbox ids, reply⟩) id
  rw [batch, upholds_bind, upholds_tried]
  refine ⟨hsafe, fun reply _ => ⟨hfetched reply, ?_⟩⟩
  cases reply with
  | error failure => exact hfetched _
  | ok items =>
    have hnoted := (hfetched (.ok items)).append
      (e := ⟨.note (.itemsFetched items.length ids.length folder mailbox), ()⟩) id
    refine upholds_bind.2 (upholds_noting.2 ⟨hfetched _, fun _ => ⟨hnoted, ?_⟩⟩)
    rw [upholds_bind, upholds_lift]
    refine ((recordsOf_within _ mailbox folder items).upholds_silent hnoted).mono
      (fun _ hinv => hinv) ?_
    rintro records _ - ⟨rfl, hrecords⟩
    rw [upholds_lift]
    refine (hand_upholds records hnoted).mono (fun _ hinv => hinv) ?_
    rintro _ _ - ⟨after, rfl, rfl⟩ id hid
    refine ⟨h, ⟨.note (.itemsFetched items.length ids.length folder mailbox), ()⟩ :: after, ids,
      items, after.filterMap accepted?, ?_, hid, hrecords, List.prefix_rfl⟩
    simp

/-- The batches of a page deliver the ids of the page. -/
lemma batches_upholds (size : ℕ) (ids : List ItemId) (hsafe : server.Safe h) :
    ((pieces size ids).forM (batch mailbox folder)).Upholds (Accepting server) server.Safe
      server.Safe (fun _ h => ∀ id ∈ ids, Delivered h mailbox folder id) h := by
  have hround : ∀ (before : List (List ItemId)) (piece : List ItemId) (h : List Event),
      server.Safe h → (∀ id ∈ before.flatten, Delivered h mailbox folder id) →
      (batch mailbox folder piece).Upholds (Accepting server) server.Safe server.Safe
        (fun _ h => ∀ id ∈ (before ++ [piece]).flatten, Delivered h mailbox folder id) h := by
    intro before piece h hsafe hbefore
    refine (batch_upholds piece hsafe).extends.mono ?_
    rintro _ h' - ⟨hbegins, hpiece⟩ id hid
    rw [List.flatten_append, List.flatten_singleton, List.mem_append] at hid
    exact hid.elim (fun hid => (hbefore id hid).mono hbegins) (hpiece id)
  refine (upholds_forM _ hround (pieces size ids) [] hsafe (by simp)).mono ?_
  intro _ h _ hdelivered
  rwa [List.nil_append, flatten_pieces] at hdelivered

/-- Storing a token that stands for a covered position keeps the checkpoints safe. -/
lemma commit_upholds (number : ℕ) {token : Option String} (hsafe : server.Safe h)
    (hcovered : server.Covered h mailbox folder (server.cursorPosition mailbox folder token)) :
    (commit mailbox folder number token).Upholds (Accepting server) server.Safe server.Safe
      (fun _ => server.Safe) h := by
  cases token with
  | none => exact upholds_pure.2 ⟨hsafe, hsafe⟩
  | some token =>
    have hwritten : ∀ reply, server.Safe (h ++ [⟨.writeToken mailbox folder token, reply⟩]) := by
      intro reply
      cases reply with
      | error failure => exact hsafe.append_refused mailbox folder token failure
      | ok _ => exact hsafe.store hcovered
    rw [commit, upholds_bind, upholds_tried]
    refine ⟨hsafe, fun reply _ => ⟨hwritten reply, ?_⟩⟩
    cases reply with
    | error failure => exact hwritten _
    | ok _ =>
      have hnoted := (hwritten (.ok ())).append
        (e := ⟨.note (.tokenWritten folder mailbox number), ()⟩) id
      exact upholds_noting.2 ⟨hwritten _, fun _ => ⟨hnoted, hnoted⟩⟩

/-- The pages of a folder keep the checkpoints safe, if the position of the token from which they go
on is covered. -/
lemma pages_upholds {config : Config} (hmode : config.mode = .syncToken)
    (changedSince : Option Instant) (bound : ℕ) {token : Option String} {offset number : ℕ}
    (hsafe : server.Safe h)
    (hcovered : server.Covered h mailbox folder (server.cursorPosition mailbox folder token)) :
    (pages config mailbox folder changedSince bound token offset number).Upholds (Accepting server)
      server.Safe server.Safe (fun _ => server.Safe) h := by
  induction bound generalizing token offset number h with
  | zero => exact upholds_throw.2 ⟨hsafe, hsafe⟩
  | succ bound ih =>
    have hlisted := fun reply : Except Failure IdPage => hsafe.append
      (e := ⟨.listItems ⟨mailbox, folder, config.idPageSize, .token token⟩, reply⟩) id
    rw [pages, upholds_bind, upholds_tried, hmode]
    refine ⟨hsafe, fun reply hreply => ⟨hlisted reply, ?_⟩⟩
    cases reply with
    | error failure => exact hlisted _
    | ok page =>
      obtain ⟨hids, next, hnext, hnonempty, hposition⟩ := hreply.1 token rfl
      have hnoted := (hlisted (.ok page)).append (e := ⟨.note (.pageListed (number + 1) folder
        mailbox page.ids.length page.entries page.saysLast), ()⟩) id
      refine upholds_bind.2 (upholds_noting.2 ⟨hlisted _, fun _ => ⟨hnoted, upholds_bind.2 ?_⟩⟩)
      refine (batches_upholds _ page.ids hnoted).extends.mono ?_
      rintro _ h' hsafe' ⟨hbegins, hdelivered⟩
      -- The token of the page stands for its end, and everything before that is now delivered.
      have htoken : (Text.nonEmpty page.token).or token = some next := by
        rw [hnext]
        simp [Text.nonEmpty, hnonempty]
      have hcovered' : server.Covered h' mailbox folder
          (server.cursorPosition mailbox folder ((Text.nonEmpty page.token).or token)) := by
        rw [htoken, LogServer.cursorPosition, hposition]
        refine hcovered.advance config.idPageSize
          (((List.prefix_append h _).trans (List.prefix_append _ _)).trans hbegins) fun id hid => ?_
        exact hdelivered id (hids ▸ hid)
      split
      · exact commit_upholds _ hsafe' hcovered'
      · exact ih hsafe' hcovered'

/-- A folder that is crawled from its stored token keeps the checkpoints safe. -/
lemma folder_upholds {config : Config} (hmode : config.mode = .syncToken) (bound : ℕ)
    (changedSince : Option Instant) (hsafe : server.Safe h) :
    (Plain.folder config bound mailbox changedSince folder).Upholds (Accepting server) server.Safe
      server.Safe (fun _ => server.Safe) h := by
  have hread := fun reply : Except Failure (Option String) =>
    hsafe.append (e := ⟨.readToken mailbox folder, reply⟩) id
  rw [Plain.folder, hmode, upholds_bind, upholds_tried]
  refine ⟨hsafe, fun reply hreply => ⟨hread reply, ?_⟩⟩
  cases reply with
  | error failure => exact hread _
  | ok token =>
    refine pages_upholds hmode changedSince bound (hread _) ?_
    have htoken : token = storedToken h mailbox folder := hreply.1
    cases hkept : Text.nonEmpty token with
    | none => exact LogServer.covered_zero
    | some t =>
      have hstored : token = some t := Option.eq_some_of_filter_eq_some hkept
      exact (hsafe mailbox folder t (htoken ▸ hstored)).mono (List.prefix_append h _)

end Loop

/-- A run keeps the checkpoints safe at every moment. -/
theorem collect_upholds_safe {server : LogServer} {config : Config}
    (hmode : config.mode = .syncToken) (fuel : ℕ) (names : List String) {h : List Event}
    (hsafe : server.Safe h) :
    (collect config fuel names).Upholds server.Allows server.Safe (fun _ _ => True) h := by
  refine collect_upholds config fuel names ?_ ?_
  · rintro h ⟨c, reply⟩ hc hsafe
    refine hsafe.append ?_
    cases c <;> first | exact id | exact hc.elim
  · refine Program.Upholds.mono (mailboxes_upholds (fun _ hsafe => hsafe) ?_ ?_ names hsafe)
      (fun _ hsafe => hsafe) fun _ _ _ _ => trivial
    · rintro h ⟨c, reply⟩ hc hsafe
      refine hsafe.append ?_
      cases c <;> first | exact id | exact hc.elim
    · exact fun name changedSince f h hsafe => folder_upholds hmode fuel changedSince hsafe

/-! ### The main result -/

/-- Take any runs that resume from tokens, on a server that keeps a log of each folder, with no
token stored at first.  At every moment, a token that is stored for a folder stands for a position
within the log of that folder, and every item before that position is delivered. -/
theorem stored_token_delivered {σ : Type} (server : LogServer) (world : World σ) (runs : List Run)
    (s : σ) (hmode : ∀ run ∈ runs, run.config.mode = .syncToken)
    (hserver : server.Explains (history world runs s)) {h : List Event}
    (hmoment : h <+: history world runs s) {mailbox : String} {folder : FolderId} {token : String}
    (htoken : storedToken h mailbox folder = some token) :
    server.position mailbox folder token ≤ (server.log h.length mailbox folder).length ∧
      ∀ id, .item id ∈ (server.log h.length mailbox folder).take
          (server.position mailbox folder token) →
        Delivered h mailbox folder id := by
  have hstart : server.Safe [] := by simp [LogServer.Safe, storedToken]
  have hsafe : server.Safe ([] ++ h) :=
    history_upholds (fun run hrun _ => collect_upholds_safe (hmode run hrun) run.fuel run.names)
      hstart hserver hmoment
  obtain ⟨hlength, hdelivered⟩ := hsafe mailbox folder token htoken
  exact ⟨hlength, hdelivered⟩

/-! ### A sample -/

/-- A server on which every folder gets two mails and a deletion, one entry with each call. -/
def sampleServer : LogServer where
  log time _ _ := [.item { text := "a" }, .deletion, .item { text := "b" }].take time
  grows _ _ _ := List.take_prefix_take_left (Nat.le_succ _)
  position _ _ token := token.length - 1

/-- The answers of the sample server after some calls, and of a sink that refuses each record when
it comes for the first time. -/
def sampleReply (h : List Event) : (c : Call) → c.Reply
  | .clock => default
  | .readInstant _ => .ok none
  | .writeInstant _ _ => .ok ()
  | .readToken mailbox folder => .ok (storedToken h mailbox folder)
  | .writeToken _ _ _ => .ok ()
  | .listFolders _ _ => .ok [.default]
  | .listItems request =>
    match request.cursor with
    | .offset _ _ => .ok {}
    | .token token =>
      let start := sampleServer.cursorPosition request.mailbox request.folder token
      let entries := LogServer.slice (sampleServer.log h.length request.mailbox request.folder)
        start request.pageSize
      .ok
        { ids := entries.filterMap LogEntry.id?
          token := some (String.ofList (List.replicate (start + entries.length + 1) 'x'))
          entriesReturned := entries.length }
  | .fetchItems _ ids => .ok (ids.map fun id => { id := id })
  | .store record =>
    if h.any fun e => e.1 = .store record then .ok () else .error { cause := .system }
  | .flush => .ok ()
  | .note _ => ()

/-- The sample server as a world that remembers its history. -/
def sampleLogWorld : World (List Event) where
  answer c h := (sampleReply h c, h ++ [⟨c, sampleReply h c⟩])

/-- The sample server always answers as it may. -/
lemma sampleReply_allowed (h : List Event) (c : Call) :
    sampleServer.Allows h ⟨c, sampleReply h c⟩ := by
  cases c with
  | readToken mailbox folder => exact rfl
  | listItems request =>
    obtain ⟨mailbox, folder, pageSize, cursor⟩ := request
    cases cursor with
    | offset offset changedSince => exact fun _ hcursor => by cases hcursor
    | token token =>
      rintro _ ⟨⟩
      refine ⟨rfl, _, rfl, fun hempty => ?_, ?_⟩
      · simpa using congrArg String.length hempty
      · simp [sampleServer]
  | _ => exact trivial

/-- The sample server explains the history of any runs on it. -/
lemma sampleServer_explains (runs : List Run) (h : List Event) :
    Admits sampleServer.Allows h (history sampleLogWorld runs h) :=
  history_remembering sampleReply_allowed runs h

/-- Three runs over one mailbox, of which the sink stops the first two. -/
def sampleRuns : List Run := List.replicate 3 ⟨Config.ofRequested 2 1, 30, ["m"]⟩

/-- After the three runs a token is stored, and the last mail is delivered. -/
theorem stored_token_delivered_sample :
    storedToken (history sampleLogWorld sampleRuns []) "m" .default = some "xxxx" ∧
      Delivered (history sampleLogWorld sampleRuns []) "m" .default { text := "b" } := by
  have htoken : storedToken (history sampleLogWorld sampleRuns []) "m" .default = some "xxxx" := rfl
  have hmode : ∀ run ∈ sampleRuns, run.config.mode = .syncToken := by
    intro run hrun
    rw [List.eq_of_mem_replicate hrun]
    rfl
  have hmail : .item { text := "b" } ∈
      (sampleServer.log (history sampleLogWorld sampleRuns []).length "m" .default).take
        (sampleServer.position "m" .default "xxxx") := by
    decide
  exact ⟨htoken, (stored_token_delivered sampleServer sampleLogWorld sampleRuns [] hmode
    (sampleServer_explains sampleRuns []) List.prefix_rfl htoken).2 _ hmail⟩

end MailCollector.Crawl
