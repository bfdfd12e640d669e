import MailCollector.Proofs.Crawl.Observed
import MailCollector.Proofs.Program.Safety

/-!
# Servers that keep a log of each folder

For a server that hands out tokens, a folder is a log to which entries are only ever added.  A token
stands for a position in the log, and a page is the part of the log from the position of the cursor
on, as long as the request allows and the log is at that moment.  `LogServer` is such a server, and
`LogServer.Allows` says how it may answer after the calls made so far.  Any call may fail.

An item is delivered if its id was fetched and all records made of the answer were accepted by the
sink afterwards (`Delivered`).  A position is covered if all items before it are delivered
(`LogServer.Covered`), and checkpoints are safe if each stored token stands for a covered position
(`LogServer.Safe`).  All of this survives whatever else happens, except a new token.
-/

namespace MailCollector.Crawl

open MailCollector.Mail MailCollector.Log

/-! ### Delivered items -/

/-- The id was among those of a call that fetched items, and the records of all the items that came
back were accepted after that call, in their order and before any other record. -/
def Delivered (h : List Event) (mailbox : String) (folder : FolderId) (id : ItemId) : Prop :=
  ∃ (before after : List Event) (ids : List ItemId) (items : List Item) (records : List Record),
    h = before ++ ⟨.fetchItems mailbox ids, .ok items⟩ :: after ∧ id ∈ ids ∧
      items.map (Record.ofItem? · mailbox folder) = records.map some ∧
      records <+: after.filterMap accepted?

section History

variable {mailbox : String} {folder : FolderId} {h : List Event}

/-- What was delivered stays delivered. -/
lemma Delivered.mono {id : ItemId} (hid : Delivered h mailbox folder id) {h' : List Event}
    (hbegins : h <+: h') : Delivered h' mailbox folder id := by
  obtain ⟨before, after, ids, items, records, rfl, hmem, hrecords, haccepted⟩ := hid
  obtain ⟨t, rfl⟩ := hbegins
  refine ⟨before, after ++ t, ids, items, records, ?_, hmem, hrecords, ?_⟩
  · rw [List.append_assoc, List.cons_append]
  · rw [List.filterMap_append]
    exact haccepted.trans (List.prefix_append _ _)

end History

/-! ### The server -/

/-- An entry in the log of a folder. -/
inductive LogEntry where
  | item (id : ItemId)
  | deletion
deriving DecidableEq

/-- The id of an entry, if it has one. -/
def LogEntry.id? : LogEntry → Option ItemId
  | item id => some id
  | deletion => none

/-- A server with an append-only log for each folder, as it is after any number of calls. -/
structure LogServer where
  log : ℕ → String → FolderId → List LogEntry
  grows : ∀ time mailbox folder, log time mailbox folder <+: log (time + 1) mailbox folder
  /-- The position that a token of a folder stands for. -/
  position : String → FolderId → String → ℕ

namespace LogServer

variable (server : LogServer)

/-- The position of a cursor: without a token, the beginning of the log. -/
def cursorPosition (mailbox : String) (folder : FolderId) : Option String → ℕ
  | none => 0
  | some token => server.position mailbox folder token

/-- The part of a log from a position on, at most so many entries. -/
def slice (entries : List LogEntry) (start size : ℕ) : List LogEntry :=
  (entries.drop start).take size

/-- How calls may be answered after those of the history.  A stored token is read as it was written.
A page that is asked for by a token has the ids of the slice at its position and a token for the end
of the slice; what the page says about its entries, or about being the last one, is not relied on,
nor is what items come back for which ids.  Everything may fail. -/
def Allows (h : List Event) : Event → Prop
  | ⟨.readToken mailbox folder, .ok token⟩ => token = storedToken h mailbox folder
  | ⟨.listItems request, .ok page⟩ =>
    ∀ token, request.cursor = .token token →
      let start := server.cursorPosition request.mailbox request.folder token
      let entries := slice (server.log h.length request.mailbox request.folder) start
        request.pageSize
      page.ids = entries.filterMap LogEntry.id? ∧
        ∃ next, page.token = some next ∧ next ≠ "" ∧
          server.position request.mailbox request.folder next = start + entries.length
  | _ => True

/-- All calls of a history are answered as the server may answer them. -/
def Explains (h : List Event) : Prop := Admits server.Allows [] h

/-- All items before a position of the log of a folder are delivered. -/
structure Covered (h : List Event) (mailbox : String) (folder : FolderId) (position : ℕ) :
    Prop where
  le_length : position ≤ (server.log h.length mailbox folder).length
  delivered : ∀ id, .item id ∈ (server.log h.length mailbox folder).take position →
    Delivered h mailbox folder id

/-- Every stored token stands for a covered position. -/
def Safe (h : List Event) : Prop :=
  ∀ mailbox folder token, storedToken h mailbox folder = some token →
    server.Covered h mailbox folder (server.position mailbox folder token)

variable {server} {h h' : List Event} {mailbox : String} {folder : FolderId} {position : ℕ}

/-- An earlier log begins a later one. -/
lemma log_isPrefix (server : LogServer) (mailbox : String) (folder : FolderId) {time time' : ℕ}
    (htime : time ≤ time') :
    server.log time mailbox folder <+: server.log time' mailbox folder := by
  obtain ⟨more, rfl⟩ := Nat.exists_eq_add_of_le htime
  induction more with
  | zero => exact List.prefix_rfl
  | succ more ih => exact (ih (Nat.le_add_right _ _)).trans (server.grows _ _ _)

/-- Nothing comes before the beginning of a log. -/
lemma covered_zero : server.Covered h mailbox folder 0 where
  le_length := Nat.zero_le _
  delivered id hid := by simp at hid

/-- What is covered stays covered. -/
lemma Covered.mono (hcovered : server.Covered h mailbox folder position) (hbegins : h <+: h') :
    server.Covered h' mailbox folder position := by
  obtain ⟨later, hlater⟩ := log_isPrefix server mailbox folder hbegins.length_le
  constructor
  · rw [← hlater, List.length_append]
    exact Nat.le_add_right_of_le hcovered.le_length
  · intro id hid
    rw [← hlater, List.take_append_of_le_length hcovered.le_length] at hid
    exact (hcovered.delivered id hid).mono hbegins

/-- What is covered before a page is covered behind it, once the items of the page are delivered. -/
lemma Covered.advance (hcovered : server.Covered h mailbox folder position) (size : ℕ)
    (hbegins : h <+: h')
    (hdelivered : ∀ id ∈ (slice (server.log h.length mailbox folder) position size).filterMap
      LogEntry.id?, Delivered h' mailbox folder id) :
    server.Covered h' mailbox folder
      (position + (slice (server.log h.length mailbox folder) position size).length) := by
  have hbefore := hcovered.le_length
  set entries := server.log h.length mailbox folder with hentries
  have hslice : (entries.drop position).take (slice entries position size).length =
      slice entries position size :=
    (List.prefix_iff_eq_take.1 (List.take_prefix size _)).symm
  have hend : position + (slice entries position size).length ≤ entries.length := by
    have hle := (List.take_prefix size (entries.drop position)).length_le
    rw [List.length_drop] at hle
    unfold slice
    omega
  obtain ⟨later, hlater⟩ := log_isPrefix server mailbox folder hbegins.length_le
  rw [← hentries] at hlater
  constructor
  · rw [← hlater, List.length_append]
    exact Nat.le_add_right_of_le hend
  · intro id hid
    rw [← hlater, List.take_append_of_le_length hend, List.take_add, hslice,
      List.mem_append] at hid
    rcases hid with hid | hid
    · exact (hcovered.delivered id hid).mono hbegins
    · exact hdelivered id (List.mem_filterMap.2 ⟨_, hid, rfl⟩)

/-- The checkpoints stay safe through a call that stores no token. -/
lemma Safe.append (hsafe : server.Safe h) {e : Event} (he : ¬ e.1.WritesToken) :
    server.Safe (h ++ [e]) := by
  intro mailbox folder token htoken
  rw [storedToken_append (List.forall_mem_singleton.2 he)] at htoken
  exact (hsafe mailbox folder token htoken).mono (List.prefix_append h [e])

/-- The checkpoints stay safe when a token cannot be stored. -/
lemma Safe.append_refused (hsafe : server.Safe h) (m : String) (f : FolderId) (t : String)
    (failure : Failure) : server.Safe (h ++ [⟨.writeToken m f t, .error failure⟩]) := by
  intro mailbox folder token htoken
  have hkept : storedToken (h ++ [⟨.writeToken m f t, .error failure⟩]) mailbox folder =
      storedToken h mailbox folder := by
    simp [storedToken, tokenWritten?]
  exact (hsafe mailbox folder token (hkept ▸ htoken)).mono (List.prefix_append h _)

/-- The checkpoints stay safe when a token for a covered position is stored. -/
lemma Safe.store (hsafe : server.Safe h) {token : String}
    (hcovered : server.Covered h mailbox folder (server.position mailbox folder token)) :
    server.Safe (h ++ [⟨.writeToken mailbox folder token, .ok ()⟩]) := by
  intro m f t ht
  rw [storedToken_append_writeToken] at ht
  split at ht
  · rename_i hsame
    obtain ⟨rfl, rfl⟩ := hsame
    cases ht
    exact hcovered.mono (List.prefix_append h _)
  · exact (hsafe m f t ht).mono (List.prefix_append h _)

end LogServer

end MailCollector.Crawl
