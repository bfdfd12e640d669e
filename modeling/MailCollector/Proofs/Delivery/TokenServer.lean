import MailCollector.Proofs.Crawl.CommitOnce
import MailCollector.Proofs.Crawl.Crashes
import MailCollector.Proofs.Crawl.Visit
import MailCollector.Proofs.Delivery.LogServer
import MailCollector.Proofs.Mail.Headers

/-!
# Reading a log from a token to its end

A `TokenServer` hands out the token of a position, and during a crawl its logs do not grow.  If no
call fails (`TokenServer.Serves`), the pages of a folder that are listed from a token cut the rest
of the log at the page size: together they are all of it, and the last token is that of its end
(`pages_reads`).  A log with `n` new entries takes `n / pageSize + 1` requests, for a full page is
always followed by another one.

The crawl of the folder then fetches the items that it has listed, makes one record of each, in the
order of the log, and stores the last token (`folder_caught`).
-/

namespace MailCollector.Crawl

open MailCollector.Calendar MailCollector.Mail MailCollector.Log Plain Plain.Attempt

/-! ### The server -/

/-- A server with logs whose tokens are texts for positions, and which knows all items in them.  A
log is indexed by the number of crawls that were made before, so it grows between crawls only. -/
structure TokenServer extends LogServer where
  /-- The token that stands for a position in the log of a folder. -/
  token : String → FolderId → ℕ → String
  token_ne_empty : ∀ mailbox folder n, token mailbox folder n ≠ ""
  position_token : ∀ mailbox folder n, position mailbox folder (token mailbox folder n) = n
  /-- The ids in a log are not empty. -/
  named : ∀ crawl mailbox folder id, .item id ∈ log crawl mailbox folder → id.text ≠ ""
  /-- The folders of a mailbox, which are always the same. -/
  folders : String → List FolderId
  folders_nodup : ∀ mailbox, (folders mailbox).Nodup

namespace TokenServer

/-- How calls are answered during the crawl with a number, where none of them fails.  A stored token
is read as it was written.  A page that is asked for by a token has the ids of the slice of the log
from its position on, the number of entries of the slice, and the token for its end.  The items of
all ids come back, and their date lines can be written. -/
def Serves (server : TokenServer) (crawl : ℕ) (h : List Event) : Event → Prop
  | ⟨.readToken mailbox folder, reply⟩ => reply = .ok (storedToken h mailbox folder)
  | ⟨.listFolders mailbox _, reply⟩ => reply = .ok (server.folders mailbox)
  | ⟨.listItems request, reply⟩ => ∀ token, request.cursor = .token token →
    let start := server.cursorPosition request.mailbox request.folder token
    let entries := LogServer.slice (server.log crawl request.mailbox request.folder) start
      request.pageSize
    ∃ page, reply = .ok page ∧ page.ids = entries.filterMap LogEntry.id? ∧
      page.entriesReturned = entries.length ∧
      page.token = some (server.token request.mailbox request.folder (start + entries.length))
  | ⟨.fetchItems _ ids, reply⟩ =>
    ∃ items, reply = .ok items ∧ items.map Item.id = ids ∧ ∀ item ∈ items, datable item = true
  | ⟨.writeToken _ _ _, reply⟩ | ⟨.writeInstant _ _, reply⟩ | ⟨.store _, reply⟩ | ⟨.flush, reply⟩ =>
    reply = .ok ()
  | ⟨.readInstant _, _⟩ | ⟨.clock, _⟩ | ⟨.note _, _⟩ => True

end TokenServer

/-! ### What is asked for -/

/-- The folder whose ids are asked for, if some are. -/
def requested? : Event → Option (String × FolderId)
  | ⟨.listItems request, _⟩ => some (request.mailbox, request.folder)
  | _ => none

/-- The last token that is not empty among those of the pages. -/
def lastPageToken (t : List Event) : Option String :=
  ((t.filterMap listed?).filterMap fun page => Text.nonEmpty page.token).getLast?

/-- Calls that ask for no ids bring no pages. -/
lemma listed?_eq_nil {t : List Event} (ht : ∀ e ∈ t, ¬ e.1.Lists) :
    t.filterMap listed? = [] ∧ t.filterMap requested? = [] := by
  refine ⟨List.filterMap_eq_nil_iff.2 fun e he => ?_, List.filterMap_eq_nil_iff.2 fun e he => ?_⟩
  · unfold listed?
    split
    · exact absurd trivial (ht _ he)
    · rfl
  · unfold requested?
    split
    · exact absurd trivial (ht _ he)
    · rfl

/-- The calls of a folder list the rest of a log, of which so many entries are new. -/
structure ReadsRest (place : String × FolderId) (size : ℕ) (rest : List LogEntry)
    (endToken : String) (t : List Event) : Prop where
  /-- The ids of all pages, one after another, are those of the rest of the log. -/
  ids : (t.filterMap listed?).flatMap IdPage.ids = rest.filterMap LogEntry.id?
  requests : t.filterMap requested? = List.replicate (rest.length / size + 1) place
  last : lastPageToken t = some endToken

namespace ReadsRest

variable {place : String × FolderId} {size : ℕ} {rest : List LogEntry} {endToken : String}
  {t u : List Event}

/-- Only the requests and their pages matter. -/
lemma congr (ht : ReadsRest place size rest endToken t)
    (hlisted : u.filterMap listed? = t.filterMap listed?)
    (hrequested : u.filterMap requested? = t.filterMap requested?) :
    ReadsRest place size rest endToken u where
  ids := by rw [hlisted, ht.ids]
  requests := by rw [hrequested, ht.requests]
  last := by rw [lastPageToken, hlisted, ← lastPageToken, ht.last]

/-- Calls that ask for no ids change nothing. -/
lemma append (ht : ReadsRest place size rest endToken t) (hu : ∀ e ∈ u, ¬ e.1.Lists) :
    ReadsRest place size rest endToken (t ++ u) := by
  obtain ⟨hlisted, hrequested⟩ := listed?_eq_nil hu
  refine ht.congr ?_ ?_
  · rw [List.filterMap_append, hlisted, List.append_nil]
  · rw [List.filterMap_append, hrequested, List.append_nil]

/-- Calls that ask for no ids change nothing if they come first. -/
lemma prepend (ht : ReadsRest place size rest endToken t) (hu : ∀ e ∈ u, ¬ e.1.Lists) :
    ReadsRest place size rest endToken (u ++ t) := by
  obtain ⟨hlisted, hrequested⟩ := listed?_eq_nil hu
  refine ht.congr ?_ ?_
  · rw [List.filterMap_append, hlisted, List.nil_append]
  · rw [List.filterMap_append, hrequested, List.nil_append]

/-- A short page is the last one. -/
lemma short {request : PageRequest} {page : IdPage}
    (hplace : (request.mailbox, request.folder) = place)
    (hids : page.ids = rest.filterMap LogEntry.id?) (hshort : rest.length < size)
    (htoken : Text.nonEmpty page.token = some endToken) :
    ReadsRest place size rest endToken [⟨.listItems request, .ok page⟩] where
  ids := by simp [listed?, hids]
  requests := by simp [requested?, hplace, Nat.div_eq_of_lt hshort]
  last := by simp [lastPageToken, listed?, htoken]

/-- A full page is followed by others. -/
lemma full {request : PageRequest} {page : IdPage}
    (ht : ReadsRest place size (rest.drop size) endToken t)
    (hplace : (request.mailbox, request.folder) = place)
    (hids : page.ids = (rest.take size).filterMap LogEntry.id?) (hsize : 0 < size)
    (hfull : size ≤ rest.length) :
    ReadsRest place size rest endToken (⟨.listItems request, .ok page⟩ :: t) := by
  have hlisted : (⟨.listItems request, .ok page⟩ :: t).filterMap listed? =
      page :: t.filterMap listed? := List.filterMap_cons_some rfl
  have hrequested : (⟨.listItems request, .ok page⟩ :: t).filterMap requested? =
      place :: t.filterMap requested? := hplace ▸ List.filterMap_cons_some rfl
  refine ⟨?_, ?_, ?_⟩
  · rw [hlisted, List.flatMap_cons, ht.ids, hids, ← List.filterMap_append, List.take_append_drop]
  · have hcount : rest.length / size = (rest.length - size) / size + 1 :=
      Nat.div_eq_sub_div hsize hfull
    rw [hrequested, ht.requests, List.length_drop, ← hcount, ← List.replicate_succ]
  · have hlast := ht.last
    unfold lastPageToken at hlast ⊢
    rw [hlisted, List.filterMap_cons]
    split
    · exact hlast
    · rw [List.getLast?_cons, hlast]
      rfl

end ReadsRest

/-! ### Along the pages of a folder -/

section Pages

variable {server : TokenServer} {crawl : ℕ} {config : Config} {mailbox : String}
  {folder : FolderId} {h : List Event}

/-- A batch does not fail. -/
lemma batch_served (ids : List ItemId) :
    (batch mailbox folder ids).Upholds (server.Serves crawl) (fun _ => True) (fun _ => False)
      (fun _ _ => True) h := by
  rw [batch, upholds_bind, upholds_tried]
  refine ⟨trivial, fun reply hreply => ⟨trivial, ?_⟩⟩
  obtain ⟨items, rfl, -, -⟩ := hreply
  refine upholds_bind.2 (upholds_noting.2 ⟨trivial, fun _ => ⟨trivial, upholds_bind.2 ?_⟩⟩)
  have hrecords : ∀ h, (recordsOf mailbox folder items).Upholds (server.Serves crawl)
      (fun _ => True) _ h := fun h =>
    (recordsOf_within _ mailbox folder items).upholds_silent trivial
  refine upholds_lift.2 ((hrecords _).mono (fun _ _ => trivial) fun records _ _ _ => ?_)
  refine upholds_lift.2 ?_
  exact ((hand_within mailbox records).upholds_calls _).mono (fun _ _ => trivial)
    fun _ _ _ _ => trivial

/-- The batches of a page do not fail, and they ask for no more ids. -/
lemma batches_served (size : ℕ) (ids : List ItemId) :
    ((pieces size ids).forM (batch mailbox folder)).Upholds (server.Serves crawl) (fun _ => True)
      (fun _ => False) (fun _ h' => ∃ t, h' = h ++ t ∧ ∀ e ∈ t, ¬ e.1.Lists) h := by
  have hserved : ((pieces size ids).forM (batch mailbox folder)).Upholds (server.Serves crawl)
      (fun _ => True) (fun _ => False) (fun _ _ => True) h :=
    upholds_forM (fun _ _ => True) (fun _ ids h _ _ => batch_served ids) (pieces size ids) []
      trivial trivial
  have hcalls : Program.Upholds (server.Serves crawl) _ _ _ h :=
    Program.Within.upholds_calls (batches_within mailbox folder size ids) h
  refine Program.Upholds.mono (Program.Upholds.and hserved hcalls) (fun _ _ => trivial) ?_
  rintro result _ - ⟨hresult, -, t, rfl, ht⟩
  cases result with
  | error halt => exact hresult
  | ok _ =>
    exact ⟨t, rfl, fun e he => (ht e he).quiet.1⟩

/-- The token of a folder is written, if there is one, and nothing else is done. -/
lemma commit_served (number : ℕ) (token : Option String) :
    (commit mailbox folder number token).Upholds (server.Serves crawl) (fun _ => True)
      (fun _ => False) (fun _ h' => ∃ t, h' = h ++ t ∧ ∀ e ∈ t, ¬ e.1.Lists) h := by
  cases token with
  | none => exact upholds_pure.2 ⟨trivial, [], (List.append_nil h).symm, by simp⟩
  | some token =>
    rw [commit, upholds_bind, upholds_tried]
    refine ⟨trivial, fun reply hreply => ⟨trivial, ?_⟩⟩
    cases hreply
    refine upholds_noting.2 ⟨trivial, fun _ => ⟨trivial, _, List.append_assoc _ _ _, ?_⟩⟩
    simp [Call.Lists]

/-- A page that is asked for by a token counts the entries of its slice, those with an id and those
without, and it has the token for the end of the slice. -/
lemma TokenServer.Serves.page {pageSize : ℕ} {token : Option String} {reply : Except Failure IdPage}
    (hreply : server.Serves crawl h ⟨.listItems ⟨mailbox, folder, pageSize, .token token⟩, reply⟩)
    {start : ℕ} (htoken : server.cursorPosition mailbox folder token = start)
    {entries : List LogEntry}
    (hentries : entries = LogServer.slice (server.log crawl mailbox folder) start pageSize) :
    ∃ page, reply = .ok page ∧ page.ids = entries.filterMap LogEntry.id? ∧
      page.entries = entries.length ∧ Text.nonEmpty page.token =
        some (server.token mailbox folder (start + entries.length)) := by
  subst htoken hentries
  obtain ⟨page, rfl, hids, hreturned, hnext⟩ := hreply token rfl
  refine ⟨page, rfl, hids, ?_, ?_⟩
  · rw [IdPage.entries, hreturned, hids]
    exact Nat.max_eq_left (List.length_filterMap_le _ _)
  · rw [hnext]
    simp [Text.nonEmpty, server.token_ne_empty]

/-- The pages of a folder list the rest of its log, if their number is not bounded too low. -/
lemma pages_reads (hmode : config.mode = .syncToken) (changedSince : Option Instant)
    {bound offset number start : ℕ} {token : Option String}
    (htoken : server.cursorPosition mailbox folder token = start)
    (hstart : start ≤ (server.log crawl mailbox folder).length)
    (hbound : ((server.log crawl mailbox folder).length - start) / config.idPageSize < bound) :
    (pages config mailbox folder changedSince bound token offset number).Upholds
      (server.Serves crawl) (fun _ => True) (fun _ => False)
      (fun _ h' => ∃ t, h' = h ++ t ∧ ReadsRest (mailbox, folder) config.idPageSize
        ((server.log crawl mailbox folder).drop start)
        (server.token mailbox folder (server.log crawl mailbox folder).length) t) h := by
  induction bound generalizing token offset number start h with
  | zero => exact absurd hbound (Nat.not_lt_zero _)
  | succ bound ih =>
    set log := server.log crawl mailbox folder with hlog
    rw [pages, upholds_bind, upholds_tried, hmode]
    refine ⟨trivial, fun reply hreply => ⟨trivial, ?_⟩⟩
    set entries := LogServer.slice log start config.idPageSize with hslice
    obtain ⟨page, rfl, hids, hcount, hkept⟩ := hreply.page htoken hslice
    refine upholds_bind.2 (upholds_noting.2 ⟨trivial, fun _ => ⟨trivial, upholds_bind.2 ?_⟩⟩)
    refine (batches_served _ page.ids).mono ?_
    rintro _ _ - ⟨batches, rfl, hbatches⟩
    let request : PageRequest := ⟨mailbox, folder, config.idPageSize, .token token⟩
    let noted : Event := ⟨.note (.pageListed (number + 1) folder mailbox page.ids.length
      page.entries page.saysLast), ()⟩
    have hquiet : ∀ e ∈ noted :: batches, ¬ e.1.Lists := List.forall_mem_cons.2 ⟨id, hbatches⟩
    have hrest : (log.drop start).length = log.length - start := List.length_drop
    have hlength : entries.length = min config.idPageSize (log.drop start).length :=
      List.length_take
    split
    · rename_i hshort
      rw [hcount] at hshort
      have hall : entries = log.drop start := List.take_of_length_le (by omega)
      have hend : start + entries.length = log.length := by
        rw [hall, hrest]
        omega
      refine (commit_served _ _).mono ?_
      rintro _ _ - ⟨commits, rfl, hcommits⟩
      have hpage : ReadsRest (mailbox, folder) config.idPageSize (log.drop start)
          (server.token mailbox folder log.length) [⟨.listItems request, .ok page⟩] :=
        ReadsRest.short rfl (hids.trans (by rw [hall])) (by omega) (hend ▸ hkept)
      exact ⟨_, by simp [noted, request],
        hpage.append (List.forall_mem_append.2 ⟨hquiet, hcommits⟩)⟩
    · rename_i hfull
      rw [hcount] at hfull
      have hpos := config.idPageSize_pos
      have hpage : entries.length = config.idPageSize := by omega
      have hdiv : (log.length - start) / config.idPageSize =
          (log.length - start - config.idPageSize) / config.idPageSize + 1 :=
        Nat.div_eq_sub_div hpos (by omega)
      have hposition : server.cursorPosition mailbox folder
          ((Text.nonEmpty page.token).or token) = start + config.idPageSize := by
        rw [hkept, hpage]
        exact server.position_token _ _ _
      refine (ih hposition (by omega) ?_).mono ?_
      · rw [Nat.sub_add_eq]
        omega
      · rintro _ _ - ⟨t, rfl, ht⟩
        rw [← List.drop_drop] at ht
        have hpages : ReadsRest (mailbox, folder) config.idPageSize (log.drop start)
            (server.token mailbox folder log.length)
            (⟨.listItems request, .ok page⟩ :: (noted :: batches ++ t)) :=
          (ht.prepend hquiet).full rfl hids hpos (by omega)
        exact ⟨_, by simp [noted, request], hpages⟩

/-- A folder that is crawled from its stored token lists the rest of its log. -/
lemma folder_reads (hmode : config.mode = .syncToken) (changedSince : Option Instant) {bound : ℕ}
    (hstored : storedToken h mailbox folder ≠ some "")
    (hstart : server.cursorPosition mailbox folder (storedToken h mailbox folder) ≤
      (server.log crawl mailbox folder).length)
    (hbound : ((server.log crawl mailbox folder).length -
      server.cursorPosition mailbox folder (storedToken h mailbox folder)) / config.idPageSize <
        bound) :
    (Plain.folder config bound mailbox changedSince folder).Upholds (server.Serves crawl)
      (fun _ => True) (fun _ => False)
      (fun _ h' => ∃ t, h' = h ++ ⟨.readToken mailbox folder, .ok (storedToken h mailbox folder)⟩ ::
        t ∧ ReadsRest (mailbox, folder) config.idPageSize
          ((server.log crawl mailbox folder).drop
            (server.cursorPosition mailbox folder (storedToken h mailbox folder)))
          (server.token mailbox folder (server.log crawl mailbox folder).length) t) h := by
  rw [Plain.folder, hmode, upholds_bind, upholds_tried]
  refine ⟨trivial, fun reply hreply => ⟨trivial, ?_⟩⟩
  cases hreply
  have hkept : Text.nonEmpty (storedToken h mailbox folder) = storedToken h mailbox folder := by
    cases htoken : storedToken h mailbox folder with
    | none => rfl
    | some token =>
      have hnonempty : token ≠ "" := fun hempty => hstored (htoken.trans (congrArg some hempty))
      simp [Text.nonEmpty, hnonempty]
  refine (pages_reads hmode changedSince (congrArg _ hkept) hstart hbound).mono ?_
  rintro _ _ - ⟨t, rfl, ht⟩
  exact ⟨t, List.append_assoc _ _ _, ht⟩

end Pages

/-! ### Records and their folders -/

/-- The folder that a call is about, if it is about one. -/
def Call.place? : Call → Option (String × FolderId)
  | readToken mailbox folder | writeToken mailbox folder _ => some (mailbox, folder)
  | listItems request => some (request.mailbox, request.folder)
  | _ => none

/-- The records that were handed over, each with the folder that a call was about last. -/
structure Filing where
  place : Option (String × FolderId) := none
  filed : List ((String × FolderId) × Record) := []

/-- Files a record under the folder that a call was about last. -/
def Filing.next (filing : Filing) (e : Event) : Filing where
  place := e.1.place?.or filing.place
  filed := filing.filed ++ (filing.place.bind fun place => (yielded? e).map (place, ·)).toList

/-- The records of a folder that were handed over. -/
def recordsIn (h : List Event) (place : String × FolderId) : List Record :=
  ((h.foldl Filing.next {}).filed.filter (·.1 = place)).map Prod.snd

/-- The ids of the items of which the records of a folder were made. -/
def idsIn (h : List Event) (place : String × FolderId) : List (Option String) :=
  (recordsIn h place).map Record.itemId?

section Filing

variable {config : Config} {mailbox : String} {folder : FolderId} {changedSince : Option Instant}
  {h t : List Event}

/-- Calls that hand nothing over leave the records of a folder as they are. -/
lemma recordsIn_append (ht : ∀ e ∈ t, yielded? e = none) (place : String × FolderId) :
    recordsIn (h ++ t) place = recordsIn h place := by
  have hfiled : ∀ filing : Filing, (t.foldl Filing.next filing).filed = filing.filed := by
    induction t with
    | nil => exact fun _ => rfl
    | cons e t ih =>
      intro filing
      rw [List.foldl_cons, ih fun e' he' => ht e' (List.mem_cons_of_mem e he')]
      simp [Filing.next, ht e List.mem_cons_self]
  rw [recordsIn, List.foldl_append, hfiled, recordsIn]

/-- What a folder hands over is filed under it, once a call was about it. -/
lemma filed_foldl (ht : ∀ e ∈ t, e.1.OfFolder config mailbox changedSince folder) (filing : Filing)
    (hplace : filing.place = some (mailbox, folder)) :
    (t.foldl Filing.next filing).filed =
      filing.filed ++ (t.filterMap yielded?).map ((mailbox, folder), ·) := by
  induction t generalizing filing with
  | nil => simp
  | cons e t ih =>
    have he := ht e List.mem_cons_self
    have hnext : (filing.next e).place = some (mailbox, folder) := by
      obtain ⟨c, reply⟩ := e
      cases c with
      | readToken m f =>
        obtain ⟨rfl, rfl⟩ := he
        rfl
      | writeToken m f token =>
        obtain ⟨rfl, rfl⟩ := he
        rfl
      | listItems request =>
        obtain ⟨rfl, rfl, -⟩ := he
        rfl
      | _ => exact hplace
    rw [List.foldl_cons, ih (fun e' he' => ht e' (List.mem_cons_of_mem e he')) _ hnext]
    cases hyielded : yielded? e <;> simp [Filing.next, hplace, hyielded]

/-- What a folder hands over is filed under it. -/
lemma recordsIn_append_folder
    (ht : ∀ e ∈ t, e.1.OfFolder config mailbox changedSince folder)
    (token : Except Failure (Option String)) (place : String × FolderId) :
    recordsIn (h ++ ⟨.readToken mailbox folder, token⟩ :: t) place =
      recordsIn h place ++ if place = (mailbox, folder) then t.filterMap yielded? else [] := by
  rw [recordsIn, List.foldl_append, List.foldl_cons, filed_foldl ht _ rfl, recordsIn]
  simp only [Filing.next, yielded?, Option.map_none, Option.bind_fun_none, Option.toList_none,
    List.append_nil, List.filter_append, List.map_append]
  refine congrArg _ ?_
  induction t.filterMap yielded? with
  | nil => simp
  | cons record records ih =>
    rw [List.map_cons, List.filter_cons]
    by_cases hsame : place = (mailbox, folder)
    · simpa [hsame] using ih
    · simp [hsame, Ne.symm hsame]

end Filing

/-! ### A folder that was crawled to its end -/

/-- The items that come back are those that are asked for. -/
lemma map_id_fetched {server : TokenServer} {crawl : ℕ} {h t : List Event}
    (ht : Admits (server.Serves crawl) h t) :
    (t.filterMap fetched?).flatten.map Item.id = (t.filterMap asked?).flatten := by
  have hserved : ∀ e ∈ t, (fetched? e).map (List.map Item.id) = asked? e := by
    refine ht.forall_mem fun h e he => ?_
    obtain ⟨c, reply⟩ := e
    cases c with
    | fetchItems mailbox ids =>
      obtain ⟨items, rfl, hids, -⟩ := he
      exact congrArg some hids
    | _ => rfl
  rw [List.map_flatten, List.map_filterMap]
  exact congrArg List.flatten (List.filterMap_congr hserved)

/-- A folder that has stored its last token has stored it for good, and no other token. -/
lemma CommitsLast.storedToken_eq {config : Config} {mailbox : String} {folder : FolderId}
    {t : List Event} (ht : CommitsLast config mailbox folder t) (hstored : Stored mailbox folder t)
    {token : String} (hlast : lastToken t = some token) (h : List Event) (m : String)
    (f : FolderId) :
    storedToken (h ++ t) m f =
      if mailbox = m ∧ folder = f then some token else storedToken h m f := by
  have hwritten := hstored token hlast
  rcases ht with hquiet | ⟨before, text, reply, after, rfl, hsettled⟩
  · exact absurd trivial (hquiet _ hwritten)
  obtain ⟨hbefore, hafter⟩ := List.forall_mem_append.1 hsettled.once
  have hwrite : (⟨.writeToken mailbox folder token, .ok ()⟩ : Event) =
      ⟨.writeToken mailbox folder text, reply⟩ := by
    rcases List.mem_append.1 hwritten with hmem | hmem
    · exact absurd trivial (hbefore _ hmem)
    · exact (List.mem_cons.1 hmem).resolve_right fun hmem => hafter _ hmem trivial
  rw [← hwrite, List.append_cons, ← List.append_assoc, storedToken_append hafter,
    ← List.append_assoc, storedToken_append_writeToken, storedToken_append hbefore]

/-- What the crawl of a folder from a position of its log has come to. -/
structure Caught (server : TokenServer) (crawl size : ℕ) (mailbox : String) (folder : FolderId)
    (start : ℕ) (t : List Event) : Prop where
  requests : t.filterMap requested? = List.replicate
    (((server.log crawl mailbox folder).drop start).length / size + 1) (mailbox, folder)
  /-- The ids of the new entries were asked for, and no batch was empty. -/
  asked : (t.filterMap asked?).flatten =
      ((server.log crawl mailbox folder).drop start).filterMap LogEntry.id? ∧
    [] ∉ t.filterMap asked?
  /-- There is one record for each new entry with an id. -/
  records : (t.filterMap yielded?).map Record.itemId? =
    (((server.log crawl mailbox folder).drop start).filterMap LogEntry.id?).map fun id =>
      some id.text
  /-- The records are filed under the folder. -/
  filed : ∀ h place, recordsIn (h ++ t) place =
    recordsIn h place ++ if place = (mailbox, folder) then t.filterMap yielded? else []
  /-- The token of the end of the log is stored. -/
  stored : ∀ h m f, storedToken (h ++ t) m f =
    if mailbox = m ∧ folder = f then
      some (server.token mailbox folder (server.log crawl mailbox folder).length)
    else storedToken h m f

section Folder

variable {server : TokenServer} {crawl : ℕ} {config : Config} {mailbox : String}
  {folder : FolderId} {h : List Event}

/-- The items of a log that come back have ids that are not empty. -/
lemma fetched_named {start : ℕ} {t : List Event} (hserved : Admits (server.Serves crawl) h t)
    (hasked : (t.filterMap asked?).flatten =
      ((server.log crawl mailbox folder).drop start).filterMap LogEntry.id?) :
    ∀ item ∈ (t.filterMap fetched?).flatten, item.id.text ≠ "" := by
  intro item hitem
  have hid : item.id ∈ ((server.log crawl mailbox folder).drop start).filterMap LogEntry.id? := by
    rw [← hasked, ← map_id_fetched hserved]
    exact List.mem_map_of_mem hitem
  obtain ⟨entry, hentry, hsome⟩ := List.mem_filterMap.1 hid
  cases entry with
  | deletion => cases hsome
  | item id =>
    cases hsome
    exact server.named crawl mailbox folder _ (List.mem_of_mem_drop hentry)

/-- A folder that has listed the rest of its log and was exhausted is caught up. -/
lemma ReadsRest.caught {changedSince : Option Instant} {start : ℕ}
    {token : Except Failure (Option String)} {t : List Event}
    (ht : ReadsRest (mailbox, folder) config.idPageSize
      ((server.log crawl mailbox folder).drop start)
      (server.token mailbox folder (server.log crawl mailbox folder).length) t)
    (hserved : Admits (server.Serves crawl) h (⟨.readToken mailbox folder, token⟩ :: t))
    (hown : ∀ e ∈ t, e.1.OfFolder config mailbox changedSince folder)
    (hexhausted : Exhausted config mailbox folder (⟨.readToken mailbox folder, token⟩ :: t))
    (hcommits : CommitsLast config mailbox folder (⟨.readToken mailbox folder, token⟩ :: t)) :
    Caught server crawl config.idPageSize mailbox folder start
      (⟨.readToken mailbox folder, token⟩ :: t) := by
  have hread : ReadsRest (mailbox, folder) config.idPageSize
      ((server.log crawl mailbox folder).drop start) _
      ([⟨.readToken mailbox folder, token⟩] ++ t) := ht.prepend (by simp [Call.Lists])
  have hasked := hexhausted.asked.trans hread.ids
  refine ⟨hread.requests, ⟨hasked, fun hempty => ?_⟩, ?_, fun h place => ?_, ?_⟩
  · obtain ⟨⟨c, reply⟩, he, hnone⟩ := List.mem_filterMap.1 hempty
    cases c with
    | fetchItems m ids =>
      exact (hown _ ((List.mem_cons.1 he).resolve_left (by simp))).2 (Option.some.inj hnone)
    | _ => cases hnone
  · rw [Record.map_itemId? (fetched_named hserved hasked) hexhausted.handed, ← hasked,
      ← map_id_fetched hserved, List.map_map]
    rfl
  · exact recordsIn_append_folder hown _ place
  · refine hcommits.storedToken_eq hexhausted.stored ?_
    have hlast := hread.last
    unfold lastPageToken at hlast
    exact Option.or_eq_some_iff.2 (.inl hlast)

/-- A folder that is crawled from its stored token makes a record of each new item, and stores the
token of the end of its log. -/
theorem folder_caught (hmode : config.mode = .syncToken) (changedSince : Option Instant)
    {bound : ℕ} (hstored : storedToken h mailbox folder ≠ some "")
    (hstart : server.cursorPosition mailbox folder (storedToken h mailbox folder) ≤
      (server.log crawl mailbox folder).length)
    (hbound : ((server.log crawl mailbox folder).length -
      server.cursorPosition mailbox folder (storedToken h mailbox folder)) / config.idPageSize <
        bound) :
    (Plain.folder config bound mailbox changedSince folder).Upholds (server.Serves crawl)
      (fun _ => True) (fun _ => False)
      (fun _ h' => ∃ t, h' = h ++ t ∧ Caught server crawl config.idPageSize mailbox folder
        (server.cursorPosition mailbox folder (storedToken h mailbox folder)) t) h := by
  have hreads := folder_reads hmode changedSince hstored hstart hbound
  have hprogress : Program.Upholds (server.Serves crawl) _ _
      (Plain.folder config bound mailbox changedSince folder).run (h ++ []) :=
    Program.Upholds.after h (folder_progress bound changedSince)
  rw [List.append_nil] at hprogress
  have hcalls : Program.Upholds (server.Serves crawl) _ _ _ h :=
    Program.Within.upholds_calls (folder_within config mailbox changedSince folder bound) h
  have hadmits : Program.Upholds (server.Serves crawl) _ _ _ h :=
    Program.upholds_admits (Plain.folder config bound mailbox changedSince folder).run h
  refine Program.Upholds.mono (((Program.Upholds.and hreads hprogress).and hcalls).and hadmits)
    (fun _ _ => trivial) ?_
  rintro result _ ⟨⟨⟨-, t, rfl, hcommits⟩, -⟩, -⟩ ⟨⟨⟨hread, u, hu, hended⟩, -, v, hv, hown⟩, w, hw,
    hserved⟩
  -- The four facts are about the same stretch of the history.
  cases List.append_cancel_left hu
  cases List.append_cancel_left hv
  cases List.append_cancel_left hw
  cases result with
  | error halt => exact hread
  | ok _ =>
    obtain ⟨rest, hrest, hread⟩ := hread
    have hexhausted : Exhausted config mailbox folder t := hended
    cases List.append_cancel_left hrest
    exact ⟨_, rfl, hread.caught hserved (fun e he => hown e (List.mem_cons_of_mem _ he)) hexhausted
      hcommits⟩

end Folder

end MailCollector.Crawl
