import MailCollector.Proofs.Crawl.Turns
import MailCollector.Proofs.Delivery.FlushOrder
import MailCollector.Proofs.Delivery.TokenServer

/-!
# Every item exactly once

Crawls that resume from tokens, one after another and without a failure, collect each item of a log
once.  A crawl that begins where the earlier ones ended makes a record of each new item and stores
the token of the end of the log (`collect_harvests`); so what was collected of a folder is always
the log as it was at the last crawl of its mailbox, and the stored token stands for its end
(`exactly_once`).  Where nothing is new, a crawl asks once in each folder and does nothing else.

While a crawl goes from folder to folder, `Harvested` says what has been collected so far.
-/

namespace MailCollector.Crawl

open MailCollector.Calendar MailCollector.Mail MailCollector.Log Plain Plain.Attempt

namespace TokenServer

variable (server : TokenServer)

/-- The folders of some mailboxes, in the order in which they are crawled. -/
def places (names : List String) : List (String × FolderId) :=
  names.flatMap fun name => (server.folders name).map (name, ·)

/-- The position up to which a folder was collected. -/
def mark (h : List Event) (place : String × FolderId) : ℕ :=
  server.cursorPosition place.1 place.2 (storedToken h place.1 place.2)

/-- The entries of a folder that were not collected before a crawl. -/
def fresh (crawl : ℕ) (h : List Event) (place : String × FolderId) : List LogEntry :=
  (server.log crawl place.1 place.2).drop (server.mark h place)

/-- The ids in a part of a log, as records have them. -/
def textsOf (entries : List LogEntry) : List (Option String) :=
  (entries.filterMap LogEntry.id?).map fun id => some id.text

/-- The stored token of a folder is one from which the folder can be crawled. -/
structure Resumable (crawl : ℕ) (h : List Event) (place : String × FolderId) : Prop where
  nonempty : storedToken h place.1 place.2 ≠ some ""
  le_length : server.mark h place ≤ (server.log crawl place.1 place.2).length

lemma mem_places {server : TokenServer} {names : List String} {mailbox : String}
    {folder : FolderId} : (mailbox, folder) ∈ server.places names ↔
      mailbox ∈ names ∧ folder ∈ server.folders mailbox := by
  simp only [places, List.mem_flatMap, List.mem_map, Prod.mk.injEq]
  constructor
  · rintro ⟨name, hname, f, hf, rfl, rfl⟩
    exact ⟨hname, hf⟩
  · rintro ⟨hname, hf⟩
    exact ⟨mailbox, hname, folder, hf, rfl, rfl⟩

end TokenServer

/-! ### One crawl -/

/-- What has been collected when some folders of a crawl have been crawled. -/
structure Harvested (server : TokenServer) (crawl size : ℕ) (h : List Event)
    (done : List (String × FolderId)) (t : List Event) : Prop where
  requests : t.filterMap requested? = done.flatMap fun place =>
    List.replicate ((server.fresh crawl h place).length / size + 1) place
  asked : (t.filterMap asked?).flatten =
    done.flatMap fun place => (server.fresh crawl h place).filterMap LogEntry.id?
  batches : [] ∉ t.filterMap asked?
  records : (t.filterMap yielded?).map Record.itemId? =
    done.flatMap fun place => TokenServer.textsOf (server.fresh crawl h place)
  filed : ∀ place, idsIn (h ++ t) place = idsIn h place ++
    if place ∈ done then TokenServer.textsOf (server.fresh crawl h place) else []
  stored : ∀ mailbox folder, storedToken (h ++ t) mailbox folder =
    if (mailbox, folder) ∈ done then
      some (server.token mailbox folder (server.log crawl mailbox folder).length)
    else storedToken h mailbox folder

/-- A call that asks for no mail and hands none over. -/
def Call.Aside : Call → Prop
  | .clock | .readInstant _ | .writeInstant _ _ | .listFolders _ _ | .note _ | .flush => True
  | _ => False

namespace Harvested

variable {server : TokenServer} {crawl size : ℕ} {h t u : List Event}
  {done : List (String × FolderId)}

/-- Nothing has been collected before the first folder. -/
lemma nil : Harvested server crawl size h [] [] where
  requests := rfl
  asked := rfl
  batches := by simp
  records := rfl
  filed := by simp
  stored := by simp

/-- Calls aside change nothing. -/
lemma append_aside (ht : Harvested server crawl size h done t)
    (hu : ∀ e ∈ u, e.1.Aside) : Harvested server crawl size h done (t ++ u) := by
  have hnone : ∀ {β : Type} (observed : Event → Option β),
      (∀ e : Event, e.1.Aside → observed e = none) →
      (t ++ u).filterMap observed = t.filterMap observed := by
    intro β observed hobserved
    have hempty : u.filterMap observed = [] :=
      List.filterMap_eq_nil_iff.2 fun e he => hobserved e (hu e he)
    rw [List.filterMap_append, hempty, List.append_nil]
  have hrequested := hnone requested? fun ⟨c, _⟩ hc => by cases c <;> first | rfl | exact hc.elim
  have hasked := hnone asked? fun ⟨c, _⟩ hc => by cases c <;> first | rfl | exact hc.elim
  have hyielded := hnone yielded? fun ⟨c, _⟩ hc => by cases c <;> first | rfl | exact hc.elim
  have hquiet : ∀ e ∈ u, yielded? e = none ∧ ¬ e.1.WritesToken := by
    rintro ⟨c, reply⟩ he
    have hc := hu _ he
    cases c <;> first | exact ⟨rfl, id⟩ | exact hc.elim
  refine ⟨?_, ?_, ?_, ?_, fun place => ?_, fun mailbox folder => ?_⟩
  · rw [hrequested, ht.requests]
  · rw [hasked, ht.asked]
  · rw [hasked]
    exact ht.batches
  · rw [hyielded, ht.records]
  · rw [← ht.filed, ← List.append_assoc, idsIn, idsIn, recordsIn_append fun e he => (hquiet e he).1]
  · rw [← ht.stored, ← List.append_assoc, storedToken_append fun e he => (hquiet e he).2]

/-- One more folder is crawled, from its mark. -/
lemma append_folder {mailbox : String} {folder : FolderId}
    (ht : Harvested server crawl size h done t) (hnew : (mailbox, folder) ∉ done)
    (hu : Caught server crawl size mailbox folder (server.mark h (mailbox, folder)) u) :
    Harvested server crawl size h (done ++ [(mailbox, folder)]) (t ++ u) := by
  have hrecords : (u.filterMap yielded?).map Record.itemId? =
      TokenServer.textsOf (server.fresh crawl h (mailbox, folder)) := hu.records
  refine ⟨?_, ?_, ?_, ?_, fun place => ?_, fun m f => ?_⟩
  · rw [List.filterMap_append, ht.requests, hu.requests, List.flatMap_append,
      List.flatMap_singleton]
    rfl
  · rw [List.filterMap_append, List.flatten_append, ht.asked, hu.asked.1, List.flatMap_append,
      List.flatMap_singleton]
    rfl
  · rw [List.filterMap_append, List.mem_append]
    exact fun hempty => hempty.elim ht.batches hu.asked.2
  · rw [List.filterMap_append, List.map_append, ht.records, hrecords, List.flatMap_append,
      List.flatMap_singleton]
  · rw [← List.append_assoc, idsIn, hu.filed, List.map_append, ← idsIn, ht.filed,
      List.append_assoc]
    by_cases hsame : place = (mailbox, folder)
    · subst hsame
      simp [hnew, hrecords]
    · simp [hsame]
  · rw [← List.append_assoc, hu.stored, ht.stored]
    by_cases hsame : mailbox = m ∧ folder = f
    · obtain ⟨rfl, rfl⟩ := hsame
      simp
    · have hother : (m, f) ≠ (mailbox, folder) := fun heq => by
        cases heq
        exact hsame ⟨rfl, rfl⟩
      simp [hsame, hother]

end Harvested

section Crawl

variable {server : TokenServer} {crawl : ℕ} {config : Config} {bound : ℕ} {h t : List Event}
  {done : List (String × FolderId)}

/-- Crawling a folder takes the harvest one folder further. -/
lemma folder_harvests (hmode : config.mode = .syncToken) (changedSince : Option Instant)
    {mailbox : String} {folder : FolderId} (hresume : server.Resumable crawl h (mailbox, folder))
    (hbound : (server.log crawl mailbox folder).length < bound)
    (ht : Harvested server crawl config.idPageSize h done t) (hnew : (mailbox, folder) ∉ done) :
    (Plain.folder config bound mailbox changedSince folder).Upholds (server.Serves crawl)
      (fun _ => True) (fun _ => False) (fun _ h' => ∃ t', h' = h ++ t' ∧
        Harvested server crawl config.idPageSize h (done ++ [(mailbox, folder)]) t') (h ++ t) := by
  have hstored : storedToken (h ++ t) mailbox folder = storedToken h mailbox folder := by
    rw [ht.stored, if_neg hnew]
  have hmark : server.cursorPosition mailbox folder (storedToken (h ++ t) mailbox folder) =
      server.mark h (mailbox, folder) := by rw [hstored]; rfl
  have hpages : ((server.log crawl mailbox folder).length - server.mark h (mailbox, folder)) /
      config.idPageSize < bound :=
    Nat.lt_of_le_of_lt (Nat.le_trans (Nat.div_le_self _ _) (Nat.sub_le _ _)) hbound
  refine (folder_caught hmode changedSince ?_ ?_ ?_).mono ?_
  · rw [hstored]
    exact hresume.nonempty
  · rw [hmark]
    exact hresume.le_length
  · rw [hmark]
    exact hpages
  · rintro _ _ - ⟨u, rfl, hu⟩
    rw [hmark] at hu
    exact ⟨t ++ u, List.append_assoc _ _ _, ht.append_folder hnew hu⟩

/-- The folders of a mailbox are harvested one after another. -/
lemma folders_harvest (hmode : config.mode = .syncToken) (changedSince : Option Instant)
    {mailbox : String} {folders : List FolderId}
    (hfolders : ∀ folder ∈ folders, server.Resumable crawl h (mailbox, folder) ∧
      (server.log crawl mailbox folder).length < bound)
    (hnodup : folders.Nodup) (hnew : ∀ folder ∈ folders, (mailbox, folder) ∉ done)
    (ht : Harvested server crawl config.idPageSize h done t) :
    (folders.forM (Plain.folder config bound mailbox changedSince)).Upholds (server.Serves crawl)
      (fun _ => True) (fun _ => False) (fun _ h' => ∃ t', h' = h ++ t' ∧
        Harvested server crawl config.idPageSize h (done ++ folders.map (mailbox, ·)) t')
      (h ++ t) := by
  induction folders generalizing done t with
  | nil =>
    rw [List.forM_eq_forM, List.forM_nil, upholds_pure, List.map_nil, List.append_nil]
    exact ⟨trivial, t, rfl, ht⟩
  | cons folder folders ih =>
    obtain ⟨hfolder, hothers⟩ := List.forall_mem_cons.1 hfolders
    obtain ⟨hfirst, hrest⟩ := List.nodup_cons.1 hnodup
    rw [List.forM_eq_forM, List.forM_cons, upholds_bind]
    refine (folder_harvests hmode changedSince hfolder.1 hfolder.2 ht
      (hnew folder List.mem_cons_self)).mono ?_
    rintro _ _ - ⟨t', rfl, ht'⟩
    have hnew' : ∀ f ∈ folders, (mailbox, f) ∉ done ++ [(mailbox, folder)] := by
      intro f hf hmem
      rcases List.mem_append.1 hmem with hmem | hmem
      · exact hnew f (List.mem_cons_of_mem _ hf) hmem
      · cases List.mem_singleton.1 hmem
        exact hfirst hf
    rw [List.map_cons, List.append_cons]
    exact ih hothers hrest hnew' ht'

/-- A mailbox is harvested when all its folders are. -/
lemma mailbox_harvests (hmode : config.mode = .syncToken) {name : String}
    (hfolders : ∀ folder ∈ server.folders name, server.Resumable crawl h (name, folder) ∧
      (server.log crawl name folder).length < bound)
    (hnew : ∀ folder, (name, folder) ∉ done)
    (ht : Harvested server crawl config.idPageSize h done t) :
    (mailbox config bound name).Upholds (server.Serves crawl) (fun _ => True) (fun _ => False)
      (fun _ h' => ∃ t', h' = h ++ t' ∧ Harvested server crawl config.idPageSize h
        (done ++ (server.folders name).map (name, ·)) t') (h ++ t) := by
  rw [mailbox_eq, upholds_bind, upholds_lift]
  refine ⟨trivial, fun startedAt _ => ⟨trivial, ?_⟩⟩
  unfold timed resumption
  rw [hmode]
  refine upholds_bind.2 (upholds_pure.2 ⟨trivial, ?_⟩)
  rw [sweep, upholds_bind, upholds_tried]
  refine ⟨trivial, fun reply hreply => ⟨trivial, ?_⟩⟩
  cases hreply
  refine upholds_bind.2 (upholds_noting.2 ⟨trivial, fun _ => ⟨trivial, upholds_bind.2 ?_⟩⟩)
  rw [List.append_assoc, List.append_assoc, List.append_assoc]
  have hopened := ht.append_aside (u := [⟨.clock, startedAt⟩] ++
    ([⟨.listFolders name (.wellKnown .messageRoot), .ok (server.folders name)⟩] ++
      [⟨.note (if (server.folders name).isEmpty then .noFolders name
        else .foldersFound (server.folders name).length name), ()⟩])) (by simp [Call.Aside])
  refine (folders_harvest hmode none hfolders (server.folders_nodup name)
    (fun folder _ => hnew folder) hopened).mono ?_
  rintro _ _ - ⟨t', rfl, ht'⟩
  rw [completion, upholds_bind, upholds_tried]
  refine ⟨trivial, fun reply hreply => ⟨trivial, ?_⟩⟩
  cases hreply
  refine upholds_noting.2 ⟨trivial, fun _ => ⟨trivial, _, ?_, ht'.append_aside
    (u := [⟨.writeInstant name startedAt, .ok ()⟩, ⟨.note (.mailboxFinished name), ()⟩])
    (by simp [Call.Aside])⟩⟩
  simp

/-- The plain loop harvests all its mailboxes, and none of them fails. -/
lemma mailboxes_harvest (hmode : config.mode = .syncToken) {names : List String}
    (hplaces : ∀ place ∈ server.places names, server.Resumable crawl h place ∧
      (server.log crawl place.1 place.2).length < bound)
    (hnodup : names.Nodup) (hnew : ∀ name ∈ names, ∀ folder, (name, folder) ∉ done)
    (ht : Harvested server crawl config.idPageSize h done t) :
    (mailboxes config bound names).Upholds (server.Serves crawl) (fun _ => True)
      (fun result h' => result = some [] ∧ ∃ t', h' = h ++ t' ∧
        Harvested server crawl config.idPageSize h (done ++ server.places names) t') (h ++ t) := by
  induction names generalizing done t with
  | nil =>
    refine ⟨trivial, rfl, t, rfl, ?_⟩
    rwa [TokenServer.places, List.flatMap_nil, List.append_nil]
  | cons name names ih =>
    obtain ⟨hfirst, hrest⟩ := List.nodup_cons.1 hnodup
    have hmailbox : (mailbox config bound name).Upholds (server.Serves crawl) (fun _ => True)
        (fun _ => False) _ (h ++ t) :=
      mailbox_harvests hmode
        (fun folder hfolder => hplaces (name, folder)
          (TokenServer.mem_places.2 ⟨List.mem_cons_self, hfolder⟩))
        (hnew name List.mem_cons_self) ht
    rw [mailboxes, Program.upholds_bind]
    refine Program.Upholds.mono hmailbox (fun _ _ => trivial) ?_
    intro ended h' _ hended
    cases ended with
    | error halt => exact hended.elim
    | ok _ =>
      obtain ⟨t', rfl, ht'⟩ := hended
      have hothers : ∀ place ∈ server.places names, server.Resumable crawl h place ∧
          (server.log crawl place.1 place.2).length < bound := by
        intro place hplace
        obtain ⟨hname, hfolder⟩ := TokenServer.mem_places.1 hplace
        exact hplaces place (TokenServer.mem_places.2 ⟨List.mem_cons_of_mem _ hname, hfolder⟩)
      have hnew' : ∀ other ∈ names, ∀ folder,
          (other, folder) ∉ done ++ (server.folders name).map (name, ·) := by
        intro other hother folder hmem
        rcases List.mem_append.1 hmem with hmem | hmem
        · exact hnew other (List.mem_cons_of_mem _ hother) folder hmem
        · obtain ⟨f, -, hsame⟩ := List.mem_map.1 hmem
          cases hsame
          exact hfirst hother
      have hnext := ih hothers hrest hnew' ht'
      rwa [List.append_assoc] at hnext

/-- Some bound exceeds the length of each of the logs. -/
lemma exists_bound (server : TokenServer) (crawl : ℕ) (places : List (String × FolderId)) :
    ∃ bound, ∀ place ∈ places, (server.log crawl place.1 place.2).length < bound := by
  induction places with
  | nil => exact ⟨0, by simp⟩
  | cons place places ih =>
    obtain ⟨bound, hbound⟩ := ih
    refine ⟨bound + (server.log crawl place.1 place.2).length + 1,
      List.forall_mem_cons.2 ⟨by omega, fun other hother => ?_⟩⟩
    have hlt := hbound other hother
    omega

/-- A crawl that finishes has harvested all its mailboxes, in any number of turns. -/
theorem collect_harvests {σ : Type} {world : World σ} {s : σ} (hmode : config.mode = .syncToken)
    {names : List String} (hnodup : names.Nodup)
    (hresume : ∀ place ∈ server.places names, server.Resumable crawl h place) {fuel : ℕ}
    {summary : Summary}
    (hserves : Admits (server.Serves crawl) h ((collect config fuel names).trace world s))
    (hrun : ((collect config fuel names).run world s).1 = .ok (.finished summary)) :
    summary.failures = [] ∧ Harvested server crawl config.idPageSize h (server.places names)
      ((collect config fuel names).trace world s) := by
  obtain ⟨bound, hbound⟩ := exists_bound server crawl (server.places names)
  -- More turns change nothing, and with enough of them the plain loop comes to its end.
  have hbegins := drain_begins config names.length fuel bound 0 (Roster.start names)
  obtain ⟨htrace, _, hfinished, rfl⟩ := hbegins.run_eq world hrun fun ⟨_, _, h⟩ => by cases h
  have hloop : (mailboxes config (fuel + bound) names).Upholds (server.Serves crawl)
      (fun _ => True) _ (h ++ []) :=
    mailboxes_harvest hmode (fun place hplace => ⟨hresume place hplace,
      Nat.lt_of_lt_of_le (hbound place hplace) (Nat.le_add_left _ _)⟩) hnodup (by simp) .nil
  rw [List.append_nil, ← Roster.rest_start_eq] at hloop
  have hdrain : (drain config names.length (fuel + bound) 0 (Roster.start names)).Upholds
      (server.Serves crawl) (fun _ => True) (ClosedAfter fun failures h' => failures = [] ∧
        ∃ t, h' = h ++ t ∧
          Harvested server crawl config.idPageSize h (server.places names) t) h := by
    refine drain_upholds config names.length (fun _ _ hserved => .inl hserved)
      (fun _ _ _ _ => trivial) (hloop.mono (fun _ _ => trivial) ?_)
    rintro _ _ - ⟨rfl, t, rfl, ht⟩ failures hfailures
    cases hfailures
    exact ⟨rfl, t, rfl, ht⟩
  have hadmits : Admits (server.Serves crawl) h
      ((drain config names.length (fuel + bound) 0 (Roster.start names)).trace world s) := by
    rw [htrace]
    exact hserves
  obtain ⟨_, ⟨hfailures, t, rfl, ht⟩, hclosed⟩ := hdrain.run hadmits hfinished summary rfl
  rw [htrace, List.append_assoc] at hclosed
  rw [collect, List.append_cancel_left hclosed]
  exact ⟨hfailures, ht.append_aside (by simp [Call.Aside])⟩

end Crawl

/-! ### Crawls, one after another -/

/-- A crawl that resumes from tokens, over mailboxes none of which is listed twice. -/
structure TokenCrawl where
  config : Config
  names : List String
  mode_eq : config.mode = .syncToken
  names_nodup : names.Nodup

/-- The crawl as a program, in at most `fuel` turns. -/
def TokenCrawl.program (c : TokenCrawl) (fuel : ℕ) : Program Outcome :=
  collect c.config fuel c.names

/-- From `s₀` on some crawls were made, one after another, in which no call failed, and all of them
have finished.  They have left the history `h` and the world in the state `s`. -/
inductive Crawled {σ : Type} (server : TokenServer) (world : World σ) (s₀ : σ) :
    List TokenCrawl → List Event → σ → Prop
  | start : Crawled server world s₀ [] [] s₀
  | next {crawls : List TokenCrawl} {h : List Event} {s s' : σ} {c : TokenCrawl} {fuel : ℕ}
      {summary : Summary} (hbefore : Crawled server world s₀ crawls h s)
      (hserves : Admits (server.Serves crawls.length) h ((c.program fuel).trace world s))
      (hrun : (c.program fuel).run world s = (.ok (.finished summary), s')) :
      Crawled server world s₀ (crawls ++ [c]) (h ++ (c.program fuel).trace world s) s'

/-- What was collected of a folder is its log, as it was at the last crawl of its mailbox, and the
stored token stands for the end of that log.  If there was no such crawl, nothing was collected. -/
def Collected (server : TokenServer) (crawls : List TokenCrawl) (h : List Event) (mailbox : String)
    (folder : FolderId) : Prop :=
  (∀ c ∈ crawls, mailbox ∉ c.names) ∧ storedToken h mailbox folder = none ∧
      idsIn h (mailbox, folder) = [] ∨
    ∃ earlier c later, crawls = earlier ++ c :: later ∧ mailbox ∈ c.names ∧
      (∀ d ∈ later, mailbox ∉ d.names) ∧
      storedToken h mailbox folder =
        some (server.token mailbox folder (server.log earlier.length mailbox folder).length) ∧
      idsIn h (mailbox, folder) =
        TokenServer.textsOf (server.log earlier.length mailbox folder)

/-- The logs of all folders of a crawl are as they were at an earlier crawl of their mailbox. -/
def Unchanged (server : TokenServer) (crawls : List TokenCrawl) (c : TokenCrawl) : Prop :=
  ∀ mailbox ∈ c.names, ∀ folder ∈ server.folders mailbox, ∃ earlier d later,
    crawls = earlier ++ d :: later ∧ mailbox ∈ d.names ∧
      server.log earlier.length mailbox folder = server.log crawls.length mailbox folder

/-- The crawl asks for ids once in each folder, and it changes nothing. -/
structure Idle (server : TokenServer) (c : TokenCrawl) (h t : List Event) : Prop where
  requests : t.filterMap requested? = server.places c.names
  asked : t.filterMap asked? = []
  records : t.filterMap yielded? = []
  stored : ∀ mailbox folder, storedToken (h ++ t) mailbox folder = storedToken h mailbox folder

section Crawls

variable {σ : Type} {server : TokenServer} {crawls : List TokenCrawl} {h t : List Event}
  {mailbox : String} {folder : FolderId}

/-- A folder of which a whole log was collected can be crawled, and the rest of the log is fresh. -/
lemma fresh_of_stored {before : ℕ} (hbefore : before ≤ crawls.length)
    (hstored : storedToken h mailbox folder =
      some (server.token mailbox folder (server.log before mailbox folder).length)) :
    server.Resumable crawls.length h (mailbox, folder) ∧
      server.log crawls.length mailbox folder = server.log before mailbox folder ++
        server.fresh crawls.length h (mailbox, folder) := by
  obtain ⟨later, hlater⟩ := server.log_isPrefix mailbox folder hbefore
  have hmark : server.mark h (mailbox, folder) = (server.log before mailbox folder).length := by
    rw [TokenServer.mark, hstored]
    exact server.position_token _ _ _
  refine ⟨⟨?_, ?_⟩, ?_⟩
  · intro hempty
    exact server.token_ne_empty _ _ _ (Option.some.inj (hstored.symm.trans hempty))
  · rw [hmark, ← hlater, List.length_append]
    exact Nat.le_add_right _ _
  · rw [TokenServer.fresh, hmark, ← hlater, List.drop_left]

/-- A folder can be crawled from where the earlier crawls have left it. -/
lemma Collected.resumable (hcollected : Collected server crawls h mailbox folder) :
    server.Resumable crawls.length h (mailbox, folder) := by
  rcases hcollected with ⟨-, hstored, -⟩ | ⟨earlier, c, later, rfl, -, -, hstored, -⟩
  · have hmark : server.mark h (mailbox, folder) = 0 := by
      rw [TokenServer.mark, hstored]
      rfl
    exact ⟨by simp [hstored], by simp [hmark]⟩
  · exact (fresh_of_stored (by simp) hstored).1

/-- A crawl that harvests its mailboxes collects the rest of their logs. -/
lemma Collected.next {c : TokenCrawl} {size : ℕ} (hfolder : folder ∈ server.folders mailbox)
    (hcollected : Collected server crawls h mailbox folder)
    (ht : Harvested server crawls.length size h (server.places c.names) t) :
    Collected server (crawls ++ [c]) (h ++ t) mailbox folder := by
  have hfiled := ht.filed (mailbox, folder)
  have hstored := ht.stored mailbox folder
  by_cases hname : mailbox ∈ c.names
  · have hmem : (mailbox, folder) ∈ server.places c.names :=
      TokenServer.mem_places.2 ⟨hname, hfolder⟩
    rw [if_pos hmem] at hfiled hstored
    refine .inr ⟨crawls, c, [], rfl, hname, by simp, hstored, hfiled.trans ?_⟩
    rcases hcollected with ⟨-, hnone, hempty⟩ | ⟨earlier, d, later, rfl, -, -, hsome, hids⟩
    · have hmark : server.mark h (mailbox, folder) = 0 := by
        rw [TokenServer.mark, hnone]
        rfl
      rw [hempty, List.nil_append, TokenServer.fresh, hmark, List.drop_zero]
    · have hbefore : earlier.length ≤ (earlier ++ d :: later).length := by simp
      obtain ⟨-, hlog⟩ := fresh_of_stored hbefore hsome
      rw [hids, hlog, TokenServer.textsOf, TokenServer.textsOf, TokenServer.textsOf,
        List.filterMap_append, List.map_append]
  · have hnot : (mailbox, folder) ∉ server.places c.names := fun hmem =>
      hname (TokenServer.mem_places.1 hmem).1
    rw [if_neg hnot] at hfiled hstored
    rw [List.append_nil] at hfiled
    rcases hcollected with
      ⟨hnever, hnone, hempty⟩ | ⟨earlier, d, later, rfl, hd, hlast, hsome, hids⟩
    · refine .inl ⟨?_, hstored.trans hnone, hfiled.trans hempty⟩
      exact List.forall_mem_append.2 ⟨hnever, List.forall_mem_singleton.2 hname⟩
    · refine .inr ⟨earlier, d, later ++ [c], by simp, hd, ?_, hstored.trans hsome,
        hfiled.trans hids⟩
      exact List.forall_mem_append.2 ⟨hlast, List.forall_mem_singleton.2 hname⟩

/-- Where a log has not grown since an earlier crawl, nothing is fresh and the stored token stands
for its end. -/
lemma Collected.fresh_eq_nil (hcollected : Collected server crawls h mailbox folder)
    (hunchanged : ∃ earlier d later, crawls = earlier ++ d :: later ∧ mailbox ∈ d.names ∧
      server.log earlier.length mailbox folder = server.log crawls.length mailbox folder) :
    server.fresh crawls.length h (mailbox, folder) = [] ∧
      storedToken h mailbox folder =
        some (server.token mailbox folder (server.log crawls.length mailbox folder).length) := by
  obtain ⟨before, d, after, hcrawls, hd, hsame⟩ := hunchanged
  rcases hcollected with ⟨hnever, -, -⟩ | ⟨earlier, c, later, hsplit, -, hlast, hstored, -⟩
  · exact absurd hd (hnever d (by simp [hcrawls]))
  -- The last crawl of the mailbox is not before the one at which the log was as it is now.
  have horder : before.length ≤ earlier.length := by
    rcases List.append_eq_append_iff.1 (hcrawls.symm.trans hsplit) with
      ⟨between, rfl, -⟩ | ⟨between, rfl, hrest⟩
    · simp
    · cases between with
      | nil => simp
      | cons c' between =>
        have hd' : d ∈ later := by simp [(List.cons.inj hrest).2]
        exact absurd hd (hlast d hd')
  have hearlier : earlier.length ≤ crawls.length := by simp [hsplit]
  have hlog : server.log earlier.length mailbox folder =
      server.log crawls.length mailbox folder := by
    have hbegins := server.log_isPrefix mailbox folder horder
    have hgrows := server.log_isPrefix mailbox folder hearlier
    rw [hsame] at hbegins
    exact hgrows.eq_of_length (Nat.le_antisymm hgrows.length_le hbegins.length_le)
  obtain ⟨-, hfresh⟩ := fresh_of_stored hearlier hstored
  rw [hlog] at hfresh hstored
  exact ⟨List.self_eq_append_right.1 hfresh, hstored⟩

/-- A crawl that harvests its mailboxes when nothing is new asks once in each folder. -/
lemma Harvested.idle {c : TokenCrawl} {size : ℕ}
    (ht : Harvested server crawls.length size h (server.places c.names) t)
    (hcollected : ∀ m, ∀ f ∈ server.folders m, Collected server crawls h m f)
    (hunchanged : Unchanged server crawls c) : Idle server c h t := by
  have hfresh : ∀ m f, (m, f) ∈ server.places c.names →
      server.fresh crawls.length h (m, f) = [] ∧ storedToken h m f =
        some (server.token m f (server.log crawls.length m f).length) := by
    intro m f hmem
    obtain ⟨hname, hfolder⟩ := TokenServer.mem_places.1 hmem
    exact (hcollected m f hfolder).fresh_eq_nil (hunchanged m hname f hfolder)
  have hasked : (t.filterMap asked?).flatten = [] := by
    rw [ht.asked, List.flatMap_eq_nil_iff]
    rintro ⟨m, f⟩ hmem
    rw [(hfresh m f hmem).1]
    rfl
  have hrecords : (t.filterMap yielded?).map Record.itemId? = [] := by
    rw [ht.records, List.flatMap_eq_nil_iff]
    rintro ⟨m, f⟩ hmem
    rw [(hfresh m f hmem).1]
    rfl
  refine ⟨?_, ?_, List.map_eq_nil_iff.1 hrecords, fun m f => ?_⟩
  · have honce : ∀ place ∈ server.places c.names,
        List.replicate ((server.fresh crawls.length h place).length / size + 1) place =
          [place] := by
      rintro ⟨m, f⟩ hmem
      rw [(hfresh m f hmem).1, List.length_nil, Nat.zero_div]
      rfl
    rw [ht.requests, List.flatMap_congr honce, List.flatMap_singleton']
  · refine List.eq_nil_iff_forall_not_mem.2 fun ids hids => ?_
    rw [List.flatten_eq_nil_iff] at hasked
    exact ht.batches (hasked ids hids ▸ hids)
  · rw [ht.stored]
    split
    · rename_i hmem
      exact (hfresh m f hmem).2.symm
    · rfl

/-- What was collected of a folder is its log. -/
lemma Crawled.collected {world : World σ} {s₀ s : σ} (hcrawled : Crawled server world s₀ crawls h s)
    (mailbox : String) (folder : FolderId) (hfolder : folder ∈ server.folders mailbox) :
    Collected server crawls h mailbox folder := by
  induction hcrawled generalizing mailbox folder with
  | start => exact .inl ⟨by simp, rfl, rfl⟩
  | @next crawls h s s' c fuel summary hbefore hserves hrun ih =>
    have hresume : ∀ place ∈ server.places c.names,
        server.Resumable crawls.length h place := by
      rintro ⟨m, f⟩ hmem
      exact (ih m f (TokenServer.mem_places.1 hmem).2).resumable
    have ht := (collect_harvests c.mode_eq c.names_nodup hresume hserves
      (congrArg Prod.fst hrun)).2
    exact (ih mailbox folder hfolder).next hfolder ht

/-- During a crawl in which no call fails neither the sink nor an item stops it. -/
lemma TokenServer.Serves.unstopped {crawl : ℕ} {e : Event} (he : server.Serves crawl h e) :
    ¬ SinkFails e ∧ downfall? e = none := by
  obtain ⟨c, reply⟩ := e
  cases c with
  | store record =>
    cases he
    exact ⟨id, rfl⟩
  | flush =>
    cases he
    exact ⟨id, rfl⟩
  | fetchItems mailbox ids =>
    obtain ⟨items, rfl, -, hdatable⟩ := he
    have hnone : items.find? (fun item => !datable item) = none := by
      rw [List.find?_eq_none]
      intro item hitem
      simp [hdatable item hitem]
    refine ⟨id, ?_⟩
    simp [downfall?, fetched?, undatable?, hnone]
  | _ => exact ⟨id, rfl⟩

/-- Take a server that keeps an append-only log of each folder and hands out a token for each
position, and crawls of any of its mailboxes with any page sizes, one after another, in which no
call failed, with no token stored at first.  What was collected of a folder is its log as it was at
the last crawl of its mailbox, each id once and in order, and the stored token stands for its end.

Take a further crawl.  If no call fails, it finishes in all but finitely many numbers of turns.
However many turns it finishes in, no mailbox fails, and if nothing is new it asks for ids once in
each folder, fetches nothing, hands nothing over and leaves all tokens as they are. -/
theorem exactly_once {world : World σ} {s₀ s : σ} (hcrawled : Crawled server world s₀ crawls h s) :
    (∀ mailbox, ∀ folder ∈ server.folders mailbox, Collected server crawls h mailbox folder) ∧
      ∀ c : TokenCrawl,
        ((∀ fuel, Admits (server.Serves crawls.length) h ((c.program fuel).trace world s)) →
          ∃ turns, ∀ fuel, turns ≤ fuel → ∃ summary,
            ((c.program fuel).run world s).1 = .ok (.finished summary)) ∧
        ∀ fuel summary,
          Admits (server.Serves crawls.length) h ((c.program fuel).trace world s) →
          ((c.program fuel).run world s).1 = .ok (.finished summary) →
          summary.failures = [] ∧
            (Unchanged server crawls c → Idle server c h ((c.program fuel).trace world s)) := by
  have hcollected := hcrawled.collected
  refine ⟨hcollected, fun c => ?_⟩
  have hresume : ∀ place ∈ server.places c.names, server.Resumable crawls.length h place := by
    rintro ⟨mailbox, folder⟩ hmem
    exact (hcollected mailbox folder (TokenServer.mem_places.1 hmem).2).resumable
  refine ⟨fun hserves => ?_, fun fuel summary hserves hrun => ?_⟩
  · obtain ⟨bound, hbound⟩ := exists_bound server crawls.length (server.places c.names)
    have hplain : (mailboxes c.config bound c.names).Upholds (server.Serves crawls.length)
        (fun _ => True) _ (h ++ []) :=
      mailboxes_harvest c.mode_eq (fun place hplace => ⟨hresume place hplace, hbound place hplace⟩)
        c.names_nodup (by simp) .nil
    rw [List.append_nil] at hplain
    refine collect_finishes c.mode_eq (fun _ _ he => he.unstopped)
      (hplain.mono (fun _ _ => trivial) ?_) hserves
    rintro _ _ - ⟨rfl, -⟩ hnone
    cases hnone
  · obtain ⟨hfailures, ht⟩ := collect_harvests c.mode_eq c.names_nodup hresume hserves hrun
    exact ⟨hfailures, ht.idle hcollected⟩

end Crawls

/-! ### A sample -/

/-- How often the sink was flushed, which a crawl does at its end. -/
def flushes (h : List Event) : ℕ := h.countP (·.1 = .flush)

/-- If the log of each moment is that of the crawl which the flushes count, it does not change
during a crawl. -/
lemma admits_serves_of_flushes {server : TokenServer} {h t : List Event} (hflushed : FlushedAtEnd t)
    (ht : Admits (fun h e => server.Serves (flushes h) h e) h t) :
    Admits (server.Serves (flushes h)) h t := by
  have hquiet : ∀ {t h : List Event}, Flushless t →
      Admits (fun h e => server.Serves (flushes h) h e) h t →
      Admits (server.Serves (flushes h)) h t := by
    intro t
    induction t with
    | nil => exact fun _ _ => trivial
    | cons e t ih =>
      intro h hflushless ht
      have hsame : flushes (h ++ [e]) = flushes h := by
        simp [flushes, List.countP_append, hflushless e List.mem_cons_self]
      exact ⟨ht.1, hsame ▸ ih (fun e' he' => hflushless e' (List.mem_cons_of_mem e he')) ht.2⟩
  have hnotes : ∀ (notes : List Note) (h : List Event) (crawl : ℕ),
      Admits (server.Serves crawl) h (notes.map fun n => ⟨.note n, ()⟩) := by
    intro notes
    induction notes with
    | nil => exact fun _ _ => trivial
    | cons n notes ih => exact fun h crawl => ⟨trivial, ih _ crawl⟩
  rcases hflushed with hflushless | ⟨before, reply, notes, rfl, hflushless⟩
  · exact hquiet hflushless ht
  · obtain ⟨hbefore, hflush, -⟩ := (admits_append _ _ _).1 ht
    exact (admits_append _ _ _).2 ⟨hquiet hflushless hbefore, hflush, hnotes notes _ _⟩

/-- A server on which every folder has a mail and a deletion at first, and gets a second mail after
the first crawl. -/
def sampleTokenServer : TokenServer where
  log crawl _ _ := [.item { text := "a" }, .deletion, .item { text := "b" }].take (crawl + 2)
  grows _ _ _ := List.take_prefix_take_left (Nat.le_succ _)
  position _ _ token := token.length - 1
  token _ _ n := String.ofList (List.replicate (n + 1) 'x')
  token_ne_empty _ _ _ hempty := by simpa using congrArg String.length hempty
  position_token _ _ _ := by simp
  named _ _ _ id hid := by
    have hmem := List.mem_of_mem_take hid
    simp only [List.mem_cons, LogEntry.item.injEq, reduceCtorEq, List.not_mem_nil, or_false,
      false_or] at hmem
    rcases hmem with rfl | rfl <;> decide
  folders _ := [.default]
  folders_nodup _ := by simp

/-- The answers of the sample server, whose logs grow when the sink is flushed. -/
def sampleTokenReply (h : List Event) : (c : Call) → c.Reply
  | .clock => default
  | .readInstant _ => .ok none
  | .writeInstant _ _ => .ok ()
  | .readToken mailbox folder => .ok (storedToken h mailbox folder)
  | .writeToken _ _ _ => .ok ()
  | .listFolders _ _ => .ok [.default]
  | .listItems request =>
    match request.cursor with
    | .offset _ _ => .ok {}
    | .token token =>
      let start := sampleTokenServer.cursorPosition request.mailbox request.folder token
      let entries := LogServer.slice
        (sampleTokenServer.log (flushes h) request.mailbox request.folder) start request.pageSize
      .ok
        { ids := entries.filterMap LogEntry.id?
          token := some
            (sampleTokenServer.token request.mailbox request.folder (start + entries.length))
          entriesReturned := entries.length }
  | .fetchItems _ ids => .ok (ids.map fun id => { id := id })
  | .store _ => .ok ()
  | .flush => .ok ()
  | .note _ => ()

/-- The sample server as a world. -/
def sampleTokenWorld : World (List Event) := .remembering sampleTokenReply

/-- The sample server serves every crawl. -/
lemma sampleTokenWorld_serves (c : TokenCrawl) (fuel : ℕ) (h : List Event) :
    Admits (sampleTokenServer.Serves (flushes h)) h
      ((c.program fuel).trace sampleTokenWorld h) := by
  refine admits_serves_of_flushes (collect_flushes_last _ _ _ _ _) ?_
  refine (c.program fuel).remembering_admits (fun h call => ?_) h
  cases call with
  | listItems request =>
    obtain ⟨mailbox, folder, pageSize, cursor⟩ := request
    cases cursor with
    | offset offset changedSince => exact fun _ hcursor => by cases hcursor
    | token token =>
      rintro _ ⟨⟩
      exact ⟨_, rfl, rfl, rfl, rfl⟩
  | fetchItems mailbox ids =>
    refine ⟨_, rfl, by simp [Function.comp_def], fun item hitem => ?_⟩
    obtain ⟨id, -, rfl⟩ := List.mem_map.1 hitem
    rfl
  | clock => trivial
  | readInstant mailbox => trivial
  | note n => trivial
  | _ => exact rfl

/-- A crawl of one mailbox, with two entries to a page. -/
def sampleCrawl : TokenCrawl where
  config := Config.ofRequested 2 1
  names := ["m"]
  mode_eq := rfl
  names_nodup := by simp

/-- A crawl that finishes on the sample server comes after the crawls that its history counts. -/
lemma sampleTokenWorld_crawled {crawls : List TokenCrawl} {h : List Event}
    (hbefore : Crawled sampleTokenServer sampleTokenWorld [] crawls h h)
    (hcount : flushes h = crawls.length) (fuel : ℕ) {summary : Summary}
    (hrun : ((sampleCrawl.program fuel).run sampleTokenWorld h).1 = .ok (.finished summary)) :
    Crawled sampleTokenServer sampleTokenWorld [] (crawls ++ [sampleCrawl])
      (h ++ (sampleCrawl.program fuel).trace sampleTokenWorld h)
      (h ++ (sampleCrawl.program fuel).trace sampleTokenWorld h) :=
  .next hbefore (hcount ▸ sampleTokenWorld_serves sampleCrawl fuel h)
    (Prod.ext hrun (Program.run_remembering _ h))

/-- Two crawls collect both mails, and the next one is idle. -/
theorem exactly_once_sample :
    ∃ h, Crawled sampleTokenServer sampleTokenWorld [] [sampleCrawl, sampleCrawl] h h ∧
      idsIn h ("m", .default) = [some "a", some "b"] ∧
      ∃ turns, ∀ fuel, turns ≤ fuel → Idle sampleTokenServer sampleCrawl h
        ((sampleCrawl.program fuel).trace sampleTokenWorld h) := by
  have hfirst := sampleTokenWorld_crawled .start rfl 30 rfl
  obtain ⟨h, hcrawled, hcount⟩ : ∃ h, Crawled sampleTokenServer sampleTokenWorld []
      [sampleCrawl, sampleCrawl] h h ∧ flushes h = 2 :=
    ⟨_, sampleTokenWorld_crawled hfirst rfl 30 rfl, rfl⟩
  have hserves : ∀ fuel, Admits (sampleTokenServer.Serves 2) h
      ((sampleCrawl.program fuel).trace sampleTokenWorld h) := fun fuel =>
    hcount ▸ sampleTokenWorld_serves sampleCrawl fuel h
  have hunchanged : Unchanged sampleTokenServer [sampleCrawl, sampleCrawl] sampleCrawl := by
    intro mailbox hname folder hfolder
    exact ⟨[sampleCrawl], sampleCrawl, [], rfl, hname, rfl⟩
  obtain ⟨hcollected, hnext⟩ := exactly_once hcrawled
  obtain ⟨turns, hturns⟩ := (hnext sampleCrawl).1 hserves
  refine ⟨h, hcrawled, ?_, turns, fun fuel hfuel => ?_⟩
  · rcases hcollected "m" .default (by simp [sampleTokenServer]) with
      ⟨hnever, -⟩ | ⟨earlier, c, later, hsplit, -, hlast, -, hids⟩
    · exact absurd (by simp [sampleCrawl]) (hnever sampleCrawl (by simp))
    · -- The mailbox is in both crawls, so its last crawl is the second one.
      cases later with
      | nil =>
        have hlength := congrArg List.length hsplit
        simp only [List.length_cons, List.length_nil, List.length_append] at hlength
        have hsecond : earlier.length = 1 := by omega
        rw [hids, hsecond]
        rfl
      | cons d later =>
        have hd : d ∈ [sampleCrawl, sampleCrawl] := by simp [hsplit]
        have hsample : d = sampleCrawl := by simpa using hd
        exact absurd (by simp [hsample, sampleCrawl]) (hlast d List.mem_cons_self)
  · obtain ⟨summary, hrun⟩ := hturns fuel hfuel
    exact ((hnext sampleCrawl).2 fuel summary (hserves fuel) hrun).2 hunchanged

end MailCollector.Crawl
