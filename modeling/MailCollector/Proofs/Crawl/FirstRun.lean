import MailCollector.Proofs.Checkpoint.LatestWrite
import MailCollector.Proofs.Crawl.Keeping

/-!
# A run without checkpoints is a first run

A run reads the instant of a mailbox before it writes it, and the token of a folder before it writes
that, and it comes to no mailbox and to no folder twice.  So nothing that a run writes to the stores
is read back within the run (`NeverReadsBack`), and a run that keeps its checkpoints in empty stores
does what a run does that keeps none at all (`Roster.stateless_eq_first_run`).

Along the plain loop it is enough to know under which keys something was written so far
(`Written`): at each reading, its own key is not one of them.
-/

namespace MailCollector.Crawl

open MailCollector.Calendar MailCollector.Checkpoint MailCollector.Mail MailCollector.Log Plain
  Plain.Attempt

variable {σ : Type}

/-! ### Keys -/

/-- What a checkpoint is kept under. -/
inductive Key where
  | instant (mailbox : String)
  | token (mailbox : String) (folder : FolderId)

/-- The mailbox of a checkpoint. -/
def Key.mailbox : Key → String
  | instant mailbox | token mailbox _ => mailbox

/-- The checkpoint that a call reads. -/
def Call.reads? : Call → Option Key
  | .readInstant mailbox => some (.instant mailbox)
  | .readToken mailbox folder => some (.token mailbox folder)
  | _ => none

/-- The checkpoint that a call writes, or tries to write. -/
def Call.writes? : Call → Option Key
  | .writeInstant mailbox _ => some (.instant mailbox)
  | .writeToken mailbox folder _ => some (.token mailbox folder)
  | _ => none

/-- No checkpoint is read after it was written. -/
def NeverReadsBack (h : List Event) : Prop :=
  h.Pairwise fun earlier later =>
    ∀ key, earlier.1.writes? = some key → later.1.reads? ≠ some key

/-- Checkpoints were written under these keys only, and none was read back. -/
structure Written (keys : Key → Prop) (h : List Event) : Prop where
  neverReadsBack : NeverReadsBack h
  keys : ∀ e ∈ h, ∀ key, e.1.writes? = some key → keys key

namespace Written

variable {keys keys' : Key → Prop} {h : List Event}

lemma mono (hh : Written keys h) (hkeys : ∀ key, keys key → keys' key) : Written keys' h :=
  ⟨hh.neverReadsBack, fun e he key hkey => hkeys key (hh.keys e he key hkey)⟩

/-- One more call, which reads nothing that was written. -/
lemma append (hh : Written keys h) {e : Event}
    (hread : ∀ key, e.1.reads? = some key → ¬ keys key)
    (hwrite : ∀ key, e.1.writes? = some key → keys key) : Written keys (h ++ [e]) := by
  refine ⟨List.pairwise_append.2 ⟨hh.neverReadsBack, List.pairwise_singleton _ _, ?_⟩,
    List.forall_mem_append.2 ⟨hh.keys, List.forall_mem_singleton.2 hwrite⟩⟩
  intro w hw e' he' key hkey hread'
  cases List.mem_singleton.1 he'
  exact hread key hread' (hh.keys w hw key hkey)

/-- One more call, which uses no checkpoint. -/
lemma append_other (hh : Written keys h) {e : Event} (hread : e.1.reads? = none)
    (hwrite : e.1.writes? = none) : Written keys (h ++ [e]) := by
  refine hh.append (fun key hkey => ?_) fun key hkey => ?_
  · rw [hread] at hkey
    cases hkey
  · rw [hwrite] at hkey
    cases hkey

end Written

/-! ### Along the plain loop -/

/-- The folders of a mailbox are listed without repetition. -/
def ListsOnce : Event → Prop
  | ⟨.listFolders _ _, .ok folders⟩ => folders.Nodup
  | _ => True

section Loop

variable {allowed : List Event → Event → Prop} {keys : Key → Prop} {config : Config} {bound : ℕ}
  {name : String} {changedSince : Option Instant} {f : FolderId} {h : List Event}

/-- The pages of a folder write no token but its own, and read nothing. -/
lemma pages_written (hown : keys (.token name f)) (token : Option String) (offset number : ℕ)
    (hh : Written keys h) :
    (pages config name f changedSince bound token offset number).Upholds allowed NeverReadsBack
      (Written keys) (fun _ => Written keys) h := by
  refine (pages_ofPages config name f changedSince bound token offset number).upholds
    (fun _ hh => hh.neverReadsBack) (fun _ => id) ?_ hh
  rintro h ⟨c, reply⟩ hh hc
  cases c with
  | writeToken m f' token =>
    obtain ⟨rfl, rfl⟩ := hc
    refine hh.append (fun _ hkey => by cases hkey) fun key hkey => ?_
    obtain rfl := Option.some.inj hkey
    exact hown
  | listItems request => exact hh.append_other rfl rfl
  | fetchItems m ids => exact hh.append_other rfl rfl
  | store record => exact hh.append_other rfl rfl
  | note n => exact hh.append_other rfl rfl
  | _ => exact hc.elim

/-- A folder whose token was not written is crawled without reading anything back. -/
lemma folder_written (hfresh : ¬ keys (.token name f)) (hh : Written keys h) :
    (folder config bound name changedSince f).Upholds allowed NeverReadsBack
      (Written fun key => keys key ∨ key = .token name f)
      (fun _ => Written fun key => keys key ∨ key = .token name f) h := by
  unfold folder
  cases config.mode with
  | lastSynced => exact pages_written (.inr rfl) _ 0 0 (hh.mono fun _ => .inl)
  | syncToken =>
    rw [upholds_bind, upholds_tried]
    refine ⟨hh.neverReadsBack, fun reply _ => ?_⟩
    have hread : Written (fun key => keys key ∨ key = .token name f)
        (h ++ [⟨.readToken name f, reply⟩]) := by
      refine Written.mono (hh.append (fun key hkey => ?_) fun key hkey => by cases hkey)
        fun _ => .inl
      obtain rfl := Option.some.inj hkey
      exact hfresh
    refine ⟨hread.neverReadsBack, ?_⟩
    cases reply with
    | error failure => exact hread
    | ok token => exact pages_written (.inr rfl) _ 0 0 hread

/-- Folders that are listed once are crawled without reading anything back. -/
lemma folders_written {folders : List FolderId} (hfolders : folders.Nodup)
    (hfresh : ∀ f ∈ folders, ¬ keys (.token name f)) (hh : Written keys h) :
    (folders.forM (folder config bound name changedSince)).Upholds allowed NeverReadsBack
      (Written fun key => keys key ∨ key.mailbox = name)
      (fun _ => Written fun key => keys key ∨ key.mailbox = name) h := by
  induction folders generalizing keys h with
  | nil => exact upholds_pure.2 ⟨hh.neverReadsBack, hh.mono fun _ => .inl⟩
  | cons f folders ih =>
    obtain ⟨hnew, hfolders⟩ := List.nodup_cons.1 hfolders
    -- The token of this folder is one of the mailbox.
    have hmine : ∀ key, ((keys key ∨ key = .token name f) ∨ key.mailbox = name) →
        keys key ∨ key.mailbox = name := by
      rintro key ((hkey | rfl) | hkey)
      · exact .inl hkey
      · exact .inr rfl
      · exact .inr hkey
    rw [List.forM_eq_forM, List.forM_cons, upholds_bind]
    refine Program.Upholds.mono (folder_written (hfresh f List.mem_cons_self) hh)
      (fun _ => id) fun ended h _ hended => ?_
    cases ended with
    | error halt => exact Written.mono hended fun key hkey => hmine key (.inl hkey)
    | ok _ =>
      refine Program.Upholds.mono (ih hfolders ?_ hended) (fun _ => id) fun ended h _ hended => ?_
      · rintro g hg (hkey | hkey)
        · exact hfresh g (List.mem_cons_of_mem _ hg) hkey
        · cases hkey
          exact hnew hg
      · cases ended with
        | ok _ => exact Written.mono hended hmine
        | error halt => exact Written.mono hended hmine

/-- A mailbox of which nothing was written is visited without reading anything back. -/
lemma timed_written (hallowed : ∀ h e, allowed h e → ListsOnce e)
    (hfresh : ∀ key, keys key → key.mailbox ≠ name) (startedAt : Instant) (hh : Written keys h) :
    (timed config bound name startedAt).Upholds allowed NeverReadsBack
      (Written fun key => keys key ∨ key.mailbox = name)
      (fun _ => Written fun key => keys key ∨ key.mailbox = name) h := by
  have hwider : ∀ {h}, Written keys h → Written (fun key => keys key ∨ key.mailbox = name) h :=
    fun hh => hh.mono fun _ => .inl
  -- Once the folders are known.
  have hsweep : ∀ changedSince {h}, Written keys h →
      (sweep config bound name startedAt changedSince).Upholds allowed NeverReadsBack
        (Written fun key => keys key ∨ key.mailbox = name)
        (fun _ => Written fun key => keys key ∨ key.mailbox = name) h := by
    intro changedSince h hh
    rw [sweep, upholds_bind, upholds_tried]
    refine ⟨hh.neverReadsBack, fun reply hreply => ?_⟩
    have hlisted := hh.append_other (e := ⟨.listFolders name (.wellKnown .messageRoot), reply⟩)
      rfl rfl
    refine ⟨hlisted.neverReadsBack, ?_⟩
    cases reply with
    | error failure => exact hwider hlisted
    | ok folders =>
      have hnodup : folders.Nodup := hallowed _ _ hreply
      refine upholds_bind.2 (upholds_noting.2 ⟨hlisted.neverReadsBack, fun _ => ?_⟩)
      have hnoted := fun n : Note => hlisted.append_other (e := ⟨.note n, ()⟩) rfl rfl
      refine ⟨(hnoted _).neverReadsBack, upholds_bind.2 ?_⟩
      refine (folders_written hnodup (fun f _ hkey => hfresh _ hkey rfl) (hnoted _)).mono
        fun _ h _ hh => ?_
      -- The instant that is written last is one of the mailbox.
      have hclosing : (completion name startedAt).Within fun c =>
          c = .writeInstant name startedAt ∨ ∃ n, c = .note n :=
        Within.bind (within_tried ⟨.inl rfl, fun _ => trivial⟩) fun _ =>
          within_noting (.inr ⟨_, rfl⟩)
      refine hclosing.upholds (fun _ hh => hh.neverReadsBack) (fun _ => id) ?_ hh
      rintro h ⟨c, reply⟩ hh (rfl | ⟨n, rfl⟩)
      · refine hh.append (fun _ hkey => by cases hkey) fun key hkey => .inr ?_
        obtain rfl := Option.some.inj hkey
        rfl
      · exact hh.append_other rfl rfl
  rw [timed, upholds_bind]
  unfold resumption
  cases config.mode with
  | syncToken => exact upholds_pure.2 ⟨hh.neverReadsBack, hsweep none hh⟩
  | lastSynced =>
    refine upholds_tried.2 ⟨hh.neverReadsBack, fun reply _ => ?_⟩
    have hread : Written keys (h ++ [⟨.readInstant name, reply⟩]) := by
      refine hh.append (fun key hkey hwritten => ?_) fun key hkey => by cases hkey
      obtain rfl := Option.some.inj hkey
      exact hfresh _ hwritten rfl
    refine ⟨hread.neverReadsBack, ?_⟩
    cases reply with
    | error failure => exact hwider hread
    | ok changedSince => exact hsweep changedSince hread

/-- Mailboxes that are listed once are crawled without reading anything back. -/
theorem mailboxes_neverReadsBack (hallowed : ∀ h e, allowed h e → ListsOnce e)
    {names : List String} (hnames : names.Nodup) (hfresh : ∀ key, keys key → key.mailbox ∉ names)
    (hh : Written keys h) :
    (mailboxes config bound names).Upholds allowed NeverReadsBack (fun _ _ => True) h := by
  induction names generalizing keys h with
  | nil => exact ⟨hh.neverReadsBack, trivial⟩
  | cons name names ih =>
    obtain ⟨hnew, hnames⟩ := List.nodup_cons.1 hnames
    have hothers : ∀ key, (keys key ∨ key.mailbox = name) → key.mailbox ∉ names := by
      rintro key (hkey | rfl)
      · exact fun hmem => hfresh key hkey (List.mem_cons_of_mem _ hmem)
      · exact hnew
    rw [mailboxes, mailbox_run, Program.call_bind]
    refine ⟨hh.neverReadsBack, fun startedAt _ => ?_⟩
    have hclock := hh.append_other (e := ⟨.clock, startedAt⟩) rfl rfl
    have hvisit : (timed config bound name startedAt).Upholds allowed NeverReadsBack _ _ _ :=
      timed_written hallowed
        (fun key hkey hsame => hfresh key hkey (hsame ▸ List.mem_cons_self)) startedAt hclock
    rw [Program.upholds_bind]
    refine Program.Upholds.mono hvisit (fun _ => id) fun ended h _ hended => ?_
    cases ended with
    | ok _ => exact ih hnames hothers hended
    | error halt =>
      cases halt with
      | unfinished => exact ⟨Written.neverReadsBack hended, trivial⟩
      | failed failure =>
        have hskipped := Written.append_other hended
          (e := ⟨.note (.mailboxSkipped name failure), ()⟩) rfl rfl
        refine ⟨Written.neverReadsBack hended, fun _ _ =>
          (Program.upholds_bind (mailboxes config bound names) _ _).2 ?_⟩
        exact (ih hnames hothers hskipped).mono (fun _ => id) fun _ _ hinv _ => ⟨hinv, trivial⟩

end Loop

/-! ### Empty stores -/

/-- Nothing was written under a key. -/
def Unwritten (h : List Event) (key : Key) : Prop := ∀ e ∈ h, e.1.writes? ≠ some key

lemma Unwritten.of_append {h t : List Event} {key : Key} (hkey : Unwritten (h ++ t) key) :
    Unwritten h key := fun e he => hkey e (List.mem_append_left _ he)

/-- The stores have no checkpoint but those that were written. -/
structure HoldsWritten (h : List Event) (p : Pair) : Prop where
  instant : ∀ mailbox, Unwritten h (.instant mailbox) → p.readInstant mailbox = .ok none
  token : ∀ mailbox folder, Unwritten h (.token mailbox folder) →
    p.readToken mailbox folder = none

namespace HoldsWritten

variable {h : List Event} {p : Pair}

/-- A call that writes nothing leaves the stores as they are. -/
lemma append (hp : HoldsWritten h p) (e : Event) : HoldsWritten (h ++ [e]) p :=
  ⟨fun mailbox hkey => hp.instant mailbox hkey.of_append,
    fun mailbox folder hkey => hp.token mailbox folder hkey.of_append⟩

/-- A call enters at most what it writes. -/
lemma answer (hp : HoldsWritten h p) (c : Call) (reply reply' : c.Reply) :
    HoldsWritten (h ++ [⟨c, reply'⟩]) (p.answer c reply).2 := by
  have hkeep := hp.append ⟨c, reply'⟩
  have hown : ∀ {key}, Unwritten (h ++ [⟨c, reply'⟩]) key → c.writes? ≠ some key :=
    fun hkey => hkey ⟨c, reply'⟩ (List.mem_append_right _ (List.mem_singleton_self _))
  rcases p.answer_cases c reply with
    ⟨hsame, -⟩ | ⟨mailbox, t, hwrite, hp'⟩ | ⟨mailbox, folder, token, hwrite, hp'⟩
  · rw [hsame]
    exact hkeep
  · obtain rfl : c = .writeInstant mailbox t := congrArg Sigma.fst hwrite
    rw [hp']
    refine ⟨fun other hkey => ?_, hkeep.token⟩
    have hne : other ≠ mailbox := fun hsame => hown hkey (hsame ▸ rfl)
    exact (Store.readInstant_writeInstant_of_ne hne t).trans (hkeep.instant other hkey)
  · obtain rfl : c = .writeToken mailbox folder token := congrArg Sigma.fst hwrite
    rw [hp']
    refine ⟨hkeep.instant, fun other folder' hkey => ?_⟩
    have hne : (other, folder') ≠ (mailbox, folder) := by
      rintro ⟨⟩
      exact hown hkey rfl
    exact (Store.readToken_writeToken_of_ne hne token).trans (hkeep.token other folder' hkey)

end HoldsWritten

/-- Stores that keep nothing answer nothing, and go on to keep nothing. -/
lemma answer_forgetful (c : Call) (reply : c.Reply) :
    (({} : Pair).answer c reply).2 = {} := by
  rcases ({} : Pair).answer_cases c reply with
    ⟨hsame, -⟩ | ⟨mailbox, t, -, hforgotten⟩ | ⟨mailbox, folder, token, -, hforgotten⟩
  · exact hsame
  · exact hforgotten
  · exact hforgotten

/-- A call that reads nothing that was written is answered as if nothing were kept. -/
lemma answer_eq_forgetful {h : List Event} {p : Pair} (hp : HoldsWritten h p) (c : Call)
    (reply : c.Reply) (hread : ∀ key, c.reads? = some key → Unwritten h key) :
    (p.answer c reply).1 = (({} : Pair).answer c reply).1 := by
  cases c with
  | readInstant mailbox =>
    cases reply with
    | error failure => rfl
    | ok _ => exact hp.instant mailbox (hread _ rfl)
  | readToken mailbox folder =>
    cases reply with
    | error failure => rfl
    | ok _ => exact congrArg Except.ok (hp.token mailbox folder (hread _ rfl))
  | writeInstant mailbox t => cases reply <;> rfl
  | writeToken mailbox folder token => cases reply <;> rfl
  | _ => rfl

/-! ### The main result -/

namespace Roster

/-- Over stores without checkpoints a crawl makes the calls that it makes over stores that keep
nothing, and reads nothing back. -/
theorem pulls_eq_stateless (outer : World σ) (config : Config) {names : List String}
    (hnames : names.Nodup) (fuel count : ℕ) (s : σ)
    (hfolders : ∀ e ∈ (pulls config fuel count (start names)).trace outer.keeping (s, {}),
      ListsOnce e) {p : Pair} (hp : HoldsWritten [] p) :
    (pulls config fuel count (start names)).trace outer.keeping (s, p) =
        (pulls config fuel count (start names)).trace outer.keeping (s, {}) ∧
      ((pulls config fuel count (start names)).run outer.keeping (s, p)).1 =
        ((pulls config fuel count (start names)).run outer.keeping (s, {})).1 ∧
      NeverReadsBack ((pulls config fuel count (start names)).trace outer.keeping (s, {})) := by
  have hnothing : Written (fun _ => False) [] := ⟨.nil, by simp⟩
  have hloop : (pulls config fuel count (start names)).Upholds (fun _ e => ListsOnce e)
      NeverReadsBack _ [] :=
    pulls_upholds fuel count (mailboxes_neverReadsBack (fun _ _ hlists => hlists) hnames
      (fun _ hkey => hkey.elim) hnothing)
  have hadmits := admits_of_forall_mem [] hfolders
  have hstep : ∀ h c reply (p p' : Pair), (p = {} ∧ HoldsWritten h p') →
      NeverReadsBack (h ++ [⟨c, (p.answer c reply).1⟩]) →
      (p'.answer c reply).1 = (p.answer c reply).1 ∧ (p.answer c reply).2 = {} ∧
        HoldsWritten (h ++ [⟨c, (p.answer c reply).1⟩]) (p'.answer c reply).2 := by
    rintro h c reply _ p' ⟨rfl, hp'⟩ hback
    refine ⟨answer_eq_forgetful hp' c reply fun key hkey e he hwritten => ?_,
      answer_forgetful c reply, hp'.answer c reply _⟩
    exact (List.pairwise_append.1 hback).2.2 e he _ (List.mem_singleton_self _) key hwritten hkey
  obtain ⟨htrace, hrun⟩ := Program.Upholds.keeping_agree hstep hloop ⟨rfl, hp⟩ hadmits
  exact ⟨htrace, hrun, hloop.trace List.prefix_rfl hadmits⟩

/-- A stateless run equals a first run.  Take mailboxes without repetition, and a service that lists
the folders of a mailbox without repetition.  However far the crawl is pulled, over stores that keep
nothing and over new stores in memory it makes the same calls and gets the same answers, and it ends
in the same state with the same failures.  Nothing that it writes to the stores is read back. -/
theorem stateless_eq_first_run (outer : World σ) (config : Config) {names : List String}
    (hnames : names.Nodup) (fuel count : ℕ) (s : σ)
    (hfolders : ∀ e ∈ (pulls config fuel count (start names)).trace outer.keeping (s, {}),
      ListsOnce e) :
    (pulls config fuel count (start names)).trace outer.keeping (s, ⟨.newMemory, .newMemory⟩) =
        (pulls config fuel count (start names)).trace outer.keeping (s, {}) ∧
      ((pulls config fuel count (start names)).run outer.keeping
          (s, ⟨.newMemory, .newMemory⟩)).1 =
        ((pulls config fuel count (start names)).run outer.keeping (s, {})).1 ∧
      NeverReadsBack ((pulls config fuel count (start names)).trace outer.keeping
        (s, ⟨.newMemory, .newMemory⟩)) := by
  obtain ⟨htrace, hrun, hback⟩ := pulls_eq_stateless outer config hnames fuel count s hfolders
    (p := ⟨.newMemory, .newMemory⟩) ⟨fun _ _ => rfl, fun _ _ _ => rfl⟩
  exact ⟨htrace, hrun, htrace ▸ hback⟩

/-- A first run that writes a token and an instant, and makes the calls of a stateless one. -/
theorem stateless_eq_first_run_sample :
    ((pulls (Config.ofRequested 1 1) 9 2 (start ["down", "up"])).trace sampleWorld.keeping
        ((), ⟨.newMemory, .newMemory⟩)).filterMap (·.1.writes?) =
        [.token "up" .default, .instant "up"] ∧
      (pulls (Config.ofRequested 1 1) 9 2 (start ["down", "up"])).trace sampleWorld.keeping
          ((), ⟨.newMemory, .newMemory⟩) =
        (pulls (Config.ofRequested 1 1) 9 2 (start ["down", "up"])).trace sampleWorld.keeping
          ((), {}) := by
  have hworld : ∀ c s, ListsOnce ⟨c, (sampleWorld.keeping.answer c s).1⟩ := by
    intro c s
    cases c with
    | listFolders mailbox parent =>
      by_cases hdown : mailbox = "down"
      · simp [World.keeping, sampleWorld, Pair.answer, hdown, ListsOnce]
      · simp [World.keeping, sampleWorld, Pair.answer, hdown, ListsOnce]
    | _ => trivial
  have hadmits : Admits (fun _ e => ListsOnce e) []
      ((pulls (Config.ofRequested 1 1) 9 2 (start ["down", "up"])).trace sampleWorld.keeping
        ((), {})) := Program.trace_admits hworld _ [] ((), {})
  have hlists : ∀ (_ : List Event) (e : Event), ListsOnce e → ListsOnce e := fun _ _ => id
  have hfolders := hadmits.forall_mem hlists
  exact ⟨rfl, (stateless_eq_first_run sampleWorld _ (by decide) 9 2 () hfolders).1⟩

end Roster

end MailCollector.Crawl
