import MailCollector.Proofs.Crawl.Collecting
import MailCollector.Proofs.Crawl.Crashes
import MailCollector.Proofs.Crawl.Lazy

/-!
# A run ends when its calls do

A run takes a bounded number of turns, so that it might stop before it is finished.  Here is how
many turns are enough.  Where a folder is resumed from its token, a turn that makes no call only
leaves what is exhausted, and a crawl is nested four deep: its `slack` says how many such turns may
follow each other.  So the number of turns of an unfinished run is bounded by the number of its
calls (`drain_turns`).

An unfinished run begins the plain loop, so it makes no more calls than the plain loop does.  If the
plain loop comes to its end with some bound on its pages, and nothing else stops the run, the run
finishes in all but finitely many numbers of turns (`collect_finishes`).
-/

namespace MailCollector.Crawl

open MailCollector.Mail MailCollector.Log

variable {α β ε ι σ τ : Type}

/-! ### Silent turns -/

/-- A program that makes no call goes on with its result. -/
lemma Program.bind_eq_done_iff {p : Program α} {f : α → Program β} {b : β} :
    (p >>= f) = .done b ↔ ∃ a, p = .done a ∧ f a = .done b := by
  cases p with
  | done a => simp
  | crash reason => simp
  | call c resume => simp

/-- The silent turns that a chain may take before it asks its source. -/
def Chain.slack (inner : ι → ℕ) (c : Chain τ ι) : ℕ :=
  match c.phase with
  | .draining i => inner i + 1
  | .between | .exhausted => 0

section Chain

variable {supply : τ → Program (Turn ε ι τ)} {next : ι → Program (Turn ε α ι)} {inner : ι → ℕ}

lemma Chain.slack_le {n : ℕ} (hinner : ∀ i, inner i ≤ n) (c : Chain τ ι) :
    c.slack inner ≤ n + 1 := by
  unfold slack
  split
  · exact Nat.succ_le_succ (hinner _)
  · exact Nat.zero_le _
  · exact Nat.zero_le _

/-- A silent turn of a chain uses up slack, if the source is silent only at its end. -/
lemma Chain.slack_lt (hsupply : ∀ s said, supply s = .done said → ∃ s', said = .ended s')
    (hnext : ∀ i i', next i = .done (.working i') → inner i' < inner i) {c c' : Chain τ ι}
    (hturn : c.turn supply next = .done (.working c')) : c'.slack inner < c.slack inner := by
  obtain ⟨s, phase⟩ := c
  cases phase with
  | exhausted => cases hturn
  | draining i =>
    obtain ⟨said, hi, hsaid⟩ := Program.bind_eq_done_iff.1 hturn
    cases said with
    | value a i' => cases hsaid
    | failed e i' => cases hsaid
    | ended i' =>
      cases hsaid
      exact Nat.succ_pos _
    | working i' =>
      cases hsaid
      exact Nat.succ_lt_succ (hnext i i' hi)
  | between =>
    obtain ⟨said, hs, hsaid⟩ := Program.bind_eq_done_iff.1 hturn
    obtain ⟨s', rfl⟩ := hsupply s said hs
    cases hsaid

end Chain

/-! ### Sources that are silent only at their end -/

lemma Batches.supply_silent (config : Config) (b : Batches)
    (said : Turn Failure (List Record) Batches) (hsaid : b.supply config = .done said) :
    ∃ b', said = .ended b' := by
  unfold supply at hsaid
  split at hsaid
  · cases hsaid
    exact ⟨b, rfl⟩
  · cases hsaid

lemma Pages.supply_silent (config : Config) (p : Pages) (said : Turn Failure PageCrawl Pages)
    (hsaid : p.supply config = .done said) : ∃ p', said = .ended p' := by
  unfold supply at hsaid
  split at hsaid
  · cases hsaid
    exact ⟨p, rfl⟩
  · obtain ⟨outcome, hcommit, hsaid⟩ := Program.bind_eq_done_iff.1 hsaid
    unfold commit at hcommit
    split at hcommit
    · cases hcommit
      cases hsaid
      exact ⟨_, rfl⟩
    · cases hcommit
  · cases hsaid

lemma Folders.supply_silent {config : Config} (hmode : config.mode = .syncToken) (f : Folders)
    (said : Turn Failure FolderCrawl Folders) (hsaid : f.supply config = .done said) :
    ∃ f', said = .ended f' := by
  unfold supply at hsaid
  split at hsaid
  · cases hsaid
  · obtain ⟨opened, hopened, -⟩ := Program.bind_eq_done_iff.1 hsaid
    rw [openFolder, hmode] at hopened
    cases hopened

/-! ### Silent turns of a crawl -/

/-- The silent turns that the crawl of a mailbox may take before it calls for something. -/
def MailboxCrawl.slack : MailboxCrawl → ℕ :=
  Chain.slack (Chain.slack (Chain.slack fun _ => 0))

/-- The silent turns that a crawl may take before it calls for something. -/
def Roster.slack (r : Roster) : ℕ :=
  match r.phase with
  | .crawling _ crawl => crawl.slack + 1
  | .between | .exhausted => 0

/-- The silent turns that the crawl of a folder may take before it calls for something. -/
def FolderCrawl.slack : FolderCrawl → ℕ := Chain.slack (Chain.slack fun _ => 0)

lemma FolderCrawl.slack_le (c : FolderCrawl) : c.slack ≤ 2 :=
  Chain.slack_le (Chain.slack_le fun _ => Nat.le_refl 0) c

/-- A silent turn of a folder uses up slack. -/
lemma FolderCrawl.slack_lt {config : Config} (c c' : FolderCrawl)
    (hturn : c.turn config = .done (.working c')) : c'.slack < c.slack := by
  have hlist : ∀ as as' : List Record,
      (listTurn as : Program (Turn Failure Record (List Record))) ≠ .done (.working as') := by
    intro as as' hturn
    cases as <;> cases hturn
  exact Chain.slack_lt (Pages.supply_silent config)
    (fun _ _ => Chain.slack_lt (Batches.supply_silent config)
      fun as as' hturn => absurd hturn (hlist as as')) hturn

lemma MailboxCrawl.slack_lt {config : Config} (hmode : config.mode = .syncToken)
    (c c' : MailboxCrawl) (hturn : c.turn config = .done (.working c')) : c'.slack < c.slack :=
  Chain.slack_lt (Folders.supply_silent hmode) (fun _ _ => FolderCrawl.slack_lt _ _) hturn

namespace Roster

lemma slack_le (r : Roster) : r.slack ≤ 4 := by
  unfold slack
  split
  · exact Nat.succ_le_succ (Chain.slack_le FolderCrawl.slack_le _)
  · exact Nat.zero_le _
  · exact Nat.zero_le _

/-- A silent turn of the crawl uses up slack. -/
lemma slack_lt {config : Config} (hmode : config.mode = .syncToken) {r r' : Roster}
    (hturn : r.turn config = .done (.working r')) : r'.slack < r.slack := by
  obtain ⟨waiting, phase, failed⟩ := r
  cases phase with
  | exhausted => cases hturn
  | between =>
    cases waiting with
    | nil => cases hturn
    | cons name names =>
      obtain ⟨opened, hopened, -⟩ := Program.bind_eq_done_iff.1 hturn
      unfold MailboxCrawl.start at hopened
      cases hopened
  | crawling name crawl =>
    obtain ⟨said, hcrawl, hsaid⟩ := Program.bind_eq_done_iff.1 hturn
    cases said with
    | value record crawl' => cases hsaid
    | failed failure crawl' => cases hsaid
    | ended crawl' =>
      cases hsaid
      exact Nat.succ_pos _
    | working crawl' =>
      cases hsaid
      exact Nat.succ_lt_succ (MailboxCrawl.slack_lt hmode crawl crawl' hcrawl)

/-- A turn that says nothing uses up slack or makes a call. -/
lemma turn_spends {config : Config} (hmode : config.mode = .syncToken) {world : World σ} {s s' : σ}
    {r r' : Roster} (hrun : (r.turn config).run world s = (.ok (.working r'), s')) :
    r'.slack + 1 ≤ r.slack + 5 * ((r.turn config).trace world s).length := by
  cases hturn : r.turn config with
  | done said =>
    rw [hturn] at hrun
    cases hrun
    exact Nat.le_add_right_of_le (slack_lt hmode hturn)
  | crash reason =>
    rw [hturn] at hrun
    cases hrun
  | call c resume =>
    have hle := r'.slack_le
    rw [Program.trace_call, List.length_cons]
    omega

end Roster

/-! ### Unfinished runs -/

section Drain

variable {config : Config} {total fuel stored : ℕ} {r : Roster} {world : World σ} {s : σ}

/-- An unfinished run has taken a bounded number of turns for each of its calls. -/
theorem drain_turns (hmode : config.mode = .syncToken) {n : ℕ} {left : Roster}
    (hrun : ((drain config total fuel stored r).run world s).1 = .ok (.unfinished n left)) :
    fuel ≤ 5 * ((drain config total fuel stored r).trace world s).length + r.slack := by
  induction fuel generalizing stored r s with
  | zero => exact Nat.zero_le _
  | succ fuel ih =>
    rw [drain, Program.run_bind] at hrun
    rw [drain, Program.trace_bind, List.length_append]
    have hspends : ∀ r' s', (r.turn config).run world s = (.ok (.working r'), s') →
        r'.slack + 1 ≤ r.slack + 5 * ((r.turn config).trace world s).length :=
      fun _ _ => Roster.turn_spends hmode
    generalize (r.turn config).run world s = ended at hrun hspends ⊢
    obtain ⟨_ | said, s'⟩ := ended
    · cases hrun
    cases said with
    | working r' =>
      have hnext := ih hrun
      have hspent := hspends r' s' rfl
      dsimp only
      omega
    | failed never r' => exact never.elim
    | value record r' =>
      dsimp only at hrun ⊢
      rw [Program.ask_bind, Program.run_call] at hrun
      rw [Program.ask_bind, Program.trace_call, List.length_cons]
      generalize world.answer (.store record) s' = answer at hrun ⊢
      obtain ⟨_ | _, s''⟩ := answer
      · cases hrun
      · dsimp only at hrun ⊢
        have hnext := ih hrun
        have hle := r'.slack_le
        omega
    | ended r' =>
      dsimp only at hrun
      rw [Program.ask_bind, Program.run_call] at hrun
      generalize world.answer .flush s' = answer at hrun
      obtain ⟨_ | _, s''⟩ := answer <;> cases hrun

/-- An unfinished run makes the calls with which the plain loop begins. -/
lemma drain_isPrefix {n : ℕ} {left : Roster}
    (hrun : ((drain config total fuel stored r).run world s).1 = .ok (.unfinished n left)) :
    (drain config total fuel stored r).trace world s <+:
      (Roster.rest config fuel r).trace world s := by
  induction fuel generalizing stored r s with
  | zero => exact List.nil_prefix
  | succ fuel ih =>
    refine List.IsPrefix.trans ?_ ((Roster.turn_begins config fuel r).trace_isPrefix world s)
    rw [drain, Program.run_bind] at hrun
    rw [drain, Program.trace_bind, Program.trace_bind]
    refine (List.prefix_append_right_inj _).2 ?_
    generalize (r.turn config).run world s = ended at hrun ⊢
    obtain ⟨_ | said, s'⟩ := ended
    · cases hrun
    cases said with
    | working r' => exact ih hrun
    | failed never r' => exact never.elim
    | value record r' =>
      dsimp only [Roster.resume, Plain.hand] at hrun ⊢
      rw [Program.ask_bind, Program.run_call] at hrun
      rw [Program.ask_bind, Program.trace_call, Program.bind_assoc, Program.ask_bind,
        Program.trace_call]
      refine (List.prefix_cons_inj _).2 ?_
      generalize world.answer (.store record) s' = answer at hrun ⊢
      obtain ⟨_ | _, s''⟩ := answer
      · cases hrun
      · exact ih hrun
    | ended r' =>
      dsimp only at hrun
      rw [Program.ask_bind, Program.run_call] at hrun
      generalize world.answer .flush s' = answer at hrun
      obtain ⟨_ | _, s''⟩ := answer <;> cases hrun

/-- With more turns a run goes on where it stopped, and is the same if it ended. -/
lemma drain_begins (config : Config) (total fuel more stored : ℕ) (r : Roster) :
    Program.Begins (fun outcome => ∃ n left, outcome = .unfinished n left) Eq
      (drain config total fuel stored r) (drain config total (fuel + more) stored r) := by
  induction fuel generalizing stored r with
  | zero => exact .cut ⟨stored, r, rfl⟩ _
  | succ fuel ih =>
    rw [Nat.add_right_comm, drain, drain]
    refine Program.Begins.bind_left _ fun said => ?_
    cases said with
    | working r' => exact ih stored r'
    | failed never r' => exact never.elim
    | value record r' =>
      refine Program.Begins.bind_left _ fun reply => ?_
      cases reply with
      | error failure => exact Program.Begins.refl _
      | ok _ => exact ih _ r'
    | ended r' => exact Program.Begins.refl _

end Drain

/-! ### Finished runs -/

/-- The sink fails to take a record or to flush. -/
def SinkFails : Event → Prop
  | ⟨.store _, .error _⟩ | ⟨.flush, .error _⟩ => True
  | _ => False

/-- A run ends with a failure of the sink only if there was one. -/
lemma drain_sinkFailed (config : Config) (total fuel stored : ℕ) (r : Roster) (h : List Event) :
    (drain config total fuel stored r).Upholds (fun _ _ => True) (fun _ => True)
      (fun outcome h => ∀ failure, outcome = .sinkFailed failure → ∃ e ∈ h, SinkFails e) h := by
  induction fuel generalizing stored r h with
  | zero => exact ⟨trivial, fun _ houtcome => by cases houtcome⟩
  | succ fuel ih =>
    rw [drain, Program.upholds_bind]
    have hturn : (r.turn config).Upholds (fun _ _ => True) (fun _ => True) _ h :=
      (Roster.turn_within config r).upholds trivial fun _ _ _ _ => trivial
    refine hturn.mono (fun _ _ => trivial) fun said h _ _ => ?_
    cases said with
    | working r' => exact ih stored r' h
    | failed never r' => exact never.elim
    | value record r' =>
      refine ⟨trivial, fun reply _ => ?_⟩
      cases reply with
      | error failure => exact ⟨trivial, fun _ _ => ⟨_, List.mem_append_right _
          List.mem_cons_self, trivial⟩⟩
      | ok _ => exact ih _ r' _
    | ended r' =>
      refine ⟨trivial, fun reply _ => ?_⟩
      cases reply with
      | error failure => exact ⟨trivial, fun _ _ => ⟨_, List.mem_append_right _
          List.mem_cons_self, trivial⟩⟩
      | ok _ => exact ⟨trivial, fun _ _ => ⟨trivial, fun _ houtcome => by cases houtcome⟩⟩

/-- A run that resumes from tokens finishes in all but finitely many numbers of turns, if the plain
loop comes to its end in the same surroundings, and if neither the sink nor an item stops it. -/
theorem collect_finishes {config : Config} (hmode : config.mode = .syncToken) {names : List String}
    {world : World σ} {s : σ} {h : List Event} {allowed : List Event → Event → Prop} {bound : ℕ}
    (hallowed : ∀ h e, allowed h e → ¬ SinkFails e ∧ downfall? e = none)
    (hplain : (Plain.mailboxes config bound names).Upholds allowed (fun _ => True)
      (fun result _ => result ≠ none) h)
    (hadmits : ∀ fuel, Admits allowed h ((collect config fuel names).trace world s)) :
    ∃ turns, ∀ fuel, turns ≤ fuel → ∃ summary,
      ((collect config fuel names).run world s).1 = .ok (.finished summary) := by
  set whole := (Plain.mailboxes config bound names).trace world s with hwhole
  refine ⟨max bound (5 * whole.length + 10), fun fuel hfuel => ?_⟩
  have hbound : bound ≤ fuel := by omega
  have hturns : 5 * whole.length + 10 ≤ fuel := by omega
  have hevents : ∀ e ∈ (collect config fuel names).trace world s,
      ¬ SinkFails e ∧ downfall? e = none := (hadmits fuel).forall_mem hallowed
  cases hrun : ((collect config fuel names).run world s).1 with
  | error reason =>
    have hsturdy := drain_sturdy config names.length fuel 0 (Roster.start names)
    have hfall := (hsturdy.run_iff reason).1 hrun
    obtain ⟨e, he, hreason⟩ := List.exists_of_findSome?_eq_some hfall
    rw [(hevents e he).2] at hreason
    cases hreason
  | ok outcome =>
    cases outcome with
    | finished summary => exact ⟨summary, rfl⟩
    | sinkFailed failure =>
      obtain ⟨e, he, hfails⟩ := (drain_sinkFailed config names.length fuel 0 (Roster.start names)
        []).run (admits_true _ _) hrun failure rfl
      exact absurd hfails (hevents e he).1
    | unfinished n left =>
      -- The run has made more calls than the plain loop, which it nevertheless begins.
      have hcount := drain_turns hmode hrun
      have hslack := (Roster.start names).slack_le
      have hbegins := drain_isPrefix hrun
      rw [Roster.rest_start_eq] at hbegins
      obtain ⟨more, rfl⟩ := Nat.exists_eq_add_of_le hbound
      have hgrows := Roster.rest_begins config bound more (Roster.start names)
      rw [Roster.rest_start_eq, Roster.rest_start_eq] at hgrows
      have hlength : whole.length <
          ((collect config (bound + more) names).trace world s).length := by
        change _ < ((drain config names.length _ 0 (Roster.start names)).trace world s).length
        omega
      have hprefix : whole <+: (collect config (bound + more) names).trace world s :=
        List.prefix_of_prefix_length_le (hgrows.trace_isPrefix world s) hbegins
          (Nat.le_of_lt hlength)
      obtain ⟨others, hothers⟩ := hprefix
      have hwholeAdmits : Admits allowed h whole :=
        ((admits_append h whole others).1 (hothers ▸ hadmits (bound + more))).1
      have hequal := hgrows.trace_eq world (s := s) fun result hresult hcut =>
        hplain.run hwholeAdmits hresult hcut
      rw [hequal] at hbegins
      exact absurd hbegins.length_le (Nat.not_le.2 hlength)

end MailCollector.Crawl
