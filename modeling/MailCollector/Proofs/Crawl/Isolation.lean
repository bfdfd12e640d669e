import MailCollector.Proofs.Crawl.Lazy
import MailCollector.Proofs.Crawl.Lockstep
import Mathlib.Data.List.SplitBy

/-!
# A mailbox cannot tell how the others fare

Take two worlds in which the answers about a mailbox depend on the earlier calls about this mailbox
only (`Surroundings`), and which answer alike whatever is not about one bad mailbox
(`AlikeExcept`).  A crawl that is pulled to its end in both worlds consists of visits, one for each
mailbox in the list (`visits`).  The visits to the other mailboxes are alike in the two worlds, call
by call, record by record, and in the same order (`Roster.visits_isolated`).

The two crawls are compared along the list of mailboxes.  What the visits to the others depend on is
the same in both histories (`Tidy`): the parts of them that are about each of the others, and how
often the clock was read.  A visit to one of the others is in lockstep with its counterpart; a visit
to the bad mailbox leaves all of this as it was.
-/

namespace MailCollector.Crawl

open MailCollector.Calendar MailCollector.Mail MailCollector.Log Plain

variable {σ τ : Type}

/-! ### Surroundings without interference -/

/-- The calls about a mailbox. -/
def about (mailbox : String) (h : List Event) : List Event :=
  h.filter fun e => e.1.mailbox? = some mailbox

/-- How often the clock was read. -/
def readings (h : List Event) : ℕ := h.countP fun e => e.1 = .clock

/-- Surroundings in which the answer to a call about a mailbox depends only on the call and on the
earlier calls about the same mailbox.  The clock goes as it likes. -/
structure Surroundings where
  /-- What the clock shows when it is read for the first time, the second time, and so on. -/
  clock : ℕ → Instant
  /-- The answer to a call about a mailbox, after the earlier calls about it. -/
  reply : List Event → (c : Call) → c.Reply

/-- How calls are answered in the surroundings after a history.  What the sink says is open. -/
def Surroundings.Allows (w : Surroundings) (h : List Event) (e : Event) : Prop :=
  (∀ mailbox, e.1.mailbox? = some mailbox → e.2 = w.reply (about mailbox h) e.1) ∧
    ∀ t, e = ⟨.clock, t⟩ → t = w.clock (readings h)

/-- The surroundings as a world that remembers its history.  The sink accepts everything. -/
def Surroundings.world (w : Surroundings) : World (List Event) where
  answer c h :=
    let reply : c.Reply :=
      match c with
      | .clock => w.clock (readings h)
      | .store _ | .flush => .ok ()
      | .note _ => ()
      | .readInstant mailbox => w.reply (about mailbox h) (.readInstant mailbox)
      | .writeInstant mailbox t => w.reply (about mailbox h) (.writeInstant mailbox t)
      | .readToken mailbox folder => w.reply (about mailbox h) (.readToken mailbox folder)
      | .writeToken mailbox folder token =>
        w.reply (about mailbox h) (.writeToken mailbox folder token)
      | .listFolders mailbox parent => w.reply (about mailbox h) (.listFolders mailbox parent)
      | .listItems request => w.reply (about request.mailbox h) (.listItems request)
      | .fetchItems mailbox ids => w.reply (about mailbox h) (.fetchItems mailbox ids)
    (reply, h ++ [⟨c, reply⟩])

/-- The world of some surroundings answers as they may. -/
lemma Surroundings.world_admits {α : Type} (w : Surroundings) (p : Program α) (h : List Event) :
    Admits w.Allows h (p.trace w.world h) := by
  induction p generalizing h with
  | done a => trivial
  | crash reason => trivial
  | call c resume ih =>
    refine ⟨⟨?_, ?_⟩, ih _ _⟩
    · rintro mailbox hmailbox
      cases c <;> cases hmailbox <;> rfl
    · rintro t ht
      cases ht
      rfl

/-- Two surroundings answer alike whatever is not about the bad mailbox.  Instants of their clocks
are identified. -/
structure AlikeExcept (same : Instant → Instant → Prop) (bad : String) (w w' : Surroundings) :
    Prop where
  clock : ∀ n, same (w.clock n) (w'.clock n)
  reply : ∀ mailbox, mailbox ≠ bad → ∀ h h' c c', List.Forall₂ (Alike same) h h' →
    c.Alike same c' → c.mailbox? = some mailbox →
      Alike same ⟨c, w.reply h c⟩ ⟨c', w'.reply h' c'⟩

/-! ### What the visits to the others depend on -/

/-- In two histories the calls about each mailbox but the bad one are alike, and the clock was read
equally often. -/
structure Tidy (same : Instant → Instant → Prop) (bad : String) (h h' : List Event) : Prop where
  readings : readings h = readings h'
  about : ∀ mailbox, mailbox ≠ bad → List.Forall₂ (Alike same) (about mailbox h) (about mailbox h')

section Tidy

variable {same : Instant → Instant → Prop} {bad : String} {h h' : List Event}

lemma about_append (mailbox : String) (h t : List Event) :
    about mailbox (h ++ t) = about mailbox h ++ about mailbox t := List.filter_append h t

lemma readings_append (h t : List Event) : readings (h ++ t) = readings h + readings t :=
  List.countP_append

/-- Alike parts keep two histories tidy. -/
lemma Tidy.append (htidy : Tidy same bad h h') {t t' : List Event}
    (ht : List.Forall₂ (Alike same) t t') : Tidy same bad (h ++ t) (h' ++ t') := by
  induction ht generalizing h h' with
  | nil => simpa using htidy
  | @cons e e' t t' he _ ih =>
    rw [List.append_cons, List.append_cons h']
    refine ih ⟨?_, fun mailbox hmailbox => ?_⟩
    · rw [readings_append, readings_append, htidy.readings]
      simp [Crawl.readings, List.countP_cons, he.clock_iff]
    · rw [about_append, about_append]
      refine List.rel_append (htidy.about mailbox hmailbox) ?_
      by_cases hmine : e.1.mailbox? = some mailbox
      · have hmine' : e'.1.mailbox? = some mailbox := he.mailbox? ▸ hmine
        simpa [Crawl.about, hmine, hmine'] using he
      · have hmine' : ¬ e'.1.mailbox? = some mailbox := he.mailbox? ▸ hmine
        simp [Crawl.about, hmine, hmine']

/-- Calls about the bad mailbox, without a look at the clock, are not seen by the others. -/
lemma unseen {t : List Event} (ht : ∀ e ∈ t, e.1 ≠ .clock ∧ e.1.Concerns bad) :
    readings t = 0 ∧ ∀ mailbox, mailbox ≠ bad → about mailbox t = [] := by
  refine ⟨List.countP_eq_zero.2 fun e he => by simp [(ht e he).1], fun mailbox hmailbox => ?_⟩
  refine List.filter_eq_nil_iff.2 fun e he => ?_
  rw [decide_eq_true_eq]
  exact fun hmine => hmailbox ((ht e he).2 mailbox hmine)

/-- What is about the bad mailbox keeps two histories tidy. -/
lemma Tidy.append_unseen (htidy : Tidy same bad h h') {t t' : List Event}
    (ht : ∀ e ∈ t, e.1 ≠ .clock ∧ e.1.Concerns bad)
    (ht' : ∀ e ∈ t', e.1 ≠ .clock ∧ e.1.Concerns bad) : Tidy same bad (h ++ t) (h' ++ t') where
  readings := by
    rw [readings_append, readings_append, htidy.readings, (unseen ht).1, (unseen ht').1]
  about mailbox hmailbox := by
    rw [about_append, about_append, (unseen ht).2 mailbox hmailbox, (unseen ht').2 mailbox hmailbox,
      List.append_nil, List.append_nil]
    exact htidy.about mailbox hmailbox

end Tidy

/-! ### One mailbox after the other -/

/-- The calls of a visit to this mailbox: a look at the clock, and then nothing that is about
another mailbox. -/
def IsVisit (name : String) (part : List Event) : Prop :=
  ∃ t rest, part = ⟨.clock, t⟩ :: rest ∧ ∀ e ∈ rest, e.1 ≠ .clock ∧ e.1.Concerns name

/-- The visits of a crawl, each of which begins with a look at the clock. -/
def visits (t : List Event) : List (List Event) := t.splitBy fun _ e => e.1 ≠ .clock

/-- A visit is not cut into parts. -/
lemma IsVisit.visits_append {name : String} {part t : List Event} (hpart : IsVisit name part)
    (ht : ∀ e ∈ t.head?, e.1 = .clock) : visits (part ++ t) = part :: visits t := by
  obtain ⟨startedAt, rest, rfl, hrest⟩ := hpart
  have hchain : (⟨.clock, startedAt⟩ :: rest : List Event).IsChain fun _ e =>
      decide (e.1 ≠ .clock) = true := by
    refine List.Pairwise.isChain (List.pairwise_cons.2 ⟨?_, ?_⟩)
    · exact fun e he => decide_eq_true (hrest e he).1
    · exact List.pairwise_of_forall_mem_list fun _ _ e he => decide_eq_true (hrest e he).1
  rw [visits, List.splitBy_append, List.splitBy_of_isChain (List.cons_ne_nil _ _) hchain]
  · rfl
  · exact fun _ _ e he => decide_eq_false (not_not.2 (ht e he))

/-- A trace that is made of visits is cut into these visits. -/
lemma visits_flatten {names : List String} {parts : List (List Event)}
    (hparts : List.Forall₂ IsVisit names parts) : visits parts.flatten = parts := by
  induction hparts with
  | nil => rfl
  | cons hpart hparts ih =>
    rw [List.flatten_cons, hpart.visits_append, ih]
    cases hparts with
    | nil => simp
    | cons hpart hparts =>
      obtain ⟨startedAt, rest, rfl, -⟩ := hpart
      simp

namespace Plain

/-- The note about a mailbox that is given up. -/
def skipping (name : String) : Except Halt Unit → List Event
  | .error (.failed failure) => [⟨.note (.mailboxSkipped name failure), ()⟩]
  | _ => []

/-- A loop over mailboxes that comes to its end makes a visit to the first of them, notes its
failure if it failed, and goes on with the others. -/
lemma mailboxes_cons {world : World σ} {s : σ} {config : Config} {bound : ℕ} {name : String}
    {names : List String} {failures : List MailboxFailure}
    (hrun : ((mailboxes config bound (name :: names)).run world s).1 = .ok (some failures)) :
    ∃ startedAt s₀ t ended s₁ others,
      (timed config bound name startedAt).run.trace world s₀ = t ∧
      ((timed config bound name startedAt).run.run world s₀).1 = .ok ended ∧
      (mailboxes config bound (name :: names)).trace world s =
        ⟨.clock, startedAt⟩ :: (t ++ skipping name ended) ++
          (mailboxes config bound names).trace world s₁ ∧
      ((mailboxes config bound names).run world s₁).1 = .ok (some others) ∧
      failures = (skipping name ended).filterMap skipped? ++ others := by
  rw [mailboxes, mailbox_run, Program.call_bind, Program.run_call, Program.run_bind] at hrun
  rw [mailboxes, mailbox_run, Program.call_bind, Program.trace_call, Program.trace_bind]
  split at hrun
  · rename_i ended s₁ hvisit
    cases ended with
    | ok _ =>
      refine ⟨_, _, _, .ok (), s₁, failures, rfl, congrArg Prod.fst hvisit, ?_, hrun, rfl⟩
      simp [skipping]
    | error halt =>
      cases halt with
      | unfinished => cases hrun
      | failed failure =>
        dsimp only at hrun ⊢
        rw [Program.note_bind, Program.run_call, Program.run_bind] at hrun
        rw [Program.note_bind, Program.trace_call, Program.trace_bind]
        split at hrun
        · rename_i result s₂ hothers
          obtain ⟨others, rfl, rfl⟩ := Option.map_eq_some_iff.1 (Except.ok.inj hrun)
          refine ⟨_, _, _, .error (.failed failure), _, others, rfl, congrArg Prod.fst hvisit, ?_,
            congrArg Prod.fst hothers, rfl⟩
          simp [skipping]
        · cases hrun
  · cases hrun

/-- Nothing that is noted about a mailbox that is given up is about another one. -/
lemma skipping_concerns (name : String) (ended : Except Halt Unit) :
    ∀ e ∈ skipping name ended, e.1 ≠ .clock ∧ e.1.Concerns name := by
  intro e he
  unfold skipping at he
  split at he
  · obtain rfl := List.mem_singleton.1 he
    exact ⟨by simp, fun mailbox hmailbox => by cases hmailbox⟩
  · cases he

/-- The failure of the bad mailbox is not a failure of another one. -/
lemma skipping_filter {name bad : String} (hname : name = bad) (ended : Except Halt Unit) :
    ((skipping name ended).filterMap skipped?).filter (·.mailbox ≠ bad) = [] := by
  unfold skipping
  split <;> simp [skipped?, hname]

/-! ### Two crawls side by side -/

section Noninterference

variable {same : Instant → Instant → Prop} {bad name : String} {w w' : Surroundings}
  {world : World σ} {world' : World τ} {s : σ} {s' : τ} {h h' : List Event}

/-- Calls that correspond in the visits to another mailbox than the bad one are answered alike. -/
lemma answered_alike (hlike : AlikeExcept same bad w w') (hname : name ≠ bad)
    (htidy : Tidy same bad h h') {c c' : Call} {reply : c.Reply} {reply' : c'.Reply}
    (hc : Corresponding same name c c') (hreply : w.Allows h ⟨c, reply⟩)
    (hreply' : w'.Allows h' ⟨c', reply'⟩) :
    Alike same ⟨c, reply⟩ ⟨c', reply'⟩ ∧
      Tidy same bad (h ++ [⟨c, reply⟩]) (h' ++ [⟨c', reply'⟩]) := by
  suffices halike : Alike same ⟨c, reply⟩ ⟨c', reply'⟩ from
    ⟨halike, htidy.append (.cons halike .nil)⟩
  obtain ⟨reply₀, reply₀', halike⟩ := hc.alike
  cases hmailbox : c.mailbox? with
  | some mailbox =>
    obtain rfl := hc.concerns mailbox hmailbox
    have hreply : reply = w.reply (about mailbox h) c := hreply.1 mailbox hmailbox
    have hreply' : reply' = w'.reply (about mailbox h') c' :=
      hreply'.1 mailbox (halike.mailbox?.symm.trans hmailbox)
    rw [hreply, hreply']
    exact hlike.reply mailbox hname _ _ c c' (htidy.about mailbox hname) hc.alike hmailbox
  | none =>
    -- Only calls of the sink and notes are about no mailbox.
    cases halike with
    | clock h => exact absurd rfl hc.ne_clock
    | toSink hsink => exact .toSink hsink reply reply'
    | timeless htimeless =>
      cases c with
      | note n => exact .timeless (c := .note n) htimeless ()
      | _ => first | exact htimeless.elim | cases hmailbox
    | _ => cases hmailbox

/-- Two visits to the same mailbox leave the histories tidy, and if it is not the bad one, they are
alike and end alike. -/
lemma visit_isolated (hlike : AlikeExcept same bad w w') (config : Config) (bound : ℕ)
    {startedAt startedAt' : Instant} (hstarted : same startedAt startedAt')
    (htidy : Tidy same bad h h') {ended ended' : Except Halt Unit} {t t' : List Event}
    (ht : (timed config bound name startedAt).run.trace world s = t)
    (ht' : (timed config bound name startedAt').run.trace world' s' = t')
    (hadmits : Admits w.Allows h t) (hadmits' : Admits w'.Allows h' t')
    (hended : ((timed config bound name startedAt).run.run world s).1 =
      .ok ended)
    (hended' : ((timed config bound name startedAt').run.run world' s').1
      = .ok ended') :
    Tidy same bad (h ++ (t ++ skipping name ended)) (h' ++ (t' ++ skipping name ended')) ∧
      (name ≠ bad → ended = ended' ∧
        List.Forall₂ (Alike same) (t ++ skipping name ended) (t' ++ skipping name ended')) := by
  by_cases hname : name = bad
  · subst hname ht ht'
    have hpart : ∀ ended, ∀ e ∈ _ ++ skipping name ended, e.1 ≠ .clock ∧ e.1.Concerns name :=
      fun ended e he => (List.mem_append.1 he).elim
        ((timed_concerns config name bound startedAt).trace world s e)
        (skipping_concerns name ended e)
    have hpart' : ∀ ended, ∀ e ∈ _ ++ skipping name ended, e.1 ≠ .clock ∧ e.1.Concerns name :=
      fun ended e he => (List.mem_append.1 he).elim
        ((timed_concerns config name bound startedAt').trace world' s' e)
        (skipping_concerns name ended e)
    exact ⟨htidy.append_unseen (hpart ended) (hpart' ended'), fun h => absurd rfl h⟩
  · subst ht ht'
    have hagree := fun (h h' : List Event) (c c' : Call) (reply : c.Reply) (reply' : c'.Reply)
      (htidy : Tidy same bad h h') (hc : Corresponding same name c c')
      (hreply : w.Allows h ⟨c, reply⟩) (hreply' : w'.Allows h' ⟨c', reply'⟩) =>
        answered_alike hlike hname htidy hc hreply hreply'
    obtain ⟨halike, -, hresult⟩ := (timed_lockstep config bound hstarted).run_alike hagree htidy
      hadmits hadmits'
    obtain ⟨ended'', hended'', hboth⟩ := hresult ended hended
    obtain rfl : ended'' = ended' := Except.ok.inj (hended''.symm.trans hended')
    obtain rfl : ended = ended'' := by
      cases ended <;> cases ended'' <;> first | rfl | exact congrArg _ hboth | exact hboth.elim
    have hskip : List.Forall₂ (Alike same) (skipping name ended) (skipping name ended) := by
      unfold skipping
      split
      · exact .cons (.timeless (c := .note _) trivial ()) .nil
      · exact .nil
    have hboth := List.rel_append halike hskip
    exact ⟨htidy.append hboth, fun _ => ⟨rfl, hboth⟩⟩

/-- The visits to a mailbox in two crawls: they are alike if it is not the bad one. -/
structure Isolated (same : Instant → Instant → Prop) (bad name : String)
    (parts : List Event × List Event) : Prop where
  left : IsVisit name parts.1
  right : IsVisit name parts.2
  alike : name ≠ bad → List.Forall₂ (Alike same) parts.1 parts.2

/-- Two loops over the same mailboxes, both of which come to their end, make isolated visits and
record the same failures of the other mailboxes. -/
lemma mailboxes_isolated (hlike : AlikeExcept same bad w w') (config : Config) (bound : ℕ)
    (names : List String) (htidy : Tidy same bad h h') {failures failures' : List MailboxFailure}
    (hadmits : Admits w.Allows h ((mailboxes config bound names).trace world s))
    (hadmits' : Admits w'.Allows h' ((mailboxes config bound names).trace world' s'))
    (hrun : ((mailboxes config bound names).run world s).1 = .ok (some failures))
    (hrun' : ((mailboxes config bound names).run world' s').1 = .ok (some failures')) :
    ∃ parts : List (List Event × List Event),
      (mailboxes config bound names).trace world s = (parts.map Prod.fst).flatten ∧
      (mailboxes config bound names).trace world' s' = (parts.map Prod.snd).flatten ∧
      List.Forall₂ (Isolated same bad) names parts ∧
      failures.filter (·.mailbox ≠ bad) = failures'.filter (·.mailbox ≠ bad) := by
  induction names generalizing h h' s s' failures failures' with
  | nil =>
    cases hrun
    cases hrun'
    exact ⟨[], rfl, rfl, .nil, rfl⟩
  | cons name names ih =>
    obtain ⟨t₀, s₀, t, ended, s₁, others, ht, hended, htrace, hothers, rfl⟩ := mailboxes_cons hrun
    obtain ⟨t₀', s₀', t', ended', s₁', others', ht', hended', htrace', hothers', rfl⟩ :=
      mailboxes_cons hrun'
    rw [htrace, List.cons_append, admits_cons, admits_append, admits_append] at hadmits
    rw [htrace', List.cons_append, admits_cons, admits_append, admits_append] at hadmits'
    have hstarted : same t₀ t₀' := by
      rw [hadmits.1.2 t₀ rfl, hadmits'.1.2 t₀' rfl, htidy.readings]
      exact hlike.clock _
    have htimed := htidy.append (.cons (.clock hstarted) .nil)
    obtain ⟨hnext, hpart⟩ := visit_isolated hlike config bound hstarted htimed ht ht'
      hadmits.2.1.1 hadmits'.2.1.1 hended hended'
    obtain ⟨parts, hflat, hflat', hparts, hfailures⟩ := ih hnext hadmits.2.2 hadmits'.2.2 hothers
      hothers'
    refine ⟨(⟨.clock, t₀⟩ :: (t ++ skipping name ended),
      ⟨.clock, t₀'⟩ :: (t' ++ skipping name ended')) :: parts, ?_, ?_,
      .cons ⟨?_, ?_, ?_⟩ hparts, ?_⟩
    · rw [htrace, hflat]
      rfl
    · rw [htrace', hflat']
      rfl
    · exact ⟨t₀, _, rfl, fun e he => (List.mem_append.1 he).elim
        (ht ▸ (timed_concerns config name bound t₀).trace world s₀ e)
        (skipping_concerns name ended e)⟩
    · exact ⟨t₀', _, rfl, fun e he => (List.mem_append.1 he).elim
        (ht' ▸ (timed_concerns config name bound t₀').trace world' s₀' e)
        (skipping_concerns name ended' e)⟩
    · exact fun hname => .cons (.clock hstarted) (hpart hname).2
    · rw [List.filter_append, List.filter_append, hfailures]
      refine congrArg (· ++ _) ?_
      by_cases hname : name = bad
      · rw [skipping_filter hname, skipping_filter hname]
      · rw [(hpart hname).1]

end Noninterference

end Plain

/-! ### The main result -/

namespace Roster

/-- The crawl was pulled until it said that there are no more records.  It made these calls and
recorded these failures. -/
def PulledToEnd (world : World σ) (config : Config) (names : List String) (s : σ) (t : List Event)
    (failures : List MailboxFailure) : Prop :=
  ∃ fuel count said r, answers world config fuel count (start names) s = some said ∧ none ∈ said ∧
    (pulls config fuel count (start names)).trace world s = t ∧
    ((pulls config fuel count (start names)).run world s).1 = .ok r ∧ r.failures = failures

/-- With a large enough bound the plain loop does what a crawl does that is pulled to its end. -/
lemma PulledToEnd.eq_plain {world : World σ} {config : Config} {names : List String} {s : σ}
    {t : List Event} {failures : List MailboxFailure}
    (hend : PulledToEnd world config names s t failures) :
    ∃ least, ∀ bound, least ≤ bound →
      (Plain.mailboxes config bound names).trace world s = t ∧
      ((Plain.mailboxes config bound names).run world s).1 = .ok (some failures) := by
  obtain ⟨fuel, count, said, r, hsaid, hnone, rfl, hrun, rfl⟩ := hend
  obtain ⟨r', s', hrun', hexhausted⟩ := run_pulls hsaid
  obtain rfl : r = r' := Except.ok.inj (hrun.symm.trans (congrArg Prod.fst hrun'))
  refine ⟨count * fuel, fun bound hbound => ?_⟩
  obtain ⟨htrace, result, hresult, rfl⟩ := (pulls_start_begins config hbound names).run_eq world
    hrun (not_not.2 (hexhausted hnone))
  exact ⟨htrace, hresult⟩

/-- Noninterference of mailboxes.  A crawl is pulled to its end in two worlds, in each of which the
answers about a mailbox depend only on the earlier calls about this mailbox, and which answer alike
what is not about the bad mailbox.  Then the two crawls make as many visits as there are mailboxes
in the list, one to each of them and in this order.  The visits to other mailboxes than the bad one
are alike in the two worlds, and the same failures of other mailboxes are recorded. -/
theorem visits_isolated (config : Config) (names : List String) (bad : String)
    {same : Instant → Instant → Prop} {w w' : Surroundings} (hlike : AlikeExcept same bad w w')
    {world : World σ} {world' : World τ} {s : σ} {s' : τ} {t t' : List Event}
    {failures failures' : List MailboxFailure}
    (hend : PulledToEnd world config names s t failures)
    (hend' : PulledToEnd world' config names s' t' failures')
    (hadmits : Admits w.Allows [] t) (hadmits' : Admits w'.Allows [] t') :
    t = (visits t).flatten ∧ t' = (visits t').flatten ∧
    List.Forall₂ IsVisit names (visits t) ∧ List.Forall₂ IsVisit names (visits t') ∧
    (∀ (i : ℕ) (name : String) (v v' : List Event), names[i]? = some name → name ≠ bad →
      (visits t)[i]? = some v → (visits t')[i]? = some v' → List.Forall₂ (Alike same) v v') ∧
    failures.filter (·.mailbox ≠ bad) = failures'.filter (·.mailbox ≠ bad) := by
  obtain ⟨least, hplain⟩ := hend.eq_plain
  obtain ⟨least', hplain'⟩ := hend'.eq_plain
  obtain ⟨htrace, hrun⟩ := hplain (max least least') (le_max_left _ _)
  obtain ⟨htrace', hrun'⟩ := hplain' (max least least') (le_max_right _ _)
  have htidy : Tidy same bad [] [] := ⟨rfl, fun _ _ => .nil⟩
  obtain ⟨parts, hflat, hflat', hparts, hfailures⟩ := Plain.mailboxes_isolated hlike config _ names
    htidy (htrace ▸ hadmits) (htrace' ▸ hadmits') hrun hrun'
  have hleft : List.Forall₂ IsVisit names (parts.map Prod.fst) :=
    List.forall₂_map_right_iff.2 (hparts.imp fun _ _ h => h.left)
  have hright : List.Forall₂ IsVisit names (parts.map Prod.snd) :=
    List.forall₂_map_right_iff.2 (hparts.imp fun _ _ h => h.right)
  have hvisits : visits t = parts.map Prod.fst := by rw [← htrace, hflat, visits_flatten hleft]
  have hvisits' : visits t' = parts.map Prod.snd := by
    rw [← htrace', hflat', visits_flatten hright]
  refine ⟨(List.flatten_splitBy _ _).symm, (List.flatten_splitBy _ _).symm, hvisits ▸ hleft,
    hvisits' ▸ hright, ?_, hfailures⟩
  intro i name v v' hi hname hv hv'
  rw [hvisits, List.getElem?_map, Option.map_eq_some_iff] at hv
  rw [hvisits', List.getElem?_map, Option.map_eq_some_iff] at hv'
  obtain ⟨part, hpart, rfl⟩ := hv
  obtain ⟨part', hpart', rfl⟩ := hv'
  obtain rfl := Option.some.inj (hpart.symm.trans hpart')
  obtain ⟨hlength, rfl⟩ := List.getElem?_eq_some_iff.1 hpart
  obtain ⟨hlength', rfl⟩ := List.getElem?_eq_some_iff.1 hi
  exact (hparts.get hlength' hlength).alike hname

/-- Sample surroundings.  The folders of one mailbox can be listed or not, while every other mailbox
has an inbox with a single mail. -/
def sampleSurroundings (up : Bool) : Surroundings where
  clock _ := default
  reply _
    | .listFolders mailbox _ =>
      if up ∨ mailbox ≠ "down" then .ok [.default]
      else .error { cause := .service (.protocol "no answer") }
    | c => (sampleWorld.answer c ()).1

/-- The sample surroundings answer alike but for the mailbox that is down in one of them. -/
lemma sampleSurroundings_alike :
    AlikeExcept Eq "down" (sampleSurroundings false) (sampleSurroundings true) where
  clock _ := rfl
  reply mailbox hmailbox h h' c c' _ hcalls hc := by
    obtain ⟨reply, reply', halike⟩ := hcalls
    cases halike with
    | clock h => cases hc
    | readInstant mailbox h => exact .readInstant mailbox .none
    | unreadInstant mailbox failure => exact .readInstant mailbox .none
    | writeInstant mailbox h _ => exact .writeInstant mailbox h (.ok ())
    | listItems mailbox folder pageSize h _ =>
      cases h with
      | token token => exact .listItems mailbox folder pageSize (.token token) _
      | offset offset h => exact .listItems mailbox folder pageSize (.offset offset h) (.ok {})
    | toSink hsink => exact .toSink hsink _ _
    | timeless htimeless =>
      cases c with
      | listFolders name parent =>
        cases hc
        have hreply : (sampleSurroundings false).reply h (.listFolders mailbox parent) =
            (sampleSurroundings true).reply h' (.listFolders mailbox parent) := by
          simp [sampleSurroundings, hmailbox]
        rw [hreply]
        exact .timeless htimeless _
      | _ => exact .timeless htimeless _

/-- The calls of three visits in the sample surroundings. -/
def sampleVisits (up : Bool) : List Event :=
  (pulls (Config.ofRequested 1 1) 30 4 (start ["down", "up", "down"])).trace
    (sampleSurroundings up).world []

/-- A failure of a mailbox before and after another one leaves the visit to the other one alike. -/
theorem visits_isolated_sample :
    ∃ v v', (visits (sampleVisits false))[1]? = some v ∧
      (visits (sampleVisits true))[1]? = some v' ∧ List.Forall₂ (Alike Eq) v v' := by
  have hdown : PulledToEnd (sampleSurroundings false).world (Config.ofRequested 1 1)
      ["down", "up", "down"] [] (sampleVisits false) _ :=
    ⟨30, 4, [some sampleRecord, none, none, none], _, rfl, by simp, rfl, rfl, rfl⟩
  have hup : PulledToEnd (sampleSurroundings true).world (Config.ofRequested 1 1)
      ["down", "up", "down"] [] (sampleVisits true) _ :=
    ⟨30, 4, _, _, rfl, by simp, rfl, rfl, rfl⟩
  obtain ⟨-, -, hvisits, hvisits', halike, -⟩ := visits_isolated _ _ "down" sampleSurroundings_alike
    hdown hup (Surroundings.world_admits _ _ _) (Surroundings.world_admits _ _ _)
  have hlength : 1 < (visits (sampleVisits false)).length := by
    rw [← hvisits.length_eq]
    decide
  have hlength' : 1 < (visits (sampleVisits true)).length := by
    rw [← hvisits'.length_eq]
    decide
  exact ⟨_, _, List.getElem?_eq_getElem hlength, List.getElem?_eq_getElem hlength',
    halike 1 "up" _ _ rfl (by decide) (List.getElem?_eq_getElem hlength)
      (List.getElem?_eq_getElem hlength')⟩

end Roster

end MailCollector.Crawl
