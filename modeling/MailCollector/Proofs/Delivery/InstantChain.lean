import MailCollector.Proofs.Crawl.Collecting
import MailCollector.Proofs.Crawl.Completion
import Mathlib.Data.List.Induction

/-!
# Each visit resumes from the last one that was completed

A history of runs consists of visits to mailboxes, with nothing but notes and flushes between them
(`history_chapters`).  A visit moves the stored instant of its mailbox to the time at which it began
if it is completed, and leaves all instants as they are if not.  So what is stored for a mailbox is
always the time at which the latest completed visit began, and that is what the next visit asks from
(`instants_chained`).  Nothing that changes while a visit goes on is skipped by the next one.
-/

namespace MailCollector.Crawl

open MailCollector.Calendar MailCollector.Mail MailCollector.Log Plain Plain.Attempt

/-! ### Stored instants -/

/-- The instant that a call stores for a mailbox, if it succeeds in that. -/
def instantWritten? (mailbox : String) : Event → Option Instant
  | ⟨.writeInstant m instant, .ok ()⟩ => if m = mailbox then some instant else none
  | _ => none

/-- The instant that is stored for a mailbox, given what was stored at first. -/
def storedInstant (initial : String → Option Instant) (h : List Event) (mailbox : String) :
    Option Instant :=
  (h.filterMap (instantWritten? mailbox)).getLast?.or (initial mailbox)

/-- The store of checkpoints gives back the instant that was stored last.  Everything may fail, and
everything else may be answered in any way. -/
def KeepsInstants (initial : String → Option Instant) (h : List Event) : Event → Prop
  | ⟨.readInstant mailbox, .ok instant⟩ => instant = storedInstant initial h mailbox
  | _ => True

section Instants

variable {initial : String → Option Instant} {mailbox : String} {h t : List Event}

lemma instantWritten?_eq_some_iff {e : Event} {instant : Instant} :
    instantWritten? mailbox e = some instant ↔ e = ⟨.writeInstant mailbox instant, .ok ()⟩ := by
  unfold instantWritten?
  constructor
  · intro hwritten
    split at hwritten
    · obtain ⟨rfl, hinstant⟩ := Option.ite_none_right_eq_some.1 hwritten
      cases hinstant
      rfl
    · cases hwritten
  · rintro rfl
    simp

/-- Calls that store no instant of a mailbox leave its instant as it is. -/
lemma storedInstant_append (ht : ∀ instant, ⟨.writeInstant mailbox instant, .ok ()⟩ ∉ t) :
    storedInstant initial (h ++ t) mailbox = storedInstant initial h mailbox := by
  have hnone : t.filterMap (instantWritten? mailbox) = [] := by
    refine List.filterMap_eq_nil_iff.2 fun e he => Option.eq_none_iff_forall_ne_some.2 ?_
    intro instant hwritten
    exact ht instant (instantWritten?_eq_some_iff.1 hwritten ▸ he)
  rw [storedInstant, List.filterMap_append, hnone, List.append_nil, storedInstant]

/-- Storing an instant replaces the one that was stored before. -/
lemma storedInstant_append_write {instant : Instant} :
    storedInstant initial (h ++ [⟨.writeInstant mailbox instant, .ok ()⟩]) mailbox =
      some instant := by
  simp [storedInstant, instantWritten?]

end Instants

/-! ### Visits and stored instants -/

/-- The visit was completed: its instant was stored. -/
def Visit.Completed (v : Visit) : Prop := ⟨.writeInstant v.mailbox v.startedAt, .ok ()⟩ ∈ v.calls

namespace Visit

variable {v : Visit} {initial : String → Option Instant} {mailbox : String} {h : List Event}

/-- An instant that a visit stores is its own. -/
lemma Sound.completed (hv : v.Sound) {instant : Instant}
    (hwritten : ⟨.writeInstant mailbox instant, .ok ()⟩ ∈ v.events) :
    mailbox = v.mailbox ∧ v.Completed := by
  have hmem : ⟨.writeInstant mailbox instant, .ok ()⟩ ∈ v.calls :=
    (List.mem_cons.1 hwritten).resolve_left fun h => by cases h
  rcases hv.last with hquiet | ⟨before, reply, after, hcalls, hquiet, -, -⟩
  · exact absurd trivial (hquiet _ hmem)
  have hsplit := hcalls ▸ hmem
  rw [List.mem_append, List.mem_cons] at hsplit
  rcases hsplit with hbefore | hwrite | hafter
  · exact absurd trivial (hquiet _ (List.mem_append_left _ hbefore))
  · cases hwrite
    exact ⟨rfl, hmem⟩
  · exact absurd trivial (hquiet _ (List.mem_append_right _ hafter))

/-- A visit that is not completed, or one to another mailbox, leaves an instant as it is. -/
lemma Sound.storedInstant_eq (hv : v.Sound) (hother : mailbox = v.mailbox → ¬ v.Completed) :
    storedInstant initial (h ++ v.events) mailbox = storedInstant initial h mailbox := by
  refine storedInstant_append fun instant hwritten => ?_
  obtain ⟨hsame, hcompleted⟩ := hv.completed hwritten
  exact hother hsame hcompleted

/-- A completed visit stores the time at which it began. -/
lemma Sound.storedInstant_completed (hv : v.Sound) (hcompleted : v.Completed) :
    storedInstant initial (h ++ v.events) v.mailbox = some v.startedAt := by
  rcases hv.last with hquiet | ⟨before, reply, after, hcalls, hquiet, hafter, -⟩
  · exact absurd trivial (hquiet _ hcompleted)
  have hreply : reply = .ok () := by
    rw [Completed, hcalls, List.mem_append, List.mem_cons] at hcompleted
    rcases hcompleted with hbefore | hwrite | hafter
    · exact absurd trivial (hquiet _ (List.mem_append_left _ hbefore))
    · cases hwrite
      rfl
    · exact absurd trivial (hquiet _ (List.mem_append_right _ hafter))
  have hnotes : ∀ instant, ⟨.writeInstant v.mailbox instant, .ok ()⟩ ∉ after := fun instant hmem =>
    hquiet _ (List.mem_append_right _ hmem) trivial
  rw [events, hcalls, hreply, List.append_cons before, ← List.cons_append, ← List.append_assoc,
    storedInstant_append hnotes, ← List.cons_append, ← List.append_assoc]
  exact storedInstant_append_write

end Visit

/-! ### Histories as sequences of visits -/

/-- A part of a history: a visit, or a call between visits. -/
inductive Stretch where
  | between (e : Event)
  | visit (v : Visit)

namespace Stretch

/-- The calls of a part of a history. -/
def events : Stretch → List Event
  | between e => [e]
  | visit v => v.events

/-- The visit, if it is one. -/
def visit? : Stretch → Option Visit
  | between _ => none
  | visit v => some v

end Stretch

/-- A call that is made between visits: a note is written or the sink is flushed. -/
def Call.BetweenVisits : Call → Prop
  | .flush | .note _ => True
  | _ => False

/-- The parts of the history that belong to one run. -/
structure Chapter where
  run : Run
  stretches : List Stretch

namespace Chapter

/-- The visits of a run. -/
def visits (c : Chapter) : List Visit := c.stretches.filterMap Stretch.visit?

/-- The visits of a run are those to the first of its mailboxes, one for each, in their order. -/
structure Sound (c : Chapter) : Prop where
  order : c.visits.map Visit.mailbox <+: c.run.names
  config : ∀ v ∈ c.visits, v.config = c.run.config
  crawls : ∀ v ∈ c.visits, v.program.Makes v.calls
  between : ∀ e, .between e ∈ c.stretches → e.1.BetweenVisits

@[simp] lemma visits_append_between (run : Run) (stretches : List Stretch) (e : Event) :
    visits ⟨run, stretches ++ [.between e]⟩ = visits ⟨run, stretches⟩ := by
  simp [visits, List.filterMap_append, Stretch.visit?]

@[simp] lemma visits_append_visit (run : Run) (stretches : List Stretch) (v : Visit) :
    visits ⟨run, stretches ++ [.visit v]⟩ = visits ⟨run, stretches⟩ ++ [v] := by
  simp [visits, List.filterMap_append, Stretch.visit?]

/-- One more call between visits. -/
lemma Sound.append_between {c : Chapter} (hc : c.Sound) {e : Event} (he : e.1.BetweenVisits) :
    Sound ⟨c.run, c.stretches ++ [.between e]⟩ where
  order := by simpa using hc.order
  config := by simpa using hc.config
  crawls := by simpa using hc.crawls
  between e' he' := by
    rcases List.mem_append.1 he' with he' | he'
    · exact hc.between e' he'
    · cases List.mem_singleton.1 he'
      exact he

/-- One more visit, to the next mailbox. -/
lemma Sound.append_visit {c : Chapter} (hc : c.Sound) {v : Visit}
    (horder : c.visits.map Visit.mailbox ++ [v.mailbox] <+: c.run.names)
    (hconfig : v.config = c.run.config) (hcrawls : v.program.Makes v.calls) :
    Sound ⟨c.run, c.stretches ++ [.visit v]⟩ where
  order := by simpa using horder
  config := by
    rw [visits_append_visit]
    exact List.forall_mem_append.2 ⟨hc.config, List.forall_mem_singleton.2 hconfig⟩
  crawls := by
    rw [visits_append_visit]
    exact List.forall_mem_append.2 ⟨hc.crawls, List.forall_mem_singleton.2 hcrawls⟩
  between e he := hc.between e ((List.mem_append.1 he).resolve_right (by simp))

end Chapter

/-- The history is a beginning of the run, told as visits. -/
def Run.Told (run : Run) (h : List Event) : Prop :=
  ∃ stretches, Chapter.Sound ⟨run, stretches⟩ ∧ h = stretches.flatMap Stretch.events

section Run

variable {run : Run}

/-- The rest of the plain loop, when some mailboxes have been visited, goes on with visits. -/
lemma mailboxes_told (names : List String) {stretches : List Stretch}
    (hsound : Chapter.Sound ⟨run, stretches⟩)
    (hnames : (Chapter.visits ⟨run, stretches⟩).map Visit.mailbox ++ names = run.names) :
    (mailboxes run.config run.fuel names).Upholds anything run.Told (fun _ _ => True)
      (stretches.flatMap Stretch.events) := by
  have htold : run.Told (stretches.flatMap Stretch.events) := ⟨stretches, hsound, rfl⟩
  induction names generalizing stretches with
  | nil => exact ⟨htold, trivial⟩
  | cons name names ih =>
    rw [mailboxes, mailbox_run, Program.call_bind]
    refine ⟨htold, fun startedAt _ => ?_⟩
    -- The calls of this visit so far, as one more stretch.
    have hvisit : ∀ calls, (timed run.config run.fuel name startedAt).run.Makes calls →
        Chapter.Sound ⟨run, stretches ++ [.visit ⟨run.config, run.fuel, name, startedAt, calls⟩]⟩ ∧
        stretches.flatMap Stretch.events ++ [⟨.clock, startedAt⟩] ++ calls =
          (stretches ++ [Stretch.visit ⟨run.config, run.fuel, name, startedAt, calls⟩]).flatMap
            Stretch.events := by
      intro calls hcalls
      refine ⟨hsound.append_visit ?_ rfl hcalls, by simp [Stretch.events, Visit.events]⟩
      exact ⟨names, by rw [List.append_assoc]; exact hnames⟩
    rw [Program.upholds_bind]
    refine (Program.upholds_makes _ _).mono ?_ ?_
    · rintro _ ⟨calls, rfl, hcalls⟩
      exact ⟨_, hvisit calls hcalls⟩
    · rintro ended _ - ⟨calls, rfl, hcalls⟩
      obtain ⟨hsound', hevents⟩ := hvisit calls hcalls.makes
      have hnames' : (Chapter.visits ⟨run, stretches ++
          [.visit ⟨run.config, run.fuel, name, startedAt, calls⟩]⟩).map Visit.mailbox ++ names =
          run.names := by
        rw [← hnames]
        simp
      rw [hevents]
      cases ended with
      | ok _ => exact ih hsound' hnames' ⟨_, hsound', rfl⟩
      | error halt =>
        cases halt with
        | unfinished => exact ⟨⟨_, hsound', rfl⟩, trivial⟩
        | failed failure =>
          refine ⟨⟨_, hsound', rfl⟩, fun _ _ => ?_⟩
          have hskipped := hsound'.append_between
            (e := ⟨.note (.mailboxSkipped name failure), ()⟩) trivial
          have hnext := ih hskipped (by rwa [Chapter.visits_append_between]) ⟨_, hskipped, rfl⟩
          rw [List.flatMap_append] at hnext
          refine (Program.upholds_bind (mailboxes run.config run.fuel names) _ _).2 ?_
          exact hnext.mono (fun _ hinv => hinv) fun _ _ hinv _ => ⟨hinv, trivial⟩

/-- A run consists of visits. -/
theorem Run.program_told (run : Run) :
    run.program.Upholds anything run.Told (fun _ _ => True) [] := by
  have hrest : (Roster.rest run.config run.fuel (Roster.start run.names)).Upholds anything run.Told
      (fun result _ => ∀ failures : List MailboxFailure, result = some failures → True) [] := by
    rw [Roster.rest_start_eq]
    have hstart : Chapter.Sound ⟨run, []⟩ :=
      ⟨List.nil_prefix, by simp [Chapter.visits], by simp [Chapter.visits], by simp⟩
    exact (mailboxes_told run.names hstart rfl).mono (fun _ htold => htold)
      fun _ _ _ _ _ _ => trivial
  refine (drain_upholds run.config run.names.length (fun _ _ _ => .inl trivial) ?_ hrest).mono
    (fun _ htold => htold) fun _ _ _ _ => trivial
  rintro _ ⟨c, reply⟩ hcloses ⟨stretches, hsound, rfl⟩
  refine ⟨_, hsound.append_between (e := ⟨c, reply⟩) ?_, by simp [Stretch.events]⟩
  cases c <;> trivial

end Run

/-- At any moment the history of some runs consists of the visits of the runs so far. -/
theorem history_chapters {σ : Type} (world : World σ) {runs : List Run} {s : σ} {h : List Event}
    (hmoment : h <+: history world runs s) :
    ∃ chapters : List Chapter, chapters.map Chapter.run <+: runs ∧ (∀ c ∈ chapters, c.Sound) ∧
      h = (chapters.flatMap Chapter.stretches).flatMap Stretch.events := by
  induction runs generalizing h s with
  | nil => exact ⟨[], List.nil_prefix, by simp, List.prefix_nil.1 hmoment⟩
  | cons run runs ih =>
    have htold := fun {t : List Event} (ht : t <+: run.program.trace world s) =>
      run.program_told.trace ht (admits_true _ _)
    rw [history] at hmoment
    rcases List.prefix_or_prefix_of_prefix hmoment (List.prefix_append _ _) with hshort | ⟨t, rfl⟩
    · obtain ⟨stretches, hsound, hevents⟩ := htold hshort
      exact ⟨[⟨run, stretches⟩], by simp, by simpa using hsound, by simpa using hevents⟩
    · obtain ⟨stretches, hsound, hevents⟩ := htold List.prefix_rfl
      obtain ⟨chapters, hruns, hchapters, rfl⟩ := ih ((List.prefix_append_right_inj _).1 hmoment)
      rw [List.nil_append] at hevents
      refine ⟨⟨run, stretches⟩ :: chapters, (List.prefix_cons_inj _).2 hruns,
        List.forall_mem_cons.2 ⟨hsound, hchapters⟩, ?_⟩
      rw [List.flatMap_cons, List.flatMap_append, hevents]

/-! ### The main result -/

/-- The instant is the time at which the latest completed visit to the mailbox began, and what was
stored at first if no visit was completed. -/
def LastCompleted (initial : String → Option Instant) (stretches : List Stretch) (mailbox : String)
    (instant : Option Instant) : Prop :=
  (∃ before v after, stretches = before ++ .visit v :: after ∧ v.mailbox = mailbox ∧ v.Completed ∧
      (∀ w, .visit w ∈ after → w.mailbox = mailbox → ¬ w.Completed) ∧
      instant = some v.startedAt) ∨
    (∀ w, .visit w ∈ stretches → w.mailbox = mailbox → ¬ w.Completed) ∧ instant = initial mailbox

/-- What the visits before it mean to a visit. -/
structure Visit.Follows (initial : String → Option Instant) (before : List Stretch) (v : Visit) :
    Prop where
  /-- The stored instant is that of the latest completed visit. -/
  stored : LastCompleted initial before v.mailbox
    (storedInstant initial (before.flatMap Stretch.events) v.mailbox)
  /-- A visit that looks at instants asks for what changed since the stored one. -/
  resumes : v.config.mode = .lastSynced → ∀ request reply, ⟨.listItems request, reply⟩ ∈ v.calls →
    ∃ offset, request.cursor =
      .offset offset (storedInstant initial (before.flatMap Stretch.events) v.mailbox)
  /-- A visit in which anything fails leaves all instants as they are. -/
  failed : (∃ e ∈ v.calls, Fails e) → ∀ mailbox,
    storedInstant initial (before.flatMap Stretch.events ++ v.events) mailbox =
      storedInstant initial (before.flatMap Stretch.events) mailbox

/-- The history consists of the visits of the first runs, and each visit resumes from the latest
completed one. -/
def Chained (initial : String → Option Instant) (runs : List Run) (h : List Event) : Prop :=
  ∃ chapters : List Chapter, chapters.map Chapter.run <+: runs ∧ (∀ c ∈ chapters, c.Sound) ∧
    h = (chapters.flatMap Chapter.stretches).flatMap Stretch.events ∧
    ∀ before v after, chapters.flatMap Chapter.stretches = before ++ .visit v :: after →
      v.Sound ∧ v.Follows initial before

/-- A call between visits stores no instant. -/
lemma storedInstant_append_between {initial : String → Option Instant} {mailbox : String}
    {h : List Event} {e : Event} (he : e.1.BetweenVisits) :
    storedInstant initial (h ++ [e]) mailbox = storedInstant initial h mailbox := by
  refine storedInstant_append fun instant hwritten => ?_
  cases List.mem_singleton.1 hwritten
  exact he

/-- What is stored after some visits is the time at which the latest completed one began. -/
lemma lastCompleted_storedInstant (initial : String → Option Instant) {stretches : List Stretch}
    (hvisits : ∀ v, .visit v ∈ stretches → v.Sound)
    (hbetween : ∀ e, .between e ∈ stretches → e.1.BetweenVisits) (mailbox : String) :
    LastCompleted initial stretches mailbox
      (storedInstant initial (stretches.flatMap Stretch.events) mailbox) := by
  induction stretches using List.reverseRecOn with
  | nil => exact .inr ⟨by simp, rfl⟩
  | append_singleton stretches stretch ih =>
    have hbefore := ih (fun v hv => hvisits v (List.mem_append_left _ hv))
      fun e he => hbetween e (List.mem_append_left _ he)
    -- A stretch that completes no visit to the mailbox changes nothing.
    have hkeep : (∀ w, .visit w ∈ [stretch] → w.mailbox = mailbox → ¬ w.Completed) →
        storedInstant initial (stretches.flatMap Stretch.events ++ stretch.events) mailbox =
          storedInstant initial (stretches.flatMap Stretch.events) mailbox →
        LastCompleted initial (stretches ++ [stretch]) mailbox (storedInstant initial
          (stretches.flatMap Stretch.events ++ stretch.events) mailbox) := by
      intro hopen hsame
      rw [hsame]
      rcases hbefore with ⟨before, v, after, rfl, hv, hcompleted, hafter, hinstant⟩ | ⟨hnone, heq⟩
      · refine .inl
          ⟨before, v, after ++ [stretch], by simp, hv, hcompleted, fun w hw => ?_, hinstant⟩
        exact (List.mem_append.1 hw).elim (hafter w) (hopen w)
      · exact .inr ⟨fun w hw => (List.mem_append.1 hw).elim (hnone w) (hopen w), heq⟩
    rw [List.flatMap_append, List.flatMap_singleton]
    cases stretch with
    | between e => exact hkeep (by simp) (storedInstant_append_between (hbetween e (by simp)))
    | visit v =>
      have hv := hvisits v (by simp)
      by_cases hcompleted : mailbox = v.mailbox ∧ v.Completed
      · obtain ⟨rfl, hcompleted⟩ := hcompleted
        exact .inl ⟨stretches, v, [], rfl, rfl, hcompleted, by simp,
          hv.storedInstant_completed hcompleted⟩
      · refine hkeep ?_ (hv.storedInstant_eq fun hsame hdone => hcompleted ⟨hsame, hdone⟩)
        intro w hw hsame hdone
        cases List.mem_singleton.1 hw
        exact hcompleted ⟨hsame.symm, hdone⟩

/-- Take any runs in any modes over any mailboxes, on a store that gives back the instant that was
stored last for a mailbox.  At every moment their history consists of visits, each of which writes
the time at which it began once, last and only if nothing has failed, and resumes from the latest
completed one. -/
theorem instants_chained {σ : Type} (world : World σ) (initial : String → Option Instant)
    (runs : List Run) (s : σ) (hstore : Admits (KeepsInstants initial) [] (history world runs s))
    {h : List Event} (hmoment : h <+: history world runs s) : Chained initial runs h := by
  obtain ⟨chapters, hruns, hchapters, rfl⟩ := history_chapters world hmoment
  refine ⟨chapters, hruns, hchapters, rfl, fun before v after hsplit => ?_⟩
  have hmem : ∀ {stretch}, stretch ∈ before ++ .visit v :: after →
      ∃ c ∈ chapters, stretch ∈ c.stretches :=
    fun hstretch => List.mem_flatMap.1 (hsplit ▸ hstretch)
  have hvisits : ∀ w, .visit w ∈ before ++ .visit v :: after → w.Sound := by
    intro w hw
    obtain ⟨c, hc, hwc⟩ := hmem hw
    exact Visit.sound ((hchapters c hc).crawls w (List.mem_filterMap.2 ⟨_, hwc, rfl⟩))
  have hbetween : ∀ e, .between e ∈ before ++ .visit v :: after → e.1.BetweenVisits := by
    intro e he
    obtain ⟨c, hc, hec⟩ := hmem he
    exact (hchapters c hc).between e hec
  have hv : v.Sound := hvisits v (by simp)
  refine ⟨hv, ?_, ?_, ?_⟩
  · exact lastCompleted_storedInstant initial (fun w hw => hvisits w (List.mem_append_left _ hw))
      (fun e he => hbetween e (List.mem_append_left _ he)) v.mailbox
  · -- The instant was read right after the clock, so the store gave back what was stored before.
    intro hmode request reply hlist
    obtain ⟨changedSince, rest, offset, hcalls, hcursor⟩ := hv.since hmode request reply hlist
    obtain ⟨later, hlater⟩ := hmoment
    have hread := hlater ▸ hstore
    rw [hsplit, List.flatMap_append, List.flatMap_cons, Stretch.events, Visit.events, hcalls,
      List.append_assoc, admits_append, List.cons_append, List.cons_append] at hread
    have hsince : changedSince = storedInstant initial
        (before.flatMap Stretch.events ++ [⟨.clock, v.startedAt⟩]) v.mailbox := hread.2.2.1
    refine ⟨offset, ?_⟩
    rw [hcursor, hsince, storedInstant_append]
    simp
  · intro hfailed mailbox
    exact hv.storedInstant_eq fun _ => hv.failed hfailed _ _

/-! ### A sample -/

/-- The answers of a world whose clock counts calls, whose store remembers instants, and whose
server fails to list the items of a folder while it is visited for the second time. -/
def sampleInstantReply (h : List Event) : (c : Call) → c.Reply
  | .clock => .ofNanoseconds h.length
  | .readInstant mailbox => .ok (storedInstant (fun _ => none) h mailbox)
  | .writeInstant _ _ => .ok ()
  | .readToken _ _ => .ok none
  | .writeToken _ _ _ => .ok ()
  | .listFolders _ _ => .ok [.default]
  | .listItems _ =>
    if (h.filter fun e => e.1 = .clock).length = 2 then .error { cause := .system } else .ok {}
  | .fetchItems _ ids => .ok (ids.map fun id => { id := id })
  | .store _ => .ok ()
  | .flush => .ok ()
  | .note _ => ()

/-- Three runs that look at instants, over one mailbox. -/
def sampleInstantRuns : List Run :=
  List.replicate 3 ⟨(Config.ofRequested 2 1).withMode .lastSynced, 30, ["m"]⟩

/-- The cursor with which items are asked for, if they are. -/
def cursor? : Event → Option Cursor
  | ⟨.listItems request, _⟩ => some request.cursor
  | _ => none

/-- The store of the sample keeps its instants. -/
lemma sampleInstantReply_allowed (h : List Event) (c : Call) :
    KeepsInstants (fun _ => none) h ⟨c, sampleInstantReply h c⟩ := by
  cases c with
  | readInstant mailbox => exact rfl
  | _ => exact trivial

/-- The second visit fails, and so the third one resumes from the first one again. -/
theorem instants_chained_sample :
    (history (World.remembering sampleInstantReply) sampleInstantRuns []).filterMap cursor? =
        [.offset 0 none, .offset 0 (some (.ofNanoseconds 0)), .offset 0 (some (.ofNanoseconds 0))] ∧
      Chained (fun _ => none) sampleInstantRuns
        (history (World.remembering sampleInstantReply) sampleInstantRuns []) :=
  ⟨rfl, instants_chained _ _ _ _ (history_remembering sampleInstantReply_allowed _ _)
    List.prefix_rfl⟩

end MailCollector.Crawl
