import MailCollector.Proofs.Crawl.Crashes
import MailCollector.Proofs.Crawl.FailFast
import MailCollector.Proofs.Crawl.Isolation

/-!
# One entry for each failed visit

A visit to a mailbox that meets a failure ends with it: what follows is the note about it, and
nothing else (`StopsAtFailure`).  So the failures that a crawl has recorded after any number of
pulls are one for each visit that failed, in the order of the visits, and the lines that it has
written to the log as errors are the same, one for each (`Roster.failures_accounted`).  Visits are
told apart by their place in the list of mailboxes, not by the name, so a mailbox that is listed
twice may fail twice.

What is known after each turn is `Roster.Consistent`: the mailboxes that were started are those
before the waiting ones, and the history consists of their visits.
-/

namespace MailCollector.Crawl

open MailCollector.Calendar MailCollector.Mail MailCollector.Log Plain

variable {α σ : Type}

/-! ### What a visit leaves behind -/

/-- The line that a call adds to the log, if it is the line of an error. -/
def errorLine? (elapsed : String) : Event → Option String
  | ⟨.note n, _⟩ => if n.level = .error then some (n.line elapsed) else none
  | _ => none

/-- The line of the log about a mailbox that is given up. -/
def MailboxFailure.line (f : MailboxFailure) : String :=
  "ERROR Skipping rest of mailbox " ++ f.mailbox ++ ": " ++ f.failure.message

/-- No call fails, and no error is written to the log. -/
def Unfailed (t : List Event) : Prop :=
  ∀ e ∈ t, ¬ Fails e ∧ ∀ n, e.1 = .note n → n.level ≠ .error

/-- Either nothing fails in a visit, or what fails is followed by the note that the mailbox is given
up because of it, and by nothing else. -/
def StopsAtFailure (name : String) (part : List Event) : Prop :=
  Unfailed part ∨
    ∃ before e failure step, Unfailed before ∧ failure? e = some failure ∧
      part = before ++ [e, ⟨.note (.mailboxSkipped name (failure.during step)), ()⟩]

/-- What is known of a visit after any number of pulls. -/
structure Accounted (name : String) (part : List Event) : Prop where
  /-- It is about this mailbox. -/
  visit : IsVisit name part
  /-- After a failure nothing is asked, written or handed over any more. -/
  stops : StopsAtFailure name part
  /-- If a call failed, the failure was recorded once. -/
  failed : (∃ e ∈ part, Fails e) → ∃ failure, part.filterMap skipped? = [⟨name, failure⟩]
  /-- If none did, nothing was recorded. -/
  unfailed : (∀ e ∈ part, ¬ Fails e) → part.filterMap skipped? = []
  /-- What was recorded is what was written to the log as an error. -/
  logged : ∀ elapsed, part.filterMap (errorLine? elapsed) =
    (part.filterMap skipped?).map MailboxFailure.line

section Visit

variable {name : String} {part t : List Event}

lemma Unfailed.append (hpart : Unfailed part) (ht : Unfailed t) : Unfailed (part ++ t) :=
  List.forall_mem_append.2 ⟨hpart, ht⟩

/-- Nothing is recorded while nothing fails. -/
lemma Unfailed.skipped (hpart : Unfailed part) : part.filterMap skipped? = [] := by
  refine List.filterMap_eq_nil_iff.2 fun e he => skipped?_eq_none fun hskips => ?_
  obtain ⟨c, reply⟩ := e
  cases c with
  | note n =>
    cases n with
    | mailboxSkipped mailbox failure => exact (hpart _ he).2 _ rfl rfl
    | _ => exact hskips
  | _ => exact hskips

/-- No error is written to the log while nothing fails. -/
lemma Unfailed.errorLines (hpart : Unfailed part) (elapsed : String) :
    part.filterMap (errorLine? elapsed) = [] := by
  refine List.filterMap_eq_nil_iff.2 fun e he => ?_
  obtain ⟨c, reply⟩ := e
  cases c with
  | note n => simp [errorLine?, (hpart _ he).2 n rfl]
  | _ => rfl

/-- Calls of a mailbox of which none fails. -/
lemma unfailed_of (hcalls : ∀ e ∈ t, e.1.OfMailbox name) (hcalm : ∀ e ∈ t, ¬ Fails e) :
    Unfailed t :=
  fun e he => ⟨hcalm e he, (hcalls e he).quiet⟩

/-- A visit goes on with calls about the same mailbox. -/
lemma IsVisit.append (hpart : IsVisit name part) (ht : ∀ e ∈ t, e.1 ≠ .clock ∧ e.1.Concerns name) :
    IsVisit name (part ++ t) := by
  obtain ⟨startedAt, rest, rfl, hrest⟩ := hpart
  exact ⟨startedAt, rest ++ t, rfl, List.forall_mem_append.2 ⟨hrest, ht⟩⟩

/-- The note about a mailbox that is given up writes its line to the log. -/
lemma errorLine?_skipping (elapsed name : String) (failure : Failure) :
    errorLine? elapsed ⟨.note (.mailboxSkipped name failure), ()⟩ =
      some (MailboxFailure.line ⟨name, failure⟩) := by
  have hlevel : Note.level (.mailboxSkipped name failure) = .error := rfl
  have hjoin : ∀ mailbox colon message : String,
      "ERROR" ++ " " ++ ("Skipping rest of mailbox " ++ mailbox ++ colon ++ message) =
        "ERROR Skipping rest of mailbox " ++ mailbox ++ colon ++ message := fun _ _ _ => by
    simp only [← String.append_assoc]
    congr 1
  have hline : Note.line elapsed (.mailboxSkipped name failure) =
      MailboxFailure.line ⟨name, failure⟩ := hjoin name ": " failure.message
  rw [errorLine?, if_pos hlevel, hline]

/-- Whatever stops at its failure is accounted for. -/
lemma StopsAtFailure.accounted (hstops : StopsAtFailure name part) (hvisit : IsVisit name part) :
    Accounted name part := by
  rcases hstops with hquiet | ⟨before, e, failure, step, hquiet, he, rfl⟩
  · refine ⟨hvisit, .inl hquiet, ?_, fun _ => hquiet.skipped, fun elapsed => ?_⟩
    · rintro ⟨e, he, hfails⟩
      exact absurd hfails (hquiet e he).1
    · rw [hquiet.errorLines, hquiet.skipped, List.map_nil]
  · have hfails : Fails e := (fails_iff_isSome e).2 (he ▸ rfl)
    -- The call that failed is no note.
    have hnote : ∀ n, e.1 ≠ .note n := by
      obtain ⟨c, reply⟩ := e
      rintro n rfl
      cases he
    have hskipped : (before ++ [e, ⟨.note (.mailboxSkipped name (failure.during step)),
        ()⟩]).filterMap skipped? = [⟨name, failure.during step⟩] := by
      have hnone : skipped? e = none := skipped?_eq_none fun hskips => by
        unfold Call.Skips at hskips
        split at hskips
        · exact hnote _ ‹_›
        · exact hskips
      rw [List.filterMap_append, hquiet.skipped, List.nil_append, List.filterMap_cons_none hnone]
      rfl
    refine ⟨hvisit, .inr ⟨before, e, failure, step, hquiet, he, rfl⟩, fun _ => ⟨_, hskipped⟩,
      ?_, ?_⟩
    · exact fun hnone => absurd hfails (hnone e (by simp))
    · intro elapsed
      have hnone : errorLine? elapsed e = none := by
        obtain ⟨c, reply⟩ := e
        cases c with
        | note n => exact absurd rfl (hnote n)
        | _ => rfl
      rw [hskipped, List.filterMap_append, hquiet.errorLines, List.nil_append,
        List.filterMap_cons_none hnone, List.filterMap_cons_some (errorLine?_skipping _ _ _)]
      rfl

/-- A visit records one failure at most. -/
lemma Accounted.skipped_length_le (hpart : Accounted name part) :
    (part.filterMap skipped?).length ≤ 1 := by
  by_cases hfails : ∃ e ∈ part, Fails e
  · obtain ⟨failure, hskipped⟩ := hpart.failed hfails
    exact (congrArg List.length hskipped).le
  · rw [hpart.unfailed fun e he hfailed => hfails ⟨e, he, hfailed⟩]
    exact Nat.zero_le 1

end Visit

/-! ### What is known after each turn -/

/-- The history consists of visits to the mailboxes that do not wait any more. -/
def Toured (names waiting : List String) (h : List Event) : Prop :=
  ∃ started parts, names = started ++ waiting ∧ h = parts.flatten ∧
    List.Forall₂ Accounted started parts

/-- The history consists of visits, of which the last one goes on if a mailbox is being crawled. -/
def Roster.Consistent (names : List String) (r : Roster) (h : List Event) : Prop :=
  match r.phase with
  | .between | .exhausted => Toured names r.waiting h
  | .crawling name crawl => crawl.Belongs name ∧ ∃ before part, h = before ++ part ∧
      Toured names (name :: r.waiting) before ∧ IsVisit name part ∧ Unfailed part

/-- The visit to the first of the waiting mailboxes joins the others. -/
lemma Toured.visit {names waiting : List String} {name : String} {before part : List Event}
    (hbefore : Toured names (name :: waiting) before) (hpart : Accounted name part) :
    Toured names waiting (before ++ part) := by
  obtain ⟨started, parts, rfl, rfl, hparts⟩ := hbefore
  exact ⟨started ++ [name], parts ++ [part], by simp, by simp,
    List.rel_append hparts (.cons hpart .nil)⟩

/-- There are no more failures than mailboxes that do not wait any more. -/
lemma Toured.skipped_length_le {names waiting : List String} {h : List Event}
    (hh : Toured names waiting h) :
    (h.filterMap skipped?).length + waiting.length ≤ names.length := by
  obtain ⟨started, parts, rfl, rfl, hparts⟩ := hh
  rw [List.length_append]
  refine Nat.add_le_add_right ?_ _
  induction hparts with
  | nil => exact Nat.le_refl 0
  | cons hpart _ ih =>
    rw [List.flatten_cons, List.filterMap_append, List.length_append, List.length_cons,
      Nat.add_comm]
    exact Nat.add_le_add ih hpart.skipped_length_le

namespace Roster

variable {names : List String} {r : Roster} {h : List Event}

/-- In every phase the history consists of visits. -/
lemma Consistent.toured (hr : r.Consistent names h) : Toured names r.waiting h := by
  obtain ⟨waiting, phase, failed⟩ := r
  cases phase with
  | between => exact hr
  | exhausted => exact hr
  | crawling name crawl =>
    obtain ⟨-, before, part, rfl, hbefore, hvisit, hquiet⟩ := hr
    exact hbefore.visit (StopsAtFailure.accounted (.inl hquiet) hvisit)

/-- What a turn leaves is consistent with the history, and if it says a record, it is crawling a
mailbox, to whose visit the record belongs. -/
def SaidConsistently (names : List String) (said : Turn Empty Record Roster) (h : List Event) :
    Prop :=
  said.rest.Consistent names h ∧
    ∀ record r', said = .value record r' → ∃ name crawl, r'.phase = .crawling name crawl

/-- Giving up on a mailbox ends the visit to it that has failed. -/
lemma skip_consistent {waiting : List String} {phase : RosterPhase} {failed : List MailboxFailure}
    {name : String} {before part : List Event} {e : Event} {failure : Failure} {step : Step}
    (hbefore : Toured names (name :: waiting) before) (hvisit : IsVisit name (part ++ [e]))
    (hquiet : Unfailed part) (he : failure? e = some failure) :
    ((⟨waiting, phase, failed⟩ : Roster).skip name (failure.during step)).Upholds (fun _ _ => True)
      (fun _ => True) (fun r h => r.phase = .between ∧ r.Consistent names h)
      (before ++ (part ++ [e])) := by
  have hskip : ∀ reply, IsVisit name
      (part ++ [e] ++ [⟨.note (.mailboxSkipped name (failure.during step)), reply⟩]) := fun reply =>
    hvisit.append (List.forall_mem_singleton.2 ⟨by simp, by rintro mailbox ⟨⟩⟩)
  refine ⟨trivial, fun reply _ => ⟨trivial, rfl, ?_⟩⟩
  rw [List.append_assoc before]
  refine hbefore.visit (StopsAtFailure.accounted (.inr ?_) (hskip reply))
  exact ⟨part, e, failure, step, hquiet, he, List.append_assoc _ _ _⟩

/-- A turn leaves the history consistent. -/
lemma turn_consistent (config : Config) (hr : r.Consistent names h) :
    (r.turn config).Upholds (fun _ _ => True) (fun _ => True)
      (SaidConsistently names) h := by
  obtain ⟨waiting, phase, failed⟩ := r
  cases phase with
  | exhausted => exact ⟨trivial, hr, fun _ _ hvalue => by cases hvalue⟩
  | between =>
    cases waiting with
    | nil => exact ⟨trivial, hr, fun _ _ hvalue => by cases hvalue⟩
    | cons name waiting =>
      obtain ⟨opening, hstart, hopening⟩ := MailboxCrawl.start_failsFast config name
      rw [turn, Program.upholds_bind, hstart]
      refine ⟨trivial, fun startedAt _ => ((hopening startedAt).upholds _).mono
        (fun _ _ => trivial) ?_⟩
      rintro opened _ - ⟨t, rfl, hcalls, hstopped⟩
      rw [List.append_assoc, List.singleton_append]
      have hclock : Unfailed [⟨.clock, startedAt⟩] := by simp [Unfailed, Fails]
      have hvisit : IsVisit name (⟨.clock, startedAt⟩ :: t) :=
        ⟨startedAt, t, rfl, fun e he => ⟨(hcalls e he).ne_clock, (hcalls e he).concerns⟩⟩
      rcases hstopped with ⟨⟨crawl, rfl, hcrawl⟩, hcalm⟩ |
        ⟨earlier, e, failure, step, rfl, hcalm, he, rfl⟩
      · exact ⟨trivial, ⟨hcrawl, h, _, rfl, hr, hvisit, hclock.append (unfailed_of hcalls hcalm)⟩,
          fun _ _ hvalue => by cases hvalue⟩
      · have hearlier := hclock.append
          (unfailed_of (fun e he => hcalls e (List.mem_append_left _ he)) hcalm)
        exact (Program.upholds_bind _ _ _).2 ((skip_consistent hr hvisit hearlier he).mono
          (fun _ _ => trivial) fun r h _ hskipped => ⟨trivial, hskipped.2,
            fun _ _ hvalue => by cases hvalue⟩)
  | crawling name crawl =>
    obtain ⟨hcrawl, before, part, rfl, hbefore, hvisit, hquiet⟩ := hr
    rw [turn, Program.upholds_bind]
    refine ((MailboxCrawl.turn_failsFast config crawl hcrawl).upholds _).mono
      (fun _ _ => trivial) ?_
    rintro said _ - ⟨t, rfl, hcalls, hstopped⟩
    rw [List.append_assoc]
    have hmore : IsVisit name (part ++ t) :=
      hvisit.append fun e he => ⟨(hcalls e he).ne_clock, (hcalls e he).concerns⟩
    rcases hstopped with ⟨hwent, hcalm⟩ | ⟨earlier, e, failure, step, rfl, hcalm, he, crawl', rfl⟩
    · have hgoes : Unfailed (part ++ t) := hquiet.append (unfailed_of hcalls hcalm)
      cases said with
      | value record crawl' =>
        exact ⟨trivial, ⟨hwent.2, before, _, rfl, hbefore, hmore, hgoes⟩,
          fun _ _ hvalue => by cases hvalue; exact ⟨name, crawl', rfl⟩⟩
      | failed failure crawl' => exact hwent.elim
      | ended crawl' =>
        exact ⟨trivial, hbefore.visit (StopsAtFailure.accounted (.inl hgoes) hmore),
          fun _ _ hvalue => by cases hvalue⟩
      | working crawl' =>
        exact ⟨trivial, ⟨hwent, before, _, rfl, hbefore, hmore, hgoes⟩,
          fun _ _ hvalue => by cases hvalue⟩
    · have hearlier := hquiet.append
        (unfailed_of (fun e he => hcalls e (List.mem_append_left _ he)) hcalm)
      rw [← List.append_assoc part]
      rw [← List.append_assoc part] at hmore
      exact (Program.upholds_bind _ _ _).2 ((skip_consistent hbefore hmore hearlier he).mono
        (fun _ _ => trivial) fun r h _ hskipped => ⟨trivial, hskipped.2,
          fun _ _ hvalue => by cases hvalue⟩)

/-- A record that is handed over belongs to the visit that goes on. -/
lemma Consistent.hand {name : String} {crawl : MailboxCrawl} (hr : r.Consistent names h)
    (hphase : r.phase = .crawling name crawl) (record : Record) (reply : Except Failure Unit) :
    r.Consistent names (h ++ [⟨.store record, reply⟩]) := by
  rw [Consistent, hphase] at hr ⊢
  obtain ⟨hcrawl, before, part, rfl, hbefore, hvisit, hquiet⟩ := hr
  have hstore := Call.ofMailbox_store record name
  refine ⟨hcrawl, before, part ++ [⟨.store record, reply⟩], List.append_assoc _ _ _, hbefore,
    ?_, ?_⟩
  · exact hvisit.append (List.forall_mem_singleton.2 ⟨hstore.ne_clock, hstore.concerns⟩)
  · exact hquiet.append (List.forall_mem_singleton.2 ⟨by simp [Fails], hstore.quiet⟩)

/-- Any number of pulls leave the history consistent. -/
lemma pulls_consistent (config : Config) (fuel count : ℕ) (hr : r.Consistent names h) :
    (pulls config fuel count r).Upholds (fun _ _ => True) (fun _ => True)
      (fun r h => r.Consistent names h) h := by
  refine pulls_keep (fun r h => r.Consistent names h) (fun r h hr => ?_) fuel count hr
  refine (turn_consistent config hr).mono (fun _ _ => trivial) fun said h _ hsaid => ?_
  obtain ⟨hrest, hcrawling⟩ := hsaid
  refine ⟨hrest, ?_⟩
  rintro record r rfl reply
  obtain ⟨name, crawl, hphase⟩ := hcrawling record r rfl
  exact Consistent.hand hrest hphase record reply

/-- What the visits have recorded is what they have written to the log as errors. -/
lemma logged_flatMap {started : List String} {parts : List (List Event)}
    (hparts : List.Forall₂ Accounted started parts) (elapsed : String) :
    parts.flatMap (·.filterMap (errorLine? elapsed)) =
      (parts.flatMap (·.filterMap skipped?)).map MailboxFailure.line := by
  induction hparts with
  | nil => rfl
  | cons hpart _ ih => simp only [List.flatMap_cons, List.map_append, hpart.logged elapsed, ih]

/-! ### The main result -/

/-- Exact accounting of failures.  After any number of pulls, if the items that were fetched have
dates that can be written, the calls of the crawl are cut into visits, one for each mailbox that was
started, in the order of the list; the others are the remaining ones.  Each visit stops at its first
failure and is accounted for.  The failures that the crawl has recorded are those of its visits, the
lines of its log that report errors are the lines of these failures, and what the pulls have said
are the records of all visits, those that failed included. -/
theorem failures_accounted (world : World σ) (config : Config) (names : List String)
    (fuel count : ℕ) (s : σ)
    (hdatable : ∀ items ∈
      ((pulls config fuel count (start names)).trace world s).filterMap fetched?,
      ∀ item ∈ items, datable item = true) :
    let h := (pulls config fuel count (start names)).trace world s
    ∃ r, ((pulls config fuel count (start names)).run world s).1 = .ok r ∧
      h = (visits h).flatten ∧ (visits h).length + r.remaining = names.length ∧
      List.Forall₂ Accounted (names.take (visits h).length) (visits h) ∧
      r.failures = (visits h).flatMap (·.filterMap skipped?) ∧
      (∀ elapsed, h.filterMap (errorLine? elapsed) = r.failures.map MailboxFailure.line) ∧
      ∀ said, answers world config fuel count (start names) s = some said →
        said.reduceOption = (visits h).flatMap (·.filterMap yielded?) := by
  intro h
  obtain ⟨r, hrun⟩ : ∃ r, ((pulls config fuel count (start names)).run world s).1 = .ok r := by
    cases hrun : ((pulls config fuel count (start names)).run world s).1 with
    | ok r => exact ⟨r, rfl⟩
    | error reason =>
      obtain ⟨items, hitems, item, hitem, hundatable⟩ :=
        (pulls_sturdy config fuel count (start names)).crash_iff.1 ⟨reason, hrun⟩
      rw [hdatable items hitems item hitem] at hundatable
      cases hundatable
  have hstart : (start names).Consistent names [] := ⟨[], [], rfl, rfl, .nil⟩
  have hconsistent := (pulls_consistent config fuel count hstart).run (admits_true _ _) hrun
  obtain ⟨started, parts, hnames, hflat, hparts⟩ := hconsistent.toured
  have hvisits : visits h = parts := by
    rw [show h = parts.flatten from hflat, visits_flatten (hparts.imp fun _ _ hpart => hpart.visit)]
  have hlength : started.length = parts.length := hparts.length_eq
  have hfailures : r.failures = h.filterMap skipped? :=
    (pulls_records config fuel count (h := []) rfl).run (admits_true _ _) hrun
  have hflatMap : ∀ {β : Type} (f : Event → Option β),
      h.filterMap f = parts.flatMap (·.filterMap f) := fun f => by
    rw [show h = parts.flatten from hflat, List.filterMap_flatten, List.flatMap_def]
  refine ⟨r, hrun, hvisits ▸ hflat, ?_, ?_, ?_, fun elapsed => ?_, fun said hsaid => ?_⟩
  · rw [hvisits, ← hlength, hnames, List.length_append, remaining]
  · rwa [hvisits, ← hlength, hnames, List.take_left]
  · rw [hvisits, hfailures, hflatMap]
  · rw [hfailures, hflatMap, hflatMap]
    exact logged_flatMap hparts elapsed
  · rw [hvisits, ← yielded_pulls hsaid, hflatMap]

/-- Two pulls from a list in which the mailbox that fails stands twice. -/
theorem failures_accounted_sample :
    ∃ r, ((pulls (Config.ofRequested 1 1) 9 2 (start ["down", "up", "down"])).run
        sampleWorld ()).1 = .ok r ∧
      List.Forall₂ Accounted ["down", "up", "down"] (visits ((pulls (Config.ofRequested 1 1) 9 2
        (start ["down", "up", "down"])).trace sampleWorld ())) ∧
      r.failures.map (·.mailbox) = ["down", "down"] := by
  have hfetched : ((pulls (Config.ofRequested 1 1) 9 2 (start ["down", "up", "down"])).trace
      sampleWorld ()).filterMap fetched? = [[{ id := { text := "i" } }]] := rfl
  obtain ⟨r, hrun, -, hcount, hparts, -, -, -⟩ := failures_accounted sampleWorld
    (Config.ofRequested 1 1) ["down", "up", "down"] 9 2 () (by rw [hfetched]; decide)
  have hfailures : r.failures.map (·.mailbox) = ["down", "down"] := by
    cases hrun
    rfl
  have hremaining : r.remaining = 0 := by
    cases hrun
    rfl
  rw [hremaining, Nat.add_zero] at hcount
  rw [hcount, List.take_length] at hparts
  exact ⟨r, hrun, hparts, hfailures⟩

end Roster

end MailCollector.Crawl
