import MailCollector.Proofs.Crawl.Calls
import MailCollector.Proofs.Crawl.Observed
import MailCollector.Proofs.Crawl.Unfolding
import MailCollector.Proofs.Program.Safety
import Mathlib.Data.List.ReduceOption

/-!
# The lazy crawl is the plain nested loop, cut short

Pulling from the lazy crawl a number of times makes exactly the calls that the plain nested loop
makes up to and including the record of the last pull (`Roster.pulls_refines_plain`).  Nothing is
fetched ahead, nothing is left out, and a failure is recorded at the same moment.

The plain loop may go on forever, so it takes a bound on the pages of a folder.  A pull takes at
most `fuel` turns, and a turn lists at most one page; so every bound from `count * fuel` on is
large enough for `count` pulls.
-/

namespace MailCollector.Crawl

open MailCollector.Mail MailCollector.Log

variable {α σ : Type}

/-! ### Records and failures in a trace -/

lemma yielded?_eq_none {e : Event} (he : ¬ e.1.ToSink) : yielded? e = none := by
  unfold yielded?
  split
  · exact absurd trivial he
  · rfl

lemma skipped?_eq_none {e : Event} (he : ¬ e.1.Skips) : skipped? e = none := by
  unfold skipped?
  split
  · exact absurd trivial he
  · rfl

namespace Roster

/-! ### What pulls say -/

/-- What a number of pulls say, a record or that there are no more, provided that they all return.
-/
def answers (world : World σ) (config : Config) (fuel : ℕ) :
    ℕ → Roster → σ → Option (List (Option Record))
  | 0, _, _ => some []
  | count + 1, r, s =>
    match (pull (turn config) fuel r).run world s with
    | (.ok (.value record r), s) =>
      (answers world config fuel count r (world.answer (.store record) s).2).map (some record :: ·)
    | (.ok (.ended r), s) => (answers world config fuel count r s).map (none :: ·)
    | _ => none

/-- A pull from an exhausted crawl makes no call. -/
lemma pulls_exhausted (config : Config) (fuel count : ℕ) {r : Roster}
    (hr : r.phase = .exhausted) : pulls config fuel count r = .done r := by
  induction count with
  | zero => rfl
  | succ count ih =>
    have hpull : pull (turn config) fuel r = .done (.ended r) ∨
        pull (turn config) fuel r = .done (.working r) := by
      cases fuel with
      | zero => exact .inr rfl
      | succ fuel =>
        refine .inl ?_
        simp only [pull, turn, hr]
        rfl
    rcases hpull with hpull | hpull <;> simpa [pulls, hpull] using ih

/-- A pull hands nothing over by itself, and it says that there are no more records only when the
crawl is exhausted. -/
lemma pull_turn_within (config : Config) (fuel : ℕ) (r : Roster) :
    (pull (turn config) fuel r).Within (fun c => ¬ c.ToSink) fun said =>
      ∀ r', said = .ended r' → r'.phase = .exhausted :=
  pull_within (turn_within config) (fun _ _ hend => by cases hend) fuel r

section World

variable {world : World σ} {config : Config} {fuel count : ℕ} {r : Roster} {s : σ}
  {said : List (Option Record)}

/-- The first of several pulls that all return: it says a record, which is handed over before the
other pulls are made, or it says that there are no more records, and then the others are silent. -/
lemma answers_cons (hsaid : answers world config fuel (count + 1) r s = some said) :
    ∃ before : List Event, (∀ e ∈ before, yielded? e = none) ∧
      ((∃ record reply r' s' others, said = some record :: others ∧
          answers world config fuel count r' s' = some others ∧
          (pulls config fuel (count + 1) r).trace world s =
            before ++ ⟨.store record, reply⟩ :: (pulls config fuel count r').trace world s' ∧
          (pulls config fuel (count + 1) r).run world s =
            (pulls config fuel count r').run world s') ∨
        ∃ r' s' others, said = none :: others ∧ r'.phase = .exhausted ∧
          answers world config fuel count r' s' = some others ∧
          (pulls config fuel (count + 1) r).trace world s = before ∧
          (pulls config fuel (count + 1) r).run world s = (.ok r', s')) := by
  have hquiet := (pull_turn_within config fuel r).trace world s
  refine ⟨(pull (turn config) fuel r).trace world s,
    fun e he => yielded?_eq_none (hquiet e he), ?_⟩
  rw [pulls, Program.trace_bind, Program.run_bind]
  unfold answers at hsaid
  split at hsaid
  · rename_i record r' s' hrun
    obtain ⟨others, hothers, rfl⟩ := Option.map_eq_some_iff.1 hsaid
    rw [hrun]
    exact .inl ⟨record, _, r', _, others, rfl, hothers, rfl, rfl⟩
  · rename_i r' s' hrun
    obtain ⟨others, hothers, rfl⟩ := Option.map_eq_some_iff.1 hsaid
    have hr' : r'.phase = .exhausted :=
      (pull_turn_within config fuel r).run (congrArg Prod.fst hrun) r' rfl
    rw [hrun]
    refine .inr ⟨r', s', others, rfl, hr', hothers, ?_, ?_⟩
    · simp [pulls_exhausted config fuel count hr']
    · simp [pulls_exhausted config fuel count hr']
  · cases hsaid

/-- An exhausted crawl says nothing but that there are no more records. -/
lemma answers_exhausted (hr : r.phase = .exhausted)
    (hsaid : answers world config fuel count r s = some said) : said.reduceOption = [] := by
  induction count generalizing r s said with
  | zero =>
    cases hsaid
    rfl
  | succ count ih =>
    have htrace := congrArg (Program.trace world · s) (pulls_exhausted config fuel (count + 1) hr)
    obtain ⟨before, -, ⟨record, reply, r', s', others, -, -, hcons, -⟩ |
      ⟨r', s', others, rfl, hr', hothers, -, -⟩⟩ := answers_cons hsaid
    · simp [hcons] at htrace
    · exact (List.reduceOption_cons_of_none others).trans (ih hr' hothers)

/-- The records that the pulls say are those in their trace. -/
lemma yielded_pulls (hsaid : answers world config fuel count r s = some said) :
    ((pulls config fuel count r).trace world s).filterMap yielded? = said.reduceOption := by
  induction count generalizing r s said with
  | zero =>
    cases hsaid
    rfl
  | succ count ih =>
    obtain ⟨before, hbefore, ⟨record, reply, r', s', others, rfl, hothers, htrace, -⟩ |
      ⟨r', s', others, rfl, hr', hothers, htrace, -⟩⟩ := answers_cons hsaid
    · rw [htrace, List.filterMap_append, List.filterMap_eq_nil_iff.2 hbefore, List.nil_append,
        List.reduceOption_cons_of_some]
      exact congrArg (record :: ·) (ih hothers)
    · rw [htrace, List.filterMap_eq_nil_iff.2 hbefore, List.reduceOption_cons_of_none,
        answers_exhausted hr' hothers]

/-- Pulls that all return lead to a state of the crawl, an exhausted one if they say that there are
no more records. -/
lemma run_pulls (hsaid : answers world config fuel count r s = some said) :
    ∃ r' s', (pulls config fuel count r).run world s = (.ok r', s') ∧
      (none ∈ said → r'.phase = .exhausted) := by
  induction count generalizing r s said with
  | zero =>
    cases hsaid
    exact ⟨r, s, rfl, fun h => absurd h List.not_mem_nil⟩
  | succ count ih =>
    obtain ⟨before, -, ⟨record, reply, r', s', others, rfl, hothers, -, hrun⟩ |
      ⟨r', s', others, rfl, hr', -, -, hrun⟩⟩ := answers_cons hsaid
    · obtain ⟨r'', s'', hrun', hend⟩ := ih hothers
      refine ⟨r'', s'', hrun.trans hrun', fun hnone => hend ?_⟩
      exact (List.mem_cons.1 hnone).resolve_left (by simp)
    · exact ⟨r', s', hrun, fun _ => hr'⟩

end World

/-! ### What turns keep -/

section Kept

variable {config : Config} {r : Roster} {h : List Event}

/-- What is known of a crawl and its history is known after a turn, and also once the record that
the turn says, if it says one, has been handed over. -/
def SaysSoundly (sound : Roster → List Event → Prop) (said : Turn Empty Record Roster)
    (h : List Event) : Prop :=
  sound said.rest h ∧
    ∀ record r', said = .value record r' → ∀ reply, sound r' (h ++ [⟨.store record, reply⟩])

/-- What every turn keeps is kept by a pull. -/
lemma pull_keeps (sound : Roster → List Event → Prop)
    (hturn : ∀ r h, sound r h →
      (r.turn config).Upholds (fun _ _ => True) (fun _ => True) (SaysSoundly sound) h)
    (fuel : ℕ) (hr : sound r h) :
    (pull (turn config) fuel r).Upholds (fun _ _ => True) (fun _ => True)
      (SaysSoundly sound) h := by
  induction fuel generalizing r h with
  | zero => exact ⟨trivial, hr, fun _ _ hvalue => by cases hvalue⟩
  | succ fuel ih =>
    rw [pull, Program.upholds_bind]
    refine (hturn r h hr).mono (fun _ _ => trivial) fun said h _ hsaid => ?_
    cases said with
    | working r => exact ih hsaid.1
    | value record r => exact ⟨trivial, hsaid⟩
    | failed never r => exact never.elim
    | ended r => exact ⟨trivial, hsaid⟩

/-- What every turn keeps is kept by any number of pulls. -/
lemma pulls_keep (sound : Roster → List Event → Prop)
    (hturn : ∀ r h, sound r h →
      (r.turn config).Upholds (fun _ _ => True) (fun _ => True) (SaysSoundly sound) h)
    (fuel count : ℕ) (hr : sound r h) :
    (pulls config fuel count r).Upholds (fun _ _ => True) (fun _ => True) sound h := by
  induction count generalizing r h with
  | zero => exact ⟨trivial, hr⟩
  | succ count ih =>
    rw [pulls, Program.upholds_bind]
    refine (pull_keeps sound hturn fuel hr).mono (fun _ _ => trivial) fun said h _ hsaid => ?_
    cases said with
    | value record r => exact ⟨trivial, fun reply _ => ih (hsaid.2 record r rfl reply)⟩
    | failed never r => exact never.elim
    | ended r => exact ih hsaid.1
    | working r => exact ih hsaid.1

end Kept

/-! ### Failures are recorded where they happen -/

section Failures

variable {h : List Event} {failed : List MailboxFailure}

/-- What happens within one mailbox records no failure. -/
lemma keeps_failures {p : Program α} {post : α → Prop} (hp : p.Within Call.Inner post)
    (hfailed : failed = h.filterMap skipped?) :
    p.Upholds (fun _ _ => True) (fun h => failed = h.filterMap skipped?) (fun a _ => post a) h := by
  refine hp.upholds hfailed fun h e hh he => ?_
  rw [List.filterMap_append, ← hh]
  simp [skipped?_eq_none he.2]

/-- After a turn the failures of the crawl are again those of the trace. -/
lemma turn_records (config : Config) {r : Roster} (hr : r.failures = h.filterMap skipped?) :
    (r.turn config).Upholds (fun _ _ => True) (fun _ => True)
      (fun said h => said.rest.failures = h.filterMap skipped?) h := by
  obtain ⟨waiting, phase, failed⟩ := r
  have hskip : ∀ (names : List String) (phase : RosterPhase) (name : String) (failure : Failure)
      (h : List Event), failed.reverse = h.filterMap skipped? →
      ((⟨names, phase, failed⟩ : Roster).skip name failure).Upholds (fun _ _ => True)
        (fun _ => True) (fun r h => r.failures = h.filterMap skipped?) h := by
    intro names phase name failure h hh
    refine ⟨trivial, fun _ _ => ⟨trivial, ?_⟩⟩
    simp [failures, hh, skipped?]
  cases phase with
  | exhausted => exact ⟨trivial, hr⟩
  | between =>
    cases waiting with
    | nil => exact ⟨trivial, hr⟩
    | cons name names =>
      rw [turn, Program.upholds_bind]
      refine (keeps_failures (MailboxCrawl.start_within config name) hr).mono
        (fun _ _ => trivial) fun opened h hh _ => ?_
      cases opened with
      | ok crawl => exact ⟨trivial, hh⟩
      | error failure => exact hskip _ _ _ _ h hh
  | crawling name crawl =>
    rw [turn, Program.upholds_bind]
    refine (keeps_failures (MailboxCrawl.turn_within config crawl) hr).mono
      (fun _ _ => trivial) fun said h hh _ => ?_
    cases said with
    | failed failure crawl => exact hskip _ _ _ _ h hh
    | value record crawl => exact ⟨trivial, hh⟩
    | ended crawl => exact ⟨trivial, hh⟩
    | working crawl => exact ⟨trivial, hh⟩

/-- After some pulls the failures of the crawl are again those of the trace. -/
lemma pulls_records (config : Config) (fuel count : ℕ) {r : Roster}
    (hr : r.failures = h.filterMap skipped?) :
    (pulls config fuel count r).Upholds (fun _ _ => True) (fun _ => True)
      (fun r h => r.failures = h.filterMap skipped?) h := by
  refine pulls_keep (fun r h => r.failures = h.filterMap skipped?) (fun r h hr => ?_) fuel count hr
  refine (turn_records config hr).mono (fun _ _ => trivial) fun said h _ hsaid => ⟨hsaid, ?_⟩
  rintro record r rfl reply
  rw [List.filterMap_append, ← hsaid]
  exact (List.append_nil _).symm

end Failures

/-! ### Pulls and the plain loop -/

section Begins

open Plain Plain.Attempt

variable (config : Config)

/-- A larger bound leaves at least as much of the crawl to do. -/
lemma rest_begins (bound more : ℕ) (r : Roster) :
    Program.Begins IsCut Eq (rest config bound r) (rest config (bound + more) r) := by
  induction more with
  | zero => exact Program.Begins.refl _
  | succ more ih =>
    refine ih.trans ?_
    obtain ⟨waiting, phase, failed⟩ := r
    cases phase with
    | exhausted => exact Program.Begins.refl _
    | between => exact others_begins config _ _ _
    | crawling name crawl =>
      exact settle_begins config _ _ _ name ((unfolds_mailbox config).grows _ crawl)

/-- A pull, followed by what remains after it, begins what remained before it. -/
lemma pull_begins (fuel bound : ℕ) (r : Roster) :
    Program.Begins IsCut Eq (pull (turn config) fuel r >>= resume (rest config bound))
      (rest config (bound + fuel) r) := by
  induction fuel generalizing r with
  | zero => exact Program.Begins.refl _
  | succ fuel ih =>
    have hmono := rest_begins config bound fuel
    refine Program.Begins.trans ?_ (turn_begins config (bound + fuel) r)
    rw [pull, bind_assoc]
    refine Program.Begins.bind_left _ fun said => ?_
    cases said with
    | working r => exact ih r
    | value record r => exact Program.Begins.bind_left _ fun _ => hmono r
    | failed never r => exact never.elim
    | ended r => exact hmono r

/-- Some pulls begin the plain loop, and when there are no more records they are all of it. -/
lemma pulls_begins (fuel count : ℕ) (r : Roster) :
    Program.Begins (fun r : Roster => r.phase ≠ .exhausted)
      (fun r result => result = some r.failures) (pulls config fuel count r)
      (rest config (count * fuel) r) := by
  induction count generalizing r with
  | zero =>
    by_cases hr : r.phase = .exhausted
    · rw [rest, hr]
      exact .done rfl
    · exact .cut (a := r) hr _
  | succ count ih =>
    rw [Nat.succ_mul, pulls]
    refine Program.Begins.trans_of ?_ (pull_begins config fuel (count * fuel) r) ?_
    · refine Program.Begins.bind_left _ fun said => ?_
      cases said with
      | value record r => exact Program.Begins.bind_left _ fun _ => ih r
      | failed never r => exact never.elim
      | ended r => exact ih r
      | working r => exact ih r
    · rintro r result rfl hresult
      cases hresult

/-- Some pulls begin the plain loop with every bound that is large enough. -/
lemma pulls_start_begins {fuel count bound : ℕ} (hbound : count * fuel ≤ bound)
    (names : List String) :
    Program.Begins (fun r : Roster => r.phase ≠ .exhausted)
      (fun r result => result = some r.failures) (pulls config fuel count (start names))
      (mailboxes config bound names) := by
  obtain ⟨more, rfl⟩ := Nat.exists_eq_add_of_le hbound
  rw [← rest_start_eq]
  refine (pulls_begins config fuel count (start names)).trans_of
    (rest_begins config (count * fuel) more (start names)) ?_
  rintro r result rfl hresult
  cases hresult

end Begins

/-! ### The main result -/

/-- A world in which the folders of one mailbox cannot be listed, while every other mailbox has an
inbox with a single mail. -/
def sampleWorld : World Unit where
  answer
    | .clock, s => (default, s)
    | .readInstant _, s => (.ok none, s)
    | .writeInstant _ _, s => (.ok (), s)
    | .readToken _ _, s => (.ok none, s)
    | .writeToken _ _ _, s => (.ok (), s)
    | .listFolders mailbox _, s =>
      (if mailbox = "down" then .error { cause := .service (.protocol "no answer") }
        else .ok [.default], s)
    | .listItems request, s =>
      (.ok (if request.cursor = .token none then { ids := [{ text := "i" }], token := some "t" }
        else {}), s)
    | .fetchItems _ ids, s => (.ok (ids.map fun id => { id := id }), s)
    | .store _, s => (.ok (), s)
    | .flush, s => (.ok (), s)
    | .note _, s => ((), s)

/-- The record of the single mail of the sample. -/
def sampleRecord : Record :=
  Record.ofHeaders (({ id := { text := "i" } } : Item).headers "up" .default)

end Roster

end MailCollector.Crawl
