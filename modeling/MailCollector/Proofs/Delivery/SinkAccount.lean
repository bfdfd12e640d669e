import MailCollector.Proofs.Crawl.FailureLog
import MailCollector.Proofs.Crawl.Turns
import MailCollector.Proofs.Delivery.FlushOrder

/-!
# A run fails exactly when its sink does

A run meets two kinds of failures.  Those of the mail service and of the checkpoints end the crawl
of a mailbox and are reported with the others at the end; those of the sink end the run at once.  So
a run of a crawl that ends makes the calls of the crawl up to the first record that is refused, and
if there is none, it flushes the sink and is finished if this succeeds (`Ends`).  It is finished if
and only if the sink did not fail, and then the sink has accepted each record of the crawl once, in
order (`collect_accounts`).

The crawl and the run are compared in the same world, which answers the calls for the sink too.  The
crawl ignores these answers.
-/

namespace MailCollector.Crawl

open MailCollector.Mail MailCollector.Log Roster

variable {σ : Type}

/-! ### How a run goes on after a pull -/

section AfterTurn

variable (config : Config) (total fuel stored : ℕ)

/-- What a run does after a turn of the crawl. -/
def afterTurn : Turn Empty Record Roster → Program Outcome
  | .working r => drain config total fuel stored r
  | .value record r => do
    match ← Program.ask (.store record) with
    | .error failure => pure (.sinkFailed (failure.during (.storingRecord (stored + 1))))
    | .ok () => drain config total fuel (stored + 1) r
  | .ended r => do
    match ← Program.ask .flush with
    | .error failure => pure (.sinkFailed (failure.during .flushingSink))
    | .ok () => do
      Program.note (.collected stored total r.failed.length)
      pure (.finished ⟨total, stored, r.failures⟩)
  | .failed never _ => nomatch never

lemma drain_succ (r : Roster) :
    drain config total (fuel + 1) stored r =
      r.turn config >>= afterTurn config total fuel stored := by
  rw [drain]
  refine congrArg (r.turn config >>= ·) (funext fun said => ?_)
  cases said <;> rfl

end AfterTurn

section Pull

variable {config : Config} {fuel : ℕ} {r : Roster} {world : World σ} {s s' : σ}
  {said : Turn Empty Record Roster}

/-- A pull that says something is made by a run in some number of turns. -/
lemma drain_pull (total stored : ℕ)
    (hrun : (pull (turn config) fuel r).run world s = (.ok said, s'))
    (hsaid : ∀ r', said ≠ .working r') : ∃ turns, ∀ more,
      (drain config total (turns + more) stored r).trace world s =
        (pull (turn config) fuel r).trace world s ++
          (afterTurn config total more stored said).trace world s' ∧
      (drain config total (turns + more) stored r).run world s =
        (afterTurn config total more stored said).run world s' := by
  induction fuel generalizing r s with
  | zero =>
    cases hrun
    exact absurd rfl (hsaid r)
  | succ fuel ih =>
    rw [pull, Program.run_bind] at hrun
    rw [pull, Program.trace_bind]
    cases hturn : (r.turn config).run world s with
    | mk outcome s₁ =>
      rw [hturn] at hrun
      cases outcome with
      | error reason => cases hrun
      | ok told =>
        -- One turn of the run, whatever follows.
        have hfirst : ∀ more, (drain config total (more + 1) stored r).trace world s =
              (r.turn config).trace world s ++
                (afterTurn config total more stored told).trace world s₁ ∧
            (drain config total (more + 1) stored r).run world s =
              (afterTurn config total more stored told).run world s₁ := fun more => by
          rw [drain_succ, Program.trace_bind, Program.run_bind, hturn]
          exact ⟨rfl, rfl⟩
        cases told with
        | working r₁ =>
          obtain ⟨turns, hturns⟩ := ih hrun
          refine ⟨turns + 1, fun more => ?_⟩
          rw [Nat.add_right_comm, (hfirst _).1, (hfirst _).2, List.append_assoc]
          exact ⟨congrArg _ (hturns more).1, (hturns more).2⟩
        | value record r₁ =>
          cases hrun
          exact ⟨1, fun more => by simpa [Nat.add_comm 1 more] using hfirst more⟩
        | failed never r₁ => exact never.elim
        | ended r₁ =>
          cases hrun
          exact ⟨1, fun more => by simpa [Nat.add_comm 1 more] using hfirst more⟩

end Pull

/-! ### How a run ends -/

/-- How a run ends that has stored some records before, if the crawl goes on with the calls `t` and
leaves these failures: with a flush of the sink that succeeds, with one that fails, or with the
first record that is refused. -/
inductive Ends (total stored : ℕ) (t : List Event) (failures : List MailboxFailure) :
    List Event → Outcome → Prop
  | flushed (n : ℕ) (hn : n = stored + (t.filterMap yielded?).length)
      (ht : ∀ e ∈ t, ¬ Refused e) :
      Ends total stored t failures
        (t ++ [⟨.flush, .ok ()⟩, ⟨.note (.collected n total failures.length), ()⟩])
        (.finished ⟨total, n, failures⟩)
  | unflushed (failure : Failure) (ht : ∀ e ∈ t, ¬ Refused e) :
      Ends total stored t failures (t ++ [⟨.flush, .error failure⟩])
        (.sinkFailed (failure.during .flushingSink))
  | refused (before after : List Event) (record : Record) (failure : Failure) (n : ℕ)
      (hn : n = stored + (before.filterMap yielded?).length + 1)
      (hbefore : ∀ e ∈ before, ¬ Refused e)
      (ht : t = before ++ ⟨.store record, .error failure⟩ :: after) :
      Ends total stored t failures (before ++ [⟨.store record, .error failure⟩])
        (.sinkFailed (failure.during (.storingRecord n)))

/-- Calls that do not go to the sink hand nothing over and flush nothing. -/
lemma aside_of_sink {t : List Event} (ht : ∀ e ∈ t, ¬ e.1.ToSink) :
    (∀ e ∈ t, ¬ Refused e) ∧ t.filterMap yielded? = [] ∧ Flushless t := by
  refine ⟨fun e he => not_refused (ht e he),
    List.filterMap_eq_nil_iff.2 fun e he => yielded?_eq_none (ht e he), fun e he hflush => ?_⟩
  refine ht e he ?_
  rw [hflush]
  trivial

section Ends

variable {total stored : ℕ} {t : List Event} {failures : List MailboxFailure} {h : List Event}
  {outcome : Outcome}

/-- Calls before, among them no record that is refused, change how a run ends only in the number of
records. -/
lemma Ends.after {before : List Event} (hbefore : ∀ e ∈ before, ¬ Refused e)
    (hends : Ends total (stored + (before.filterMap yielded?).length) t failures h outcome) :
    Ends total stored (before ++ t) failures (before ++ h) outcome := by
  have hcount : ∀ u : List Event, stored + ((before ++ u).filterMap yielded?).length =
      stored + (before.filterMap yielded?).length + (u.filterMap yielded?).length := fun u => by
    rw [List.filterMap_append, List.length_append, Nat.add_assoc]
  cases hends with
  | flushed n hn ht =>
    rw [← List.append_assoc]
    exact .flushed n (hn.trans (hcount t).symm) (List.forall_mem_append.2 ⟨hbefore, ht⟩)
  | unflushed failure ht =>
    rw [← List.append_assoc]
    exact .unflushed failure (List.forall_mem_append.2 ⟨hbefore, ht⟩)
  | refused earlier after record failure n hn hearlier ht =>
    rw [← List.append_assoc]
    refine .refused (before ++ earlier) after record failure n ?_
      (List.forall_mem_append.2 ⟨hbefore, hearlier⟩) ?_
    · rw [hn, hcount earlier]
    · rw [ht, List.append_assoc]

/-- Where no record is refused, all of them are accepted. -/
lemma accepted_eq_yielded (ht : ∀ e ∈ t, ¬ Refused e) :
    t.filterMap accepted? = t.filterMap yielded? := by
  refine List.filterMap_congr fun e he => ?_
  obtain ⟨c, reply⟩ := e
  cases c with
  | store record =>
    cases reply with
    | error failure => exact absurd trivial (ht _ he)
    | ok _ => rfl
  | _ => rfl

/-- The sink does not fail where no record is refused and no flush is tried. -/
lemma not_sinkFails (ht : ∀ e ∈ t, ¬ Refused e) (hflushless : Flushless t) :
    ∀ e ∈ t, ¬ SinkFails e := by
  rintro ⟨c, reply⟩ he
  cases c with
  | store record =>
    cases reply with
    | error failure => exact absurd trivial (ht _ he)
    | ok _ => exact id
  | flush => exact absurd rfl (hflushless _ he)
  | _ => exact id

/-- A run that has come to an end is finished, or its sink failed. -/
lemma Ends.outcome_iff (hends : Ends total stored t failures h outcome) (ht : Flushless t) :
    ((∃ summary, outcome = .finished summary) ↔ ∀ e ∈ h, ¬ SinkFails e) ∧
      ((∃ failure, outcome = .sinkFailed failure) ↔ ∃ e ∈ h, SinkFails e) := by
  -- A run whose last call is a failure of the sink is not finished.
  have hstopped : ∀ before e failure, SinkFails e → h = before ++ [e] →
      outcome = .sinkFailed failure →
      ((∃ summary, outcome = .finished summary) ↔ ∀ e ∈ h, ¬ SinkFails e) ∧
        ((∃ failure, outcome = .sinkFailed failure) ↔ ∃ e ∈ h, SinkFails e) := by
    rintro before e failure he rfl rfl
    have hmem : e ∈ before ++ [e] := List.mem_append_right _ List.mem_cons_self
    refine ⟨iff_of_false ?_ fun hcalm => hcalm e hmem he, iff_of_true ⟨_, rfl⟩ ⟨e, hmem, he⟩⟩
    rintro ⟨summary, ⟨⟩⟩
  cases hends with
  | flushed n hn haccepted =>
    have hcalm : ∀ e ∈ t ++ [⟨.flush, .ok ()⟩,
        ⟨.note (.collected n total failures.length), ()⟩], ¬ SinkFails e :=
      List.forall_mem_append.2 ⟨not_sinkFails haccepted ht, by simp [SinkFails]⟩
    refine ⟨iff_of_true ⟨_, rfl⟩ hcalm, iff_of_false ?_ ?_⟩
    · rintro ⟨failure, ⟨⟩⟩
    · rintro ⟨e, he, hfails⟩
      exact hcalm e he hfails
  | unflushed failure haccepted =>
    exact hstopped t ⟨.flush, .error failure⟩ _ trivial rfl rfl
  | refused before after record failure n hn hbefore hsplit =>
    exact hstopped before ⟨.store record, .error failure⟩ _ trivial rfl rfl

/-- The records that a run hands over are the first ones of the crawl. -/
lemma Ends.handed (hends : Ends total stored t failures h outcome) :
    h.filterMap yielded? <+: t.filterMap yielded? := by
  cases hends with
  | flushed n hn haccepted => simp [List.filterMap_cons, yielded?]
  | unflushed failure haccepted => simp [List.filterMap_cons, yielded?]
  | refused before after record failure n hn hbefore hsplit =>
    rw [hsplit]
    exact List.IsPrefix.filterMap yielded? ⟨after, by simp⟩

end Ends

section Pulls

variable {config : Config} {fuel count : ℕ} {r r₁ : Roster} {world : World σ} {s s₁ : σ}

/-- Pulls of which the first says a record. -/
lemma pulls_value {record : Record}
    (hpull : (pull (turn config) fuel r).run world s = (.ok (.value record r₁), s₁)) :
    (pulls config fuel (count + 1) r).trace world s =
      (pull (turn config) fuel r).trace world s ++
        ⟨.store record, (world.answer (.store record) s₁).1⟩ ::
          (pulls config fuel count r₁).trace world (world.answer (.store record) s₁).2 ∧
    (pulls config fuel (count + 1) r).run world s =
      (pulls config fuel count r₁).run world (world.answer (.store record) s₁).2 := by
  rw [pulls, Program.trace_bind, Program.run_bind, hpull]
  exact ⟨rfl, rfl⟩

/-- Pulls of which the first says that there are no more records. -/
lemma pulls_ended (hpull : (pull (turn config) fuel r).run world s = (.ok (.ended r₁), s₁)) :
    (pulls config fuel (count + 1) r).trace world s = (pull (turn config) fuel r).trace world s ∧
    (pulls config fuel (count + 1) r).run world s = (.ok r₁, s₁) := by
  have hexhausted : r₁.phase = .exhausted :=
    (pull_turn_within config fuel r).run (congrArg Prod.fst hpull) r₁ rfl
  rw [pulls, Program.trace_bind, Program.run_bind, hpull]
  dsimp only
  rw [pulls_exhausted config fuel count hexhausted, Program.trace_done, List.append_nil]
  exact ⟨rfl, rfl⟩

/-- A run of a crawl that ends comes to one of its ends, if it takes turns enough. -/
theorem drain_ends {left : Roster} {said : List (Option Record)} (total stored : ℕ)
    (hsaid : answers world config fuel count r s = some said) (hend : none ∈ said)
    (hrun : ((pulls config fuel count r).run world s).1 = .ok left) :
    ∃ turns, ∀ more, ∃ outcome,
      ((drain config total (turns + more) stored r).run world s).1 = .ok outcome ∧
      Ends total stored ((pulls config fuel count r).trace world s) left.failures
        ((drain config total (turns + more) stored r).trace world s) outcome := by
  induction count generalizing r s said stored with
  | zero =>
    cases hsaid
    cases hend
  | succ count ih =>
    obtain ⟨hquiet, hnone, -⟩ := aside_of_sink ((pull_turn_within config fuel r).trace world s)
    unfold answers at hsaid
    split at hsaid
    · rename_i record r₁ s₁ hpull
      obtain ⟨others, hothers, rfl⟩ := Option.map_eq_some_iff.1 hsaid
      obtain ⟨turns, hturns⟩ := drain_pull total stored hpull (by simp)
      rw [(pulls_value hpull).2] at hrun
      rw [(pulls_value hpull).1]
      cases hreply : (world.answer (.store record) s₁).1 with
      | error failure =>
        refine ⟨turns, fun more => ⟨.sinkFailed (failure.during (.storingRecord (stored + 1))), ?_⟩⟩
        rw [(hturns more).1, (hturns more).2, afterTurn, Program.ask_bind, Program.run_call,
          Program.trace_call, hreply]
        exact ⟨rfl, .refused _ _ record failure _ (by rw [hnone]; rfl) hquiet rfl⟩
      | ok _ =>
        obtain ⟨others, hgo⟩ := ih (stored + 1) hothers
          ((List.mem_cons.1 hend).resolve_left (by simp)) hrun
        refine ⟨turns + others, fun more => ?_⟩
        obtain ⟨outcome, houtcome, hends⟩ := hgo more
        refine ⟨outcome, ?_⟩
        rw [Nat.add_assoc, (hturns _).1, (hturns _).2, afterTurn, Program.ask_bind,
          Program.run_call, Program.trace_call, hreply]
        refine ⟨houtcome, Ends.after hquiet ?_⟩
        rw [hnone]
        exact Ends.after (List.forall_mem_singleton.2 id) hends
    · rename_i r₁ s₁ hpull
      obtain ⟨others, hothers, rfl⟩ := Option.map_eq_some_iff.1 hsaid
      obtain ⟨turns, hturns⟩ := drain_pull total stored hpull (by simp)
      rw [(pulls_ended hpull).2] at hrun
      rw [(pulls_ended hpull).1]
      cases hrun
      refine ⟨turns, fun more => ?_⟩
      rw [(hturns more).1, (hturns more).2, afterTurn, Program.ask_bind, Program.run_call,
        Program.trace_call]
      cases (world.answer .flush s₁).1 with
      | error failure => exact ⟨_, rfl, .unflushed failure hquiet⟩
      | ok _ =>
        have hlength : left.failed.length = left.failures.length := List.length_reverse.symm
        refine ⟨.finished ⟨total, stored, left.failures⟩, rfl, ?_⟩
        rw [Program.note_bind, Program.trace_call, hlength]
        exact .flushed stored (by rw [hnone]; rfl) hquiet
    · cases hsaid

end Pulls

/-! ### The first record that is refused -/

/-- No record was refused, or the last call is the first one of which the record was refused, and
this is what a run reports that had stored some records before. -/
def StopsAtRefusal (stored : ℕ) (t : List Event) (outcome : Except Crash Outcome) : Prop :=
  (∀ e ∈ t, ¬ Refused e) ∨
    ∃ before record failure, (∀ e ∈ before, ¬ Refused e) ∧ Flushless before ∧
      t = before ++ [⟨.store record, .error failure⟩] ∧
      outcome = .ok (.sinkFailed (failure.during
        (.storingRecord (stored + (before.filterMap yielded?).length + 1))))

/-- Calls before, among them no flush and no record that is refused. -/
lemma StopsAtRefusal.after {stored : ℕ} {u t : List Event} {outcome : Except Crash Outcome}
    (hu : ∀ e ∈ u, ¬ Refused e) (hflushless : Flushless u)
    (ht : StopsAtRefusal (stored + (u.filterMap yielded?).length) t outcome) :
    StopsAtRefusal stored (u ++ t) outcome := by
  rcases ht with ht | ⟨before, record, failure, hbefore, hbeforeFlushless, rfl, rfl⟩
  · exact .inl (List.forall_mem_append.2 ⟨hu, ht⟩)
  · refine .inr ⟨u ++ before, record, failure, List.forall_mem_append.2 ⟨hu, hbefore⟩,
      List.forall_mem_append.2 ⟨hflushless, hbeforeFlushless⟩, (List.append_assoc _ _ _).symm, ?_⟩
    rw [List.filterMap_append, List.length_append, Nat.add_assoc stored]

/-- A list that ends with the first record that is refused is split at a refused record only there.
-/
lemma split_refused {before before' after : List Event} {e e' : Event}
    (hbefore' : ∀ e ∈ before', ¬ Refused e) (he : Refused e)
    (hsplit : before' ++ [e'] = before ++ e :: after) : before' = before ∧ e' = e ∧ after = [] := by
  rcases List.append_eq_append_iff.1 hsplit with ⟨between, rfl, hrest⟩ | ⟨between, rfl, hrest⟩
  · cases between with
    | nil =>
      obtain ⟨rfl, rfl⟩ := List.cons.inj hrest
      exact ⟨(List.append_nil _).symm, rfl, rfl⟩
    | cons e'' between => simp at hrest
  · cases between with
    | nil =>
      obtain ⟨rfl, rfl⟩ := List.cons.inj hrest
      exact ⟨List.append_nil _, rfl, rfl⟩
    | cons e'' between =>
      obtain ⟨rfl, -⟩ := List.cons.inj hrest
      exact absurd he (hbefore' _ (by simp))

/-- A run stops at the first record that is refused. -/
theorem drain_stops (config : Config) (total fuel stored : ℕ) (r : Roster) (world : World σ)
    (s : σ) : StopsAtRefusal stored ((drain config total fuel stored r).trace world s)
      ((drain config total fuel stored r).run world s).1 := by
  induction fuel generalizing stored r s with
  | zero => exact .inl fun _ he => by cases he
  | succ fuel ih =>
    obtain ⟨hquiet, hnone, hflushless⟩ := aside_of_sink ((turn_within config r).trace world s)
    rw [drain_succ, Program.trace_bind, Program.run_bind]
    refine StopsAtRefusal.after hquiet hflushless ?_
    rw [hnone]
    rcases (r.turn config).run world s with ⟨_ | said, s'⟩
    · exact .inl fun _ he => by cases he
    cases said with
    | working r' => exact ih stored r' s'
    | failed never r' => exact never.elim
    | value record r' =>
      dsimp only
      rw [afterTurn, Program.ask_bind, Program.run_call, Program.trace_call]
      cases (world.answer (.store record) s').1 with
      | error failure => exact .inr ⟨[], record, failure, by simp, by simp [Flushless], rfl, rfl⟩
      | ok _ =>
        refine StopsAtRefusal.after (u := [⟨.store record, .ok ()⟩])
          (List.forall_mem_singleton.2 id) (by simp [Flushless]) ?_
        exact ih (stored + 1) r' _
    | ended r' =>
      dsimp only
      rw [afterTurn, Program.ask_bind, Program.trace_call]
      refine .inl (List.forall_mem_cons.2 ⟨id, ?_⟩)
      cases (world.answer .flush s').1 with
      | error failure => exact fun _ he => by cases he
      | ok _ => exact List.forall_mem_singleton.2 id

/-- What a finished run has done, if the crawl says these records and leaves these failures. -/
structure DeliveredAll (names : List String) (said : List (Option Record))
    (failures : List MailboxFailure) (h : List Event) (summary : Summary) : Prop where
  /-- The sink was handed each record of the crawl once, in order. -/
  handed : h.filterMap yielded? = said.reduceOption
  /-- It accepted all of them. -/
  accepted : h.filterMap accepted? = said.reduceOption
  /-- After that it was flushed, once. -/
  flushed : ∃ before, Flushless before ∧ h = before ++ [⟨.flush, .ok ()⟩,
    ⟨.note (.collected summary.stored summary.mailboxes summary.failures.length), ()⟩]
  mailboxes : summary.mailboxes = names.length
  stored : summary.stored = said.reduceOption.length
  failures : summary.failures = failures
  failures_le : summary.failures.length ≤ names.length

/-- A run that is finished has delivered what the crawl says. -/
lemma Ends.delivered {names : List String} {said : List (Option Record)} {t h : List Event}
    {failures : List MailboxFailure} {summary : Summary}
    (hends : Ends names.length 0 t failures h (.finished summary)) (ht : Flushless t)
    (hsaid : t.filterMap yielded? = said.reduceOption) (hle : failures.length ≤ names.length) :
    DeliveredAll names said failures h summary := by
  cases hends with
  | flushed n hn haccepted =>
    rw [hsaid, Nat.zero_add] at hn
    refine ⟨?_, ?_, ⟨t, ht, rfl⟩, rfl, hn, rfl, hle⟩
    · simp [hsaid, List.filterMap_cons, yielded?]
    · simp [accepted_eq_yielded haccepted, hsaid, List.filterMap_cons, accepted?]

/-- Pulls do not flush the sink. -/
lemma pulls_flushless (config : Config) (fuel count : ℕ) (r : Roster) (world : World σ) (s : σ) :
    Flushless ((pulls config fuel count r).trace world s) := by
  have hpulls : (pulls config fuel count r).Within (· ≠ .flush) fun _ => True := by
    induction count generalizing r with
    | zero => trivial
    | succ count ih =>
      refine ((pull_turn_within config fuel r).mono (fun c hc => ?_)
        fun _ _ => trivial).bind fun said _ => ?_
      · rintro rfl
        exact hc trivial
      cases said with
      | value record r' => exact ⟨by simp, fun _ => ih r'⟩
      | failed never r' => exact never.elim
      | ended r' => exact ih r'
      | working r' => exact ih r'
  exact hpulls.trace world s

/-- The run fails exactly when the sink does, and accounts for every record.

Whenever the sink refuses a record, this is the last call of the run: no flush was tried, all
records before were accepted, and the run fails with the failure of the sink and the number of the
record.  If the crawl ends, having said some records and left some failures, so does the run, in all
but finitely many numbers of turns: it is finished if and only if the sink did not fail, and
fails if and only if it did.  It hands over the first records of the crawl, and when it is finished,
all of them were delivered. -/
theorem collect_accounts (world : World σ) (config : Config) (names : List String) (s : σ) :
    (∀ fuel before record failure after,
      (collect config fuel names).trace world s =
        before ++ ⟨.store record, .error failure⟩ :: after →
      after = [] ∧ Flushless before ∧ before.filterMap accepted? = before.filterMap yielded? ∧
      ((collect config fuel names).run world s).1 = .ok (.sinkFailed (failure.during
        (.storingRecord ((before.filterMap accepted?).length + 1))))) ∧
    ∀ bound count said left, answers world config bound count (start names) s = some said →
      none ∈ said → ((pulls config bound count (start names)).run world s).1 = .ok left →
      ∃ turns, ∀ fuel, turns ≤ fuel → ∃ outcome,
        ((collect config fuel names).run world s).1 = .ok outcome ∧
        ((∃ summary, outcome = .finished summary) ↔
          ∀ e ∈ (collect config fuel names).trace world s, ¬ SinkFails e) ∧
        ((∃ failure, outcome = .sinkFailed failure) ↔
          ∃ e ∈ (collect config fuel names).trace world s, SinkFails e) ∧
        ((collect config fuel names).trace world s).filterMap yielded? <+: said.reduceOption ∧
        ∀ summary, outcome = .finished summary → DeliveredAll names said left.failures
          ((collect config fuel names).trace world s) summary := by
  refine ⟨fun fuel before record failure after hsplit => ?_,
    fun bound count said left hsaid hend hrun => ?_⟩
  · rcases drain_stops config names.length fuel 0 (start names) world s with hnone |
      ⟨before', record', failure', hbefore', hflushless, htrace, hrun⟩
    · have hmem : (⟨.store record, .error failure⟩ : Event) ∈
          (collect config fuel names).trace world s := hsplit ▸ by simp
      exact absurd trivial (hnone _ hmem)
    · obtain ⟨rfl, hsame, rfl⟩ := split_refused hbefore'
        (e := ⟨.store record, .error failure⟩) trivial (htrace.symm.trans hsplit)
      cases hsame
      have hall := accepted_eq_yielded hbefore'
      refine ⟨rfl, hflushless, hall, ?_⟩
      rw [hall, ← Nat.zero_add (before'.filterMap yielded?).length]
      exact hrun
  · obtain ⟨turns, hturns⟩ := drain_ends names.length 0 hsaid hend hrun
    refine ⟨turns, fun fuel hfuel => ?_⟩
    obtain ⟨more, rfl⟩ := Nat.exists_eq_add_of_le hfuel
    obtain ⟨outcome, houtcome, hends⟩ := hturns more
    have hflushless := pulls_flushless config bound count (start names) world s
    obtain ⟨hfinished, hfailed⟩ := hends.outcome_iff hflushless
    refine ⟨outcome, houtcome, hfinished, hfailed, yielded_pulls hsaid ▸ hends.handed, ?_⟩
    rintro summary rfl
    refine hends.delivered hflushless (yielded_pulls hsaid) ?_
    have hstart : (start names).Consistent names [] := ⟨[], [], rfl, rfl, .nil⟩
    have htoured := ((pulls_consistent config bound count hstart).run (admits_true _ _) hrun).toured
    have hfailures : left.failures = _ :=
      (pulls_records config bound count (h := []) rfl).run (admits_true _ _) hrun
    rw [hfailures]
    exact (Nat.le_add_right _ _).trans htoured.skipped_length_le

/-- The sample world with a sink that accepts so many records and refuses the others. -/
def smallSinkWorld (capacity : ℕ) : World ℕ where
  answer
    | .store _, stored =>
      if stored < capacity then (.ok (), stored + 1)
      else (.error { cause := .other "full" }, stored)
    | c, stored => ((sampleWorld.answer c ()).1, stored)

/-- A run over two mailboxes with a mail each, and one that fails between them. -/
def twoMailsRun : Program Outcome := collect (Config.ofRequested 1 1) 60 ["up", "down", "late"]

/-- The record of the mail of the second mailbox. -/
def lateRecord : Record :=
  Record.ofHeaders (({ id := { text := "i" } } : Item).headers "late" .default)

/-- A sink for one record stops the run at the second one.  With a sink for two the run comes to an
end too, and it hands over no others than the records that the crawl says. -/
theorem collect_accounts_sample :
    (twoMailsRun.run (smallSinkWorld 1) 0).1 =
        .ok (.sinkFailed ⟨[.storingRecord 2], .other "full"⟩) ∧
      ∃ turns, ∀ fuel, turns ≤ fuel →
        ((collect (Config.ofRequested 1 1) fuel ["up", "down", "late"]).trace (smallSinkWorld 2)
          0).filterMap yielded? <+: [sampleRecord, lateRecord] := by
  constructor
  · have hsplit : twoMailsRun.trace (smallSinkWorld 1) 0 =
        (twoMailsRun.trace (smallSinkWorld 1) 0).take 26 ++
          ⟨.store lateRecord, .error { cause := .other "full" }⟩ :: [] := rfl
    obtain ⟨-, -, -, hrun⟩ := (collect_accounts (smallSinkWorld 1) (Config.ofRequested 1 1)
      ["up", "down", "late"] 0).1 60 _ _ _ _ hsplit
    exact hrun
  · have hsaid : answers (smallSinkWorld 2) (Config.ofRequested 1 1) 20 3
        (start ["up", "down", "late"]) 0 = some [some sampleRecord, some lateRecord, none] := rfl
    obtain ⟨turns, hturns⟩ := (collect_accounts (smallSinkWorld 2) (Config.ofRequested 1 1)
      ["up", "down", "late"] 0).2 20 3 _ _ hsaid (by simp) rfl
    refine ⟨turns, fun fuel hfuel => ?_⟩
    obtain ⟨outcome, -, -, -, hhanded, -⟩ := hturns fuel hfuel
    exact hhanded

end MailCollector.Crawl
