import MailCollector.Crawl.Collect
import MailCollector.Proofs.Crawl.Calls
import MailCollector.Proofs.Crawl.Unfolding
import MailCollector.Proofs.Program.Safety

/-!
# A run upholds what the plain loop upholds

A run takes turns of the lazy crawl and hands each record to the sink.  As long as the sink accepts
the records, the run makes the calls of the plain loop; it ends when the sink refuses one, and after
the last record it flushes the sink and writes a note.  So what the plain loop upholds the run
upholds, if the flush and the note at its end keep it, and what the plain loop comes to the run
comes to before them (`drain_upholds`).  Either the plain loop upholds it in the same surroundings,
or it does so where no record is refused, and then a refused record has to keep it too
(`collect_upholds`).

Several runs, one after the other, act on the same world.  What each of them upholds holds at every
moment of their common history (`history_upholds`).
-/

namespace MailCollector.Crawl

open MailCollector.Mail MailCollector.Log

/-- A call that the run makes besides those of the crawl. -/
def Call.OfRun : Call → Prop
  | .store _ | .flush | .note (.collected _ _ _) => True
  | _ => False

/-- The sink refuses a record. -/
def Refused : Event → Prop
  | ⟨.store _, .error _⟩ => True
  | _ => False

lemma not_refused {e : Event} (he : ¬ e.1.ToSink) : ¬ Refused e := by
  unfold Refused
  split
  · exact fun _ => he trivial
  · exact id

variable {allowed : List Event → Event → Prop} {inv : List Event → Prop}

/-- A call that the run makes after its last record. -/
def Call.Closes : Call → Prop
  | .flush | .note (.collected _ _ _) => True
  | _ => False

lemma Call.Closes.ofRun {c : Call} (hc : c.Closes) : c.OfRun := by
  unfold Closes at hc
  split at hc
  · trivial
  · trivial
  · exact hc.elim

/-- The run was closed after everything that came before, with these failures. -/
def ClosedAfter (post : List MailboxFailure → List Event → Prop) (outcome : Outcome)
    (h : List Event) : Prop :=
  ∀ summary, outcome = .finished summary → ∃ before, post summary.failures before ∧
    h = before ++ [⟨.flush, .ok ()⟩,
      ⟨.note (.collected summary.stored summary.mailboxes summary.failures.length), ()⟩]

/-- The rest of a run upholds what the rest of the plain loop upholds, if the calls at its end and a
refused record keep it, and it is closed after what the plain loop comes to. -/
theorem drain_upholds (config : Config) (total : ℕ) {loop : List Event → Event → Prop}
    {post : List MailboxFailure → List Event → Prop}
    (hloop : ∀ h e, allowed h e → loop h e ∨ Refused e ∧ (inv h → inv (h ++ [e])))
    (hclose : ∀ h e, Call.Closes e.1 → inv h → inv (h ++ [e])) {fuel stored : ℕ} {r : Roster}
    {h : List Event}
    (hrest : (Roster.rest config fuel r).Upholds loop inv
      (fun result h => ∀ failures, result = some failures → post failures h) h) :
    (drain config total fuel stored r).Upholds allowed inv (ClosedAfter post) h := by
  induction fuel generalizing stored r h with
  | zero => exact ⟨hrest.start, fun _ hfinished => by cases hfinished⟩
  | succ fuel ih =>
    have hturn := (Roster.turn_begins config fuel r).upholds hrest
    rw [Program.upholds_bind] at hturn
    rw [drain, Program.upholds_bind]
    refine (hturn.restrict (Roster.turn_within config r) fun h e he hallowed =>
      (hloop h e hallowed).resolve_right fun hrefused => not_refused he hrefused.1).mono
      (fun _ hinv => hinv) ?_
    rintro said h - ⟨hexhausted, hsaid⟩
    -- What remains comes to the same as before, for it has not been cut.
    have hcome : ∀ (a : Option (List MailboxFailure)) (h : List Event),
        (Roster.IsCut a ∨ ∃ b, a = b ∧ ∀ failures, b = some failures → post failures h) →
        ∀ failures, a = some failures → post failures h := by
      rintro a h (hcut | ⟨b, rfl, hpost⟩) failures hfailures
      · rw [hcut] at hfailures
        cases hfailures
      · exact hpost failures hfailures
    cases said with
    | working r => exact ih (hsaid.mono (fun _ hinv => hinv) fun a h _ => hcome a h)
    | failed never r => exact never.elim
    | ended r =>
      have hflushed := fun reply => hclose h ⟨.flush, reply⟩ trivial hsaid.start
      refine ⟨hsaid.start, fun reply _ => ?_⟩
      cases reply with
      | error failure => exact ⟨hflushed _, fun _ hfinished => by cases hfinished⟩
      | ok _ =>
        refine ⟨hflushed _, fun _ _ => ⟨hclose _ _ trivial (hflushed _), ?_⟩⟩
        rintro _ ⟨⟩
        rw [Roster.resume, Roster.rest, hexhausted r rfl] at hsaid
        refine ⟨h, hcome _ _ hsaid.2 _ rfl, ?_⟩
        simp [Roster.failures]
    | value record r =>
      refine ⟨hsaid.1, fun reply hreply => ?_⟩
      rcases hloop _ _ hreply with hgo | ⟨hrefused, hkeep⟩
      · have hnext := hsaid.2 reply hgo
        cases reply with
        | error failure => exact ⟨hnext.start, fun _ hfinished => by cases hfinished⟩
        | ok _ => exact ih (hnext.mono (fun _ hinv => hinv) fun a h _ => hcome a h)
      · cases reply with
        | error failure => exact ⟨hkeep hsaid.1, fun _ hfinished => by cases hfinished⟩
        | ok _ => exact hrefused.elim

/-- A run upholds what the plain loop upholds while no record is refused. -/
theorem collect_upholds (config : Config) (fuel : ℕ) (names : List String)
    (hrun : ∀ h e, Call.OfRun e.1 → inv h → inv (h ++ [e])) {h : List Event}
    (hloop : (Plain.mailboxes config fuel names).Upholds (fun h e => allowed h e ∧ ¬ Refused e) inv
      (fun _ _ => True) h) :
    (collect config fuel names).Upholds allowed inv (fun _ _ => True) h := by
  have hrest : (Roster.rest config fuel (Roster.start names)).Upholds
      (fun h e => allowed h e ∧ ¬ Refused e) inv
      (fun result _ => ∀ failures, result = some failures → True) h := by
    rw [Roster.rest_start_eq]
    exact hloop.mono (fun _ hinv => hinv) fun _ _ _ _ _ _ => trivial
  refine (drain_upholds config names.length ?_ ?_ hrest).mono (fun _ hinv => hinv)
    fun _ _ _ _ => trivial
  · intro h e hallowed
    by_cases hrefused : Refused e
    · refine .inr ⟨hrefused, hrun h e ?_⟩
      unfold Refused at hrefused
      split at hrefused
      · trivial
      · exact hrefused.elim
    · exact .inl ⟨hallowed, hrefused⟩
  · exact fun h e hcloses => hrun h e hcloses.ofRun

/-! ### Several runs -/

/-- What a run is started with.  The bound on its turns lets it be stopped anywhere between two
turns. -/
structure Run where
  config : Config
  fuel : ℕ
  names : List String

/-- The run as a program. -/
def Run.program (run : Run) : Program Outcome := collect run.config run.fuel run.names

/-- The calls of several runs, each of which finds the world as the one before it left it. -/
def history {σ : Type} (world : World σ) : List Run → σ → List Event
  | [], _ => []
  | run :: runs, s =>
    run.program.trace world s ++ history world runs (run.program.run world s).2

/-- What each of several runs upholds holds at every moment of their history. -/
theorem history_upholds {σ : Type} {world : World σ} {runs : List Run} {s : σ} {h t : List Event}
    (hruns : ∀ run ∈ runs, ∀ h, inv h → run.program.Upholds allowed inv (fun _ _ => True) h)
    (hinv : inv h) (hadmits : Admits allowed h (history world runs s))
    (ht : t <+: history world runs s) : inv (h ++ t) := by
  induction runs generalizing h t s with
  | nil =>
    obtain rfl := List.prefix_nil.1 ht
    rwa [List.append_nil]
  | cons run runs ih =>
    rw [history] at hadmits ht
    obtain ⟨hfirst, hothers⟩ := (admits_append h _ _).1 hadmits
    have hrun := hruns run List.mem_cons_self h hinv
    rcases List.prefix_or_prefix_of_prefix ht (List.prefix_append _ _) with hshort | ⟨t', rfl⟩
    · obtain ⟨u, hu⟩ := hshort
      exact hrun.trace ⟨u, hu⟩ ((admits_append h t u).1 (hu ▸ hfirst)).1
    · rw [← List.append_assoc]
      refine ih (fun run hmem => hruns run (List.mem_cons_of_mem _ hmem)) ?_ hothers ?_
      · exact hrun.trace List.prefix_rfl hfirst
      · exact (List.prefix_append_right_inj _).1 ht

/-- The history of some runs in a world with a memory is admissible if each of its answers is. -/
lemma history_remembering {answer : List Event → (c : Call) → c.Reply}
    (hanswer : ∀ h c, allowed h ⟨c, answer h c⟩) (runs : List Run) (h : List Event) :
    Admits allowed h (history (World.remembering answer) runs h) := by
  induction runs generalizing h with
  | nil => trivial
  | cons run runs ih =>
    rw [history, admits_append, Program.run_remembering]
    exact ⟨run.program.remembering_admits hanswer h, ih _⟩

end MailCollector.Crawl
