import MailCollector.Checkpoint.Pair
import MailCollector.Proofs.Crawl.Lazy
import MailCollector.Proofs.Crawl.Visit

/-!
# Crawls over kept checkpoints

Take any world and let a pair of stores answer the calls that read and write checkpoints, one store
for instants and one for tokens.  The world may still refuse such a call, as a store that cannot be
reached would (`World.keeping`).

A crawl is run over two such pairs.  If related pairs answer every call alike that the crawl can
make, and stay related, then the crawl cannot tell them apart: it makes the same calls, gets the
same answers and ends with the same result (`Program.Upholds.keeping_agree`).
-/

namespace MailCollector.Checkpoint.Pair

open MailCollector.Crawl

/-- What a pair of stores makes of the answer that a call got without it.  A use of a checkpoint
that was refused has no effect. -/
def answer (p : Pair) : (c : Call) → c.Reply → c.Reply × Pair
  | .readInstant mailbox, .ok _ => (p.readInstant mailbox, p)
  | .writeInstant mailbox t, .ok _ => (.ok (), p.writeInstant mailbox t)
  | .readToken mailbox folder, .ok _ => (.ok (p.readToken mailbox folder), p)
  | .writeToken mailbox folder token, .ok _ => (.ok (), p.writeToken mailbox folder token)
  | _, reply => (reply, p)

/-- An answered call leaves a pair of stores as it is, unless it stores an instant or a token. -/
lemma answer_cases (p : Pair) (c : Call) (reply : c.Reply) :
    ((p.answer c reply).2 = p ∧ ∀ mailbox t,
      (⟨c, (p.answer c reply).1⟩ : Event) ≠ ⟨.writeInstant mailbox t, .ok ()⟩) ∨
    (∃ mailbox t, (⟨c, (p.answer c reply).1⟩ : Event) = ⟨.writeInstant mailbox t, .ok ()⟩ ∧
      (p.answer c reply).2 = p.writeInstant mailbox t) ∨
    ∃ mailbox folder token,
      (⟨c, (p.answer c reply).1⟩ : Event) = ⟨.writeToken mailbox folder token, .ok ()⟩ ∧
      (p.answer c reply).2 = p.writeToken mailbox folder token := by
  cases c with
  | writeInstant mailbox t =>
    cases reply with
    | error failure => exact .inl ⟨rfl, by rintro _ _ ⟨⟩⟩
    | ok _ => exact .inr (.inl ⟨mailbox, t, rfl, rfl⟩)
  | writeToken mailbox folder token =>
    cases reply with
    | error failure => exact .inl ⟨rfl, by rintro _ _ ⟨⟩⟩
    | ok _ => exact .inr (.inr ⟨mailbox, folder, token, rfl, rfl⟩)
  | readInstant mailbox => cases reply <;> exact .inl ⟨rfl, by rintro _ _ ⟨⟩⟩
  | readToken mailbox folder => cases reply <;> exact .inl ⟨rfl, by rintro _ _ ⟨⟩⟩
  | _ => exact .inl ⟨rfl, by rintro _ _ ⟨⟩⟩

end MailCollector.Checkpoint.Pair

namespace MailCollector.Crawl

open MailCollector.Calendar MailCollector.Checkpoint MailCollector.Mail MailCollector.Log Plain

variable {σ α : Type}

/-- A world in which the checkpoints are kept in a pair of stores. -/
def World.keeping (outer : World σ) : World (σ × Pair) where
  answer c s :=
    let (reply, outside) := outer.answer c s.1
    let (reply, p) := s.2.answer c reply
    (reply, outside, p)

/-- A program that upholds `inv` cannot tell two pairs of stores apart, if related pairs answer
alike every call that keeps `inv`, and are related afterwards. -/
theorem Program.Upholds.keeping_agree {allowed : List Event → Event → Prop}
    {inv : List Event → Prop} {post : α → List Event → Prop}
    {related : List Event → Pair → Pair → Prop} {outer : World σ}
    (hstep : ∀ h c reply p p', related h p p' → inv (h ++ [⟨c, (p.answer c reply).1⟩]) →
      (p'.answer c reply).1 = (p.answer c reply).1 ∧
        related (h ++ [⟨c, (p.answer c reply).1⟩]) (p.answer c reply).2 (p'.answer c reply).2)
    {program : Program α} {h : List Event} (hprogram : program.Upholds allowed inv post h) {s : σ}
    {p p' : Pair} (hrelated : related h p p')
    (hadmits : Admits allowed h (program.trace outer.keeping (s, p))) :
    program.trace outer.keeping (s, p') = program.trace outer.keeping (s, p) ∧
      (program.run outer.keeping (s, p')).1 = (program.run outer.keeping (s, p)).1 := by
  induction program generalizing h s p p' with
  | done a => exact ⟨rfl, rfl⟩
  | crash reason => exact ⟨rfl, rfl⟩
  | call c resume ih =>
    rw [trace_call, admits_cons] at hadmits
    have hnext := hprogram.2 _ hadmits.1
    obtain ⟨hreply, hrelated'⟩ := hstep h c _ p p' hrelated hnext.start
    obtain ⟨htrace, hrun⟩ := ih _ hnext hrelated' hadmits.2
    have hanswer : (outer.keeping.answer c (s, p')).1 = (outer.keeping.answer c (s, p)).1 := hreply
    rw [trace_call, trace_call, run_call, run_call, hanswer]
    exact ⟨congrArg _ htrace, hrun⟩

/-- What pairs of stores keep showing with every answer they show along the calls of a program. -/
theorem Program.keeping_admits {allowed : List Event → Event → Prop}
    {shows : List Event → Pair → Prop} {outer : World σ}
    (hstep : ∀ h c reply p, shows h p → allowed h ⟨c, (p.answer c reply).1⟩ ∧
      shows (h ++ [⟨c, (p.answer c reply).1⟩]) (p.answer c reply).2)
    (program : Program α) {h : List Event} {s : σ} {p : Pair} (hshows : shows h p) :
    Admits allowed h (program.trace outer.keeping (s, p)) ∧
      shows (h ++ program.trace outer.keeping (s, p)) (program.run outer.keeping (s, p)).2.2 := by
  induction program generalizing h s p with
  | done a => exact ⟨trivial, by rwa [trace_done, List.append_nil]⟩
  | crash reason => exact ⟨trivial, by rwa [trace_crash, List.append_nil]⟩
  | call c resume ih =>
    obtain ⟨hallowed, hnext⟩ := hstep h c (outer.answer c s).1 p hshows
    obtain ⟨hadmits, hend⟩ := ih _ hnext
    rw [trace_call, run_call]
    refine ⟨(admits_cons _ _ _).2 ⟨hallowed, hadmits⟩, ?_⟩
    rw [List.append_cons]
    exact hend

/-- Answers that are each allowed make an admissible history. -/
lemma admits_of_forall_mem {answered : Event → Prop} (h : List Event) {t : List Event}
    (ht : ∀ e ∈ t, answered e) : Admits (fun _ e => answered e) h t := by
  induction t generalizing h with
  | nil => trivial
  | cons e t ih =>
    obtain ⟨he, ht⟩ := List.forall_mem_cons.1 ht
    exact ⟨he, ih _ ht⟩

/-- What the plain loop upholds with every bound some pulls uphold. -/
lemma Roster.pulls_upholds {allowed : List Event → Event → Prop} {inv : List Event → Prop}
    {config : Config} {names : List String}
    {post : Option (List MailboxFailure) → List Event → Prop} (fuel count : ℕ)
    (hloop : (mailboxes config (count * fuel) names).Upholds allowed inv post []) :
    (pulls config fuel count (start names)).Upholds allowed inv
      (fun r h => r.phase ≠ .exhausted ∨ ∃ result, result = some r.failures ∧ post result h) [] :=
  (pulls_start_begins config (Nat.le_refl _) names).upholds hloop

/-! ### The calls of the pages of a folder -/

/-- The mode in which a cursor is used. -/
def cursorMode : Cursor → Mode
  | .token _ => .syncToken
  | .offset _ _ => .lastSynced

/-- A call that the pages of a folder make.  They read no checkpoint and write no token but that of
their own folder. -/
def Call.OfPages (config : Config) (mailbox : String) (folder : FolderId) : Call → Prop
  | .listItems request => cursorMode request.cursor = config.mode
  | .writeToken m f _ => m = mailbox ∧ f = folder
  | .fetchItems _ _ | .store _ | .note _ => True
  | _ => False

lemma Plain.pages_ofPages (config : Config) (mailbox : String) (folder : FolderId)
    (changedSince : Option Instant) (bound : ℕ) (token : Option String) (offset number : ℕ) :
    (pages config mailbox folder changedSince bound token offset number).Within
      (Call.OfPages config mailbox folder) := by
  induction bound generalizing token offset number with
  | zero => trivial
  | succ bound ih =>
    rw [pages]
    refine Attempt.Within.bind (Attempt.within_tried ⟨?_, fun _ => trivial⟩) fun page => ?_
    · unfold Call.OfPages
      cases config.mode <;> rfl
    refine Attempt.Within.bind (Attempt.within_noting trivial) fun _ => ?_
    refine Attempt.Within.bind ((batches_within mailbox folder _ _).mono fun c hc => ?_) fun _ => ?_
    · cases c <;> trivial
    split
    · exact commit_within_of mailbox folder (fun _ _ => ⟨rfl, rfl⟩) (fun _ => trivial) _
    · exact ih _ _ _

end MailCollector.Crawl
