import MailCollector.Proofs.Crawl.Collecting
import MailCollector.Proofs.Crawl.Observed

/-!
# Checkpoints and the flush of the sink

A sink may keep records back until it is flushed, and a flush may fail.  A run would lose nothing if
each checkpoint that takes effect came after a successful flush of the records that it covers
(`LosesNothing`).  But a run flushes its sink only once, after the last record, while checkpoints
are written as folders and mailboxes are finished.  So a run loses nothing exactly when no record
that a checkpoint covers was accepted before it (`collect_losesNothing_iff`), and a single mail
whose flush fails is lost (`flush_failure_loses_mail`).
-/

namespace MailCollector.Crawl

open MailCollector.Mail MailCollector.Log

/-- The record is made of an item of the folder. -/
def IsOf (record : Record) (mailbox : String) (folder : FolderId) : Prop :=
  ∃ item, Record.ofItem? item mailbox folder = some record

/-- The checkpoint takes effect, and the record will not be looked for again because of it: it is of
the folder whose token is stored, or of a folder of the mailbox whose instant is. -/
def Covers : Event → Record → Prop
  | ⟨.writeToken mailbox folder _, .ok ()⟩, record => IsOf record mailbox folder
  | ⟨.writeInstant mailbox _, .ok ()⟩, record => ∃ folder, IsOf record mailbox folder
  | _, _ => False

/-- What the sink holds back after a call: a record that it accepts is held back, and a flush that
succeeds makes all of them durable. -/
def heldBack (records : List Record) : Event → List Record
  | ⟨.store record, .ok ()⟩ => records ++ [record]
  | ⟨.flush, .ok ()⟩ => []
  | _ => records

/-- The records that the sink accepted and that no flush has made durable yet. -/
def unflushed (h : List Event) : List Record := h.foldl heldBack []

/-- No checkpoint covers a record that is not durable yet. -/
def LosesNothing (h : List Event) : Prop :=
  ∀ before e after, h = before ++ e :: after → ∀ record ∈ unflushed before, ¬ Covers e record

/-- No checkpoint covers a record that was accepted before it, durable or not. -/
def CheckpointsFirst (h : List Event) : Prop :=
  ∀ before e after, h = before ++ e :: after →
    ∀ record ∈ before.filterMap accepted?, ¬ Covers e record

/-- The sink has not been flushed, nor has it been tried. -/
def Flushless (h : List Event) : Prop := ∀ e ∈ h, e.1 ≠ .flush

/-! ### The only flush -/

lemma Flushless.append {h : List Event} (hh : Flushless h) {e : Event} (he : e.1 ≠ .flush) :
    Flushless (h ++ [e]) :=
  List.forall_mem_append.2 ⟨hh, List.forall_mem_singleton.2 he⟩

/-- Without a flush the sink holds back every record that it accepts. -/
lemma heldBack_eq {e : Event} (he : e.1 ≠ .flush) (records : List Record) :
    heldBack records e = records ++ [e].filterMap accepted? := by
  obtain ⟨c, reply⟩ := e
  cases c with
  | store record => cases reply <;> simp [heldBack, accepted?]
  | flush => exact absurd rfl he
  | _ => exact (List.append_nil records).symm

/-- Without a flush nothing that was accepted is durable. -/
lemma Flushless.unflushed_eq {h : List Event} (hh : Flushless h) :
    unflushed h = h.filterMap accepted? := by
  have hheld : ∀ records, h.foldl heldBack records = records ++ h.filterMap accepted? := by
    induction h with
    | nil => exact fun records => (List.append_nil records).symm
    | cons e h ih =>
      intro records
      rw [List.foldl_cons, heldBack_eq (hh e List.mem_cons_self),
        ih fun e' he' => hh e' (List.mem_cons_of_mem e he'), List.append_assoc,
        ← List.filterMap_append, List.singleton_append]
  exact hheld []

/-- A history without a flush, or one that ends with its only flush and notes. -/
def FlushedAtEnd (h : List Event) : Prop :=
  Flushless h ∨ ∃ before reply, ∃ notes : List Note,
    h = before ++ ⟨.flush, reply⟩ :: notes.map (fun n => ⟨.note n, ()⟩) ∧ Flushless before

/-- From any state of the crawl on, the sink is flushed at the end only. -/
lemma drain_flushes_last (config : Config) (total : ℕ) {fuel stored : ℕ} {r : Roster}
    {h : List Event} (hh : Flushless h) :
    (drain config total fuel stored r).Upholds (fun _ _ => True) FlushedAtEnd
      (fun _ _ => True) h := by
  induction fuel generalizing stored r h with
  | zero => exact ⟨.inl hh, trivial⟩
  | succ fuel ih =>
    have hturn : (r.turn config).Upholds (fun _ _ => True) Flushless _ h :=
      (Roster.turn_within config r).upholds hh fun h e hh he =>
        hh.append fun hflush => he (by rw [hflush]; trivial)
    rw [drain, Program.upholds_bind]
    refine hturn.mono (fun _ hh => .inl hh) ?_
    rintro said h hh -
    cases said with
    | working r => exact ih hh
    | failed never r => exact never.elim
    | value record r =>
      refine ⟨.inl hh, fun reply _ => ?_⟩
      have hstored : Flushless (h ++ [⟨.store record, reply⟩]) := hh.append (by simp)
      cases reply with
      | error failure => exact ⟨.inl hstored, trivial⟩
      | ok _ => exact ih hstored
    | ended r =>
      refine ⟨.inl hh, fun reply _ => ?_⟩
      cases reply with
      | error failure => exact ⟨.inr ⟨h, _, [], rfl, hh⟩, trivial⟩
      | ok _ =>
        refine ⟨.inr ⟨h, _, [], rfl, hh⟩, fun _ _ => ⟨.inr ⟨h, .ok (),
          [.collected stored total r.failed.length], ?_, hh⟩, trivial⟩⟩
        exact List.append_assoc _ _ _

/-- What comes before a checkpoint in such a history is without a flush. -/
lemma FlushedAtEnd.flushless {h before after : List Event} {e : Event} (hh : FlushedAtEnd h)
    (hsplit : h = before ++ e :: after) (hflush : e.1 ≠ .flush) (hnote : ∀ n, e.1 ≠ .note n) :
    Flushless before := by
  rcases hh with hh | ⟨flushless, reply, notes, rfl, hflushless⟩
  · exact fun e' he' => hh e' (hsplit ▸ List.mem_append_left _ he')
  · rcases List.append_eq_append_iff.1 hsplit with ⟨between, rfl, hrest⟩ | ⟨rest, rfl, -⟩
    · have he : e ∈ (⟨.flush, reply⟩ : Event) :: notes.map fun n => ⟨.note n, ()⟩ :=
        hrest ▸ List.mem_append_right _ List.mem_cons_self
      rcases List.mem_cons.1 he with rfl | he
      · exact absurd rfl hflush
      · obtain ⟨n, -, rfl⟩ := List.mem_map.1 he
        exact absurd rfl (hnote n)
    · exact fun e' he' => hflushless e' (List.mem_append_left _ he')

/-- A run flushes its sink at its end only. -/
lemma collect_flushes_last {σ : Type} (world : World σ) (config : Config) (fuel : ℕ)
    (names : List String) (s : σ) : FlushedAtEnd ((collect config fuel names).trace world s) :=
  (drain_flushes_last config names.length (h := []) (by simp [Flushless])).trace
    List.prefix_rfl (admits_true _ _)

/-! ### What a run may lose -/

/-- A call that covers a record is a checkpoint. -/
lemma Covers.checkpoint {e : Event} {record : Record} (he : Covers e record) :
    e.1 ≠ .flush ∧ ∀ n, e.1 ≠ .note n := by
  unfold Covers at he
  split at he
  · exact ⟨by simp, by simp⟩
  · exact ⟨by simp, by simp⟩
  · exact he.elim

/-- In a run no checkpoint that takes effect comes after a flush of the sink, not even after one
that fails.  So the run loses nothing if and only if no record that a checkpoint covers was accepted
before the checkpoint. -/
theorem collect_losesNothing_iff {σ : Type} (world : World σ) (config : Config) (fuel : ℕ)
    (names : List String) (s : σ) :
    (∀ before e after record, (collect config fuel names).trace world s = before ++ e :: after →
      Covers e record → Flushless before) ∧
    (LosesNothing ((collect config fuel names).trace world s) ↔
      CheckpointsFirst ((collect config fuel names).trace world s)) := by
  have hflushless : ∀ before e after record,
      (collect config fuel names).trace world s = before ++ e :: after →
      Covers e record → Flushless before := by
    intro before e after record hsplit hcovers
    exact (collect_flushes_last world config fuel names s).flushless hsplit hcovers.checkpoint.1
      hcovers.checkpoint.2
  refine ⟨hflushless, ?_, ?_⟩
  · intro hloses before e after hsplit record hrecord hcovers
    rw [← (hflushless before e after record hsplit hcovers).unflushed_eq] at hrecord
    exact hloses before e after hsplit record hrecord hcovers
  · intro hfirst before e after hsplit record hrecord hcovers
    rw [(hflushless before e after record hsplit hcovers).unflushed_eq] at hrecord
    exact hfirst before e after hsplit record hrecord hcovers

/-- A world that remembers the token of one folder with one mail, and whose sink cannot be
flushed. -/
def unflushableWorld : World (Option String) where
  answer
    | .clock, s => (default, s)
    | .readInstant _, s => (.ok none, s)
    | .writeInstant _ _, s => (.ok (), s)
    | .readToken _ _, s => (.ok s, s)
    | .writeToken _ _ token, _ => (.ok (), some token)
    | .listFolders _ _, s => (.ok [.default], s)
    | .listItems request, s =>
      (.ok (if request.cursor = .token none then { ids := [{ text := "i" }], token := some "t" }
        else { token := some "t" }), s)
    | .fetchItems _ ids, s => (.ok (ids.map fun id => { id := id }), s)
    | .store _, s => (.ok (), s)
    | .flush, s => (.error { cause := .other "flush failed" }, s)
    | .note _, s => ((), s)

/-- A run over a mailbox with a single mail. -/
def singleMailRun : Program Outcome := collect (Config.ofRequested 10 10) 30 ["m"]

/-- The run fails because its sink cannot be flushed, it has stored a token that covers its record,
and the next run no longer finds the mail. -/
theorem flush_failure_loses_mail :
    (∃ failure, (singleMailRun.run unflushableWorld none).1 = .ok (.sinkFailed failure)) ∧
      ¬ LosesNothing (singleMailRun.trace unflushableWorld none) ∧
      (singleMailRun.trace unflushableWorld
        (singleMailRun.run unflushableWorld none).2).filterMap yielded? = [] := by
  have hsplit : singleMailRun.trace unflushableWorld none =
      (singleMailRun.trace unflushableWorld none).take 9 ++
        ⟨.writeToken "m" .default "t", .ok ()⟩ ::
          (singleMailRun.trace unflushableWorld none).drop 10 := rfl
  have hheld : unflushed ((singleMailRun.trace unflushableWorld none).take 9) =
      [Record.ofHeaders (({ id := { text := "i" } } : Item).headers "m" .default)] := rfl
  refine ⟨⟨_, rfl⟩, fun hloses => ?_, rfl⟩
  refine hloses _ _ _ hsplit _ (hheld ▸ List.mem_cons_self) ⟨{ id := { text := "i" } }, rfl⟩

end MailCollector.Crawl
