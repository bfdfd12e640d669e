import MailCollector.Proofs.Crawl.Visit
import MailCollector.Proofs.Program.Pairing

/-!
# Two crawls of a mailbox in lockstep

Two crawls of the same mailbox may run at different times.  Events are alike if they differ in
nothing but instants, and in these only as far as `same` identifies them (`Alike`).  A crawl does
nothing with an instant but pass it on, so two crawls of a mailbox whose calls are answered alike
are in lockstep (`Plain.timed_lockstep`).
-/

namespace MailCollector.Crawl

open MailCollector.Calendar MailCollector.Mail MailCollector.Log

/-! ### Alike calls -/

/-- A call that neither takes nor brings an instant of a checkpoint or of the clock. -/
def Call.Timeless : Call → Prop
  | .readToken _ _ | .writeToken _ _ _ | .listFolders _ _ | .fetchItems _ _ | .note _ => True
  | _ => False

/-- Two cursors that differ at most in the instant from which changes count. -/
inductive CursorAlike (same : Instant → Instant → Prop) : Cursor → Cursor → Prop
  | token (token : Option String) : CursorAlike same (.token token) (.token token)
  | offset (offset : ℕ) {since since' : Option Instant} (h : Option.Rel same since since') :
    CursorAlike same (.offset offset since) (.offset offset since')

/-- Two events that differ at most in instants that are identified.  What the sink says to a record
does not count. -/
inductive Alike (same : Instant → Instant → Prop) : Event → Event → Prop
  | clock {t t' : Instant} (h : same t t') : Alike same ⟨.clock, t⟩ ⟨.clock, t'⟩
  | readInstant (mailbox : String) {since since' : Option Instant}
    (h : Option.Rel same since since') :
    Alike same ⟨.readInstant mailbox, .ok since⟩ ⟨.readInstant mailbox, .ok since'⟩
  | unreadInstant (mailbox : String) (failure : Failure) :
    Alike same ⟨.readInstant mailbox, .error failure⟩ ⟨.readInstant mailbox, .error failure⟩
  | writeInstant (mailbox : String) {t t' : Instant} (h : same t t')
    (reply : Except Failure Unit) :
    Alike same ⟨.writeInstant mailbox t, reply⟩ ⟨.writeInstant mailbox t', reply⟩
  | listItems (mailbox : String) (folder : FolderId) (pageSize : ℕ) {cursor cursor' : Cursor}
    (h : CursorAlike same cursor cursor') (reply : Except Failure IdPage) :
    Alike same ⟨.listItems ⟨mailbox, folder, pageSize, cursor⟩, reply⟩
      ⟨.listItems ⟨mailbox, folder, pageSize, cursor'⟩, reply⟩
  | toSink {c : Call} (hc : c.ToSink) (reply reply' : c.Reply) : Alike same ⟨c, reply⟩ ⟨c, reply'⟩
  | timeless {c : Call} (hc : c.Timeless) (reply : c.Reply) : Alike same ⟨c, reply⟩ ⟨c, reply⟩

/-- Two calls that some replies make alike. -/
def Call.Alike (same : Instant → Instant → Prop) (c c' : Call) : Prop :=
  ∃ reply reply', Crawl.Alike same ⟨c, reply⟩ ⟨c', reply'⟩

/-- Alike calls of a mailbox after its clock was read. -/
structure Corresponding (same : Instant → Instant → Prop) (name : String) (c c' : Call) : Prop where
  alike : c.Alike same c'
  ne_clock : c ≠ .clock
  concerns : c.Concerns name

section Alike

variable {same : Instant → Instant → Prop} {e e' : Event}

/-- Alike events are about the same mailbox. -/
lemma Alike.mailbox? (h : Alike same e e') : e.1.mailbox? = e'.1.mailbox? := by
  cases h <;> rfl

/-- A look at the clock is like another one only. -/
lemma Alike.clock_iff (h : Alike same e e') : e.1 = .clock ↔ e'.1 = .clock := by
  cases h with
  | clock h => simp
  | toSink hc reply reply' => exact Iff.rfl
  | timeless hc reply => exact Iff.rfl
  | _ => simp

end Alike

/-! ### Attempts in lockstep -/

namespace Plain

variable {α β γ δ : Type} {same : Instant → Instant → Prop} {name : String}

/-- Two attempts come to their ends with results that correspond, or are broken off alike. -/
def BothEnd (post : α → β → Prop) : Except Halt α → Except Halt β → Prop
  | .ok a, .ok b => post a b
  | .error halt, .error halt' => halt = halt'
  | _, _ => False

/-- Two attempts in lockstep. -/
def Attempt.Lockstep (same : Instant → Instant → Prop) (name : String) (post : α → β → Prop)
    (p : Attempt α) (q : Attempt β) : Prop :=
  p.run.Paired (Corresponding same name) (Alike same) (BothEnd post) q.run

namespace Attempt

lemma lockstep_pure {post : α → β → Prop} {a : α} {b : β} (h : post a b) :
    Lockstep same name post (pure a) (pure b) := .done h

/-- Two attempts in lockstep may go on in lockstep. -/
lemma Lockstep.bind {post : α → β → Prop} {post' : γ → δ → Prop} {p : Attempt α} {q : Attempt β}
    {f : α → Attempt γ} {g : β → Attempt δ} (hpq : Lockstep same name post p q)
    (hfg : ∀ a b, post a b → Lockstep same name post' (f a) (g b)) :
    Lockstep same name post' (p >>= f) (q >>= g) := by
  refine Program.Paired.bind hpq ?_
  rintro (halt | a) (halt' | b) hend
  · exact .done hend
  · exact hend.elim
  · exact hend.elim
  · exact hfg a b hend

/-- Programs in lockstep, as attempts. -/
lemma lockstep_lift {post : α → β → Prop} {p : Program α} {q : Program β}
    (hpq : p.Paired (Corresponding same name) (Alike same) post q) :
    Lockstep same name post (ExceptT.lift p) (ExceptT.lift q) := by
  unfold Lockstep
  rw [ExceptT.run_lift, ExceptT.run_lift, map_eq_pure_bind, map_eq_pure_bind]
  exact hpq.bind fun a b hab => .done hab

/-- A note is written by both. -/
lemma lockstep_noting (n : Note) : Lockstep same name Eq (noting n) (noting n) := by
  have halike : (Call.note n).Alike same (.note n) := ⟨(), (), .timeless (c := .note n) trivial ()⟩
  refine lockstep_lift (.call ⟨halike, by simp, ?_⟩ fun _ _ _ => .done rfl)
  rintro mailbox ⟨⟩

/-- A step is tried by both: they fail alike, or they go on with what they were answered. -/
lemma lockstep_tried {post : α → β → Prop} (step : Step) {p : Program (Except Failure α)}
    {q : Program (Except Failure β)}
    (hpq : p.Paired (Corresponding same name) (Alike same) (fun result result' =>
      (∃ a b, result = .ok a ∧ result' = .ok b ∧ post a b) ∨
        ∃ failure, result = .error failure ∧ result' = .error failure) q) :
    Lockstep same name post (tried step p) (tried step q) := by
  refine (lockstep_lift hpq).bind ?_
  rintro _ _ (⟨a, b, rfl, rfl, hab⟩ | ⟨failure, rfl, rfl⟩)
  · exact lockstep_pure hab
  · exact .done rfl

/-- A loop over a list is in lockstep if its rounds are. -/
lemma lockstep_forM {f g : α → Attempt Unit} (as : List α)
    (hfg : ∀ a, Lockstep same name Eq (f a) (g a)) :
    Lockstep same name Eq (as.forM f) (as.forM g) := by
  induction as with
  | nil => exact lockstep_pure rfl
  | cons a as ih =>
    rw [List.forM_eq_forM, List.forM_cons, List.forM_cons]
    exact (hfg a).bind fun _ _ _ => ih

end Attempt

open Attempt

/-! ### Along the plain loop -/

/-- A timeless call is answered the same in both. -/
lemma ask_lockstep (same : Instant → Instant → Prop) (name : String) {c : Call}
    (hc : c.Timeless) (hname : c.Concerns name) (reply : c.Reply) :
    (Program.ask c).Paired (Corresponding same name) (Alike same) Eq (Program.ask c) := by
  have hclock : c ≠ .clock := by
    rintro rfl
    exact hc
  refine .call ⟨⟨reply, reply, .timeless hc reply⟩, hclock, hname⟩ fun reply reply' h => .done ?_
  cases h with
  | toSink hsink => cases c <;> first | exact hsink.elim | exact hc.elim
  | timeless => rfl
  | _ => exact hc.elim

/-- A step that is a timeless call is tried by both. -/
lemma tried_lockstep {p : Program (Except Failure α)} (step : Step)
    (hp : p.Paired (Corresponding same name) (Alike same) Eq p) :
    Lockstep same name Eq (tried step p) (tried step p) := by
  refine lockstep_tried step ?_
  rw [← Program.bind_done p]
  refine hp.bind ?_
  rintro (failure | a) _ rfl
  · exact .done (.inr ⟨failure, rfl, rfl⟩)
  · exact .done (.inl ⟨a, a, rfl, rfl, rfl⟩)

/-- Records are handed over by both. -/
lemma hand_lockstep (records : List Record) :
    (records.forM hand).Paired (Corresponding same name) (Alike same) Eq (records.forM hand) := by
  induction records with
  | nil => exact .done rfl
  | cons record records ih =>
    rw [List.forM_eq_forM, List.forM_cons]
    have halike : (Call.store record).Alike same (.store record) :=
      ⟨.ok (), .ok (), .toSink (c := .store record) trivial (.ok ()) (.ok ())⟩
    refine .call ⟨halike, by simp, ?_⟩ fun _ _ _ => ih
    rintro mailbox ⟨⟩

/-- A batch of items is fetched and handed over by both. -/
lemma batch_lockstep (folder : FolderId) (ids : List ItemId) :
    Lockstep same name Eq (batch name folder ids) (batch name folder ids) := by
  have hfetch := ask_lockstep same name (c := .fetchItems name ids) trivial
    (by rintro mailbox ⟨⟩; rfl) (.ok [])
  refine (tried_lockstep _ hfetch).bind ?_
  rintro items _ rfl
  refine (lockstep_noting _).bind fun _ _ _ => ?_
  refine (lockstep_lift (.refl_of_silent (recordsOf_within _ name folder items))).bind ?_
  rintro records _ rfl
  exact lockstep_lift (hand_lockstep records)

/-- The token of a folder is written by both. -/
lemma commit_lockstep (folder : FolderId) (number : ℕ) (token : Option String) :
    Lockstep same name Eq (commit name folder number token) (commit name folder number token) := by
  cases token with
  | none => exact lockstep_pure rfl
  | some token =>
    have hwrite := ask_lockstep same name (c := .writeToken name folder token)
      trivial (by rintro mailbox ⟨⟩; rfl) (.ok ())
    exact (tried_lockstep _ hwrite).bind fun _ _ _ => lockstep_noting _

/-- A page is listed by both, even if changes count from different instants. -/
lemma page_lockstep (folder : FolderId) (pageSize : ℕ) {cursor cursor' : Cursor}
    (h : CursorAlike same cursor cursor') :
    Lockstep same name Eq
      (tried (.listingItems folder name)
        (Program.ask (.listItems ⟨name, folder, pageSize, cursor⟩)))
      (tried (.listingItems folder name)
        (Program.ask (.listItems ⟨name, folder, pageSize, cursor'⟩))) := by
  have halike : (Call.listItems ⟨name, folder, pageSize, cursor⟩).Alike same
      (.listItems ⟨name, folder, pageSize, cursor'⟩) :=
    ⟨_, _, .listItems name folder pageSize h (.ok {})⟩
  refine lockstep_tried _ (.call ⟨halike, by simp, ?_⟩ fun reply reply' h => .done ?_)
  · rintro mailbox ⟨⟩
    rfl
  · cases h with
    | listItems mailbox folder pageSize h reply =>
      cases reply with
      | error failure => exact .inr ⟨failure, rfl, rfl⟩
      | ok page => exact .inl ⟨page, page, rfl, rfl, rfl⟩
    | toSink hsink => exact hsink.elim
    | timeless htimeless => exact htimeless.elim

section Since

variable {since since' : Option Instant} (hsince : Option.Rel same since since')

include hsince

/-- The pages of a folder are crawled by both, even if they resume from different instants. -/
lemma pages_lockstep (config : Config) (folder : FolderId) (bound : ℕ) (token : Option String)
    (offset number : ℕ) :
    Lockstep same name Eq (pages config name folder since bound token offset number)
      (pages config name folder since' bound token offset number) := by
  induction bound generalizing token offset number with
  | zero => exact .done rfl
  | succ bound ih =>
    rw [pages, pages]
    refine (page_lockstep folder config.idPageSize ?_).bind ?_
    · cases config.mode with
      | syncToken => exact .token token
      | lastSynced => exact .offset offset hsince
    · rintro page _ rfl
      refine (lockstep_noting _).bind fun _ _ _ => ?_
      refine (lockstep_forM _ fun ids => batch_lockstep folder ids).bind fun _ _ _ => ?_
      split
      · exact commit_lockstep folder _ _
      · exact ih _ _ _

/-- A folder is crawled by both. -/
lemma folder_lockstep (config : Config) (bound : ℕ) (f : FolderId) :
    Lockstep same name Eq (folder config bound name since f)
      (folder config bound name since' f) := by
  cases hmode : config.mode with
  | syncToken =>
    simp only [folder, hmode]
    have hread := ask_lockstep same name (c := .readToken name f) trivial
      (by rintro mailbox ⟨⟩; rfl) (.ok none)
    refine (tried_lockstep _ hread).bind ?_
    rintro token _ rfl
    exact pages_lockstep hsince config f bound _ 0 0
  | lastSynced =>
    simp only [folder, hmode]
    exact pages_lockstep hsince config f bound _ 0 0

/-- A visit is made by both, even if it began at different times. -/
lemma sweep_lockstep (config : Config) (bound : ℕ) {startedAt startedAt' : Instant}
    (hstarted : same startedAt startedAt') :
    Lockstep same name Eq (sweep config bound name startedAt since)
      (sweep config bound name startedAt' since') := by
  have hlist := ask_lockstep same name
    (c := .listFolders name (.wellKnown .messageRoot)) trivial (by rintro mailbox ⟨⟩; rfl) (.ok [])
  refine (tried_lockstep _ hlist).bind ?_
  rintro folders _ rfl
  refine (lockstep_noting _).bind fun _ _ _ => ?_
  refine (lockstep_forM _ fun f => folder_lockstep hsince config bound f).bind fun _ _ _ => ?_
  have hwrite : Lockstep same name Eq
      (tried (.writingInstant name) (Program.ask (.writeInstant name startedAt)))
      (tried (.writingInstant name) (Program.ask (.writeInstant name startedAt'))) := ?_
  · exact hwrite.bind fun _ _ _ => lockstep_noting _
  refine lockstep_tried _ ?_
  refine .call ⟨⟨.ok (), .ok (), .writeInstant name hstarted _⟩, by simp, ?_⟩
    fun reply reply' h => .done ?_
  · rintro mailbox ⟨⟩
    rfl
  · cases h with
    | writeInstant mailbox h reply =>
      cases reply with
      | error failure => exact .inr ⟨failure, rfl, rfl⟩
      | ok _ => exact .inl ⟨(), (), rfl, rfl, rfl⟩
    | toSink hsink => exact hsink.elim
    | timeless htimeless => exact htimeless.elim

end Since

/-- The instant to resume from is read by both. -/
lemma resumption_lockstep (config : Config) :
    Lockstep same name (Option.Rel same) (resumption config name) (resumption config name) := by
  unfold resumption
  cases config.mode with
  | syncToken => exact lockstep_pure .none
  | lastSynced =>
    refine lockstep_tried _ (.call ⟨⟨.ok none, .ok none, .readInstant name .none⟩, by simp, ?_⟩
      fun reply reply' h => .done ?_)
    · rintro mailbox ⟨⟩
      rfl
    · cases h with
      | readInstant mailbox h => exact .inl ⟨_, _, rfl, rfl, h⟩
      | unreadInstant mailbox failure => exact .inr ⟨failure, rfl, rfl⟩
      | toSink hsink => exact hsink.elim
      | timeless htimeless => exact htimeless.elim

/-- Two visits of the same mailbox that began at different times are in lockstep. -/
theorem timed_lockstep (config : Config) (bound : ℕ) {startedAt startedAt' : Instant}
    (hstarted : same startedAt startedAt') :
    Lockstep same name Eq (timed config bound name startedAt)
      (timed config bound name startedAt') :=
  (resumption_lockstep config).bind fun _ _ hsince => sweep_lockstep hsince config bound hstarted

end Plain

end MailCollector.Crawl
