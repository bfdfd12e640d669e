import MailCollector.Proofs.Crawl.CommitOnce
import MailCollector.Proofs.Crawl.Visit

/-!
# The instant of a mailbox is written once, and last

A visit to a mailbox writes the time at which it began as the instant of the mailbox, at most once,
after every listed folder was crawled to its end and its token stored, and never after a failure.
Nothing but a note follows (`WritesLast`).  A visit that resumes from an instant reads it before it
does anything else, and asks in each folder for what changed since then.

All this is known of the calls that a visit has made at any moment (`Visit.sound`).
-/

namespace MailCollector.Crawl

open MailCollector.Calendar MailCollector.Mail MailCollector.Log Plain Plain.Attempt

/-- A call to the mail service fails, or a read or a write of a checkpoint. -/
def Fails : Event → Prop
  | ⟨.readInstant _, .error _⟩ | ⟨.writeInstant _ _, .error _⟩ | ⟨.readToken _ _, .error _⟩
  | ⟨.writeToken _ _ _, .error _⟩ | ⟨.listFolders _ _, .error _⟩ | ⟨.listItems _, .error _⟩
  | ⟨.fetchItems _ _, .error _⟩ => True
  | _ => False

/-- A call that writes an instant, whether it succeeds or not. -/
def Call.WritesInstant : Call → Prop
  | .writeInstant _ _ => True
  | _ => False

/-- The calls that were made for a mailbox after the clock was read. -/
structure Visit where
  config : Config
  bound : ℕ
  mailbox : String
  startedAt : Instant
  calls : List Event

namespace Visit

/-- The crawl of the mailbox that is visited. -/
def program (v : Visit) : Program (Except Halt Unit) :=
  (timed v.config v.bound v.mailbox v.startedAt).run

/-- The calls of a visit, of which the first one looks at the clock. -/
def events (v : Visit) : List Event := ⟨.clock, v.startedAt⟩ :: v.calls

end Visit

/-! ### What is known when an instant is written -/

/-- With these calls the folders of a mailbox were listed, and each of them was crawled to its end.
-/
structure Swept (v : Visit) (before : List Event) : Prop where
  /-- Nothing has failed. -/
  unfailed : ∀ e ∈ before, ¬ Fails e
  /-- There was one opening for each listed folder, in their order. -/
  folders : ∃ (start : List Event) (folders : List FolderId) (openings : List Opening),
    before = start ++ openings.flatMap Opening.events ∧
    ⟨.listFolders v.mailbox (.wellKnown .messageRoot), .ok folders⟩ ∈ start ∧
    openings.map Opening.folder = folders ∧
    ∀ o ∈ openings, o.mailbox = v.mailbox ∧
      (o.program v.config v.bound).Finishes o.events (.ok ()) ∧
      Exhausted v.config v.mailbox o.folder o.events

/-- In these calls of a visit either no instant is written, or one is, when everything was swept. -/
def WritesLast (v : Visit) (t : List Event) : Prop :=
  (∀ e ∈ t, ¬ e.1.WritesInstant) ∨
    ∃ before reply after, t = before ++ ⟨.writeInstant v.mailbox v.startedAt, reply⟩ :: after ∧
      (∀ e ∈ before ++ after, ¬ e.1.WritesInstant) ∧ (∀ e ∈ after, ∃ n, e = ⟨.note n, ()⟩) ∧
      Swept v before

/-- What is known of the calls that a visit has made. -/
structure Visit.Sound (v : Visit) : Prop where
  /-- The calls are those of the crawl of the mailbox. -/
  crawls : v.program.Makes v.calls
  /-- They are about this mailbox, and the clock is not looked at again. -/
  own : ∀ e ∈ v.calls, e.1 ≠ .clock ∧ e.1.Concerns v.mailbox
  /-- At most one instant is written, last, when everything was swept. -/
  last : WritesLast v v.calls
  /-- If anything fails, no instant is stored. -/
  failed : (∃ e ∈ v.calls, Fails e) → ∀ m t, ⟨.writeInstant m t, .ok ()⟩ ∉ v.calls
  /-- A visit that looks at instants asks for what changed since the one that it read first. -/
  since : v.config.mode = .lastSynced → ∀ request reply, ⟨.listItems request, reply⟩ ∈ v.calls →
    ∃ changedSince rest offset, v.calls = ⟨.readInstant v.mailbox, .ok changedSince⟩ :: rest ∧
      request.cursor = .offset offset changedSince

/-! ### Along a visit -/

section Sweep

variable {v : Visit} {changedSince : Option Instant} {f : FolderId} {t : List Event}

/-- A call of a folder writes no instant. -/
lemma not_writesInstant {c : Call} (hc : c.OfFolder v.config v.mailbox changedSince f) :
    ¬ c.WritesInstant := by
  cases c <;> first | exact id | exact fun _ => hc

/-- A folder that was crawled to its end has seen no failure. -/
lemma Exhausted.not_fails (hu : Exhausted v.config v.mailbox f t) {e : Event} (he : e ∈ t)
    (hc : e.1.OfFolder v.config v.mailbox changedSince f) : ¬ Fails e := by
  obtain ⟨hunfailed, hwritten⟩ := hu.unfailed e he
  obtain ⟨c, reply⟩ := e
  intro hfails
  cases c with
  | readInstant m => exact hc
  | writeInstant m t => exact hc
  | listFolders m parent => exact hc
  | readToken m f =>
    cases reply with
    | error failure => exact hunfailed trivial
    | ok _ => exact hfails
  | writeToken m f token =>
    cases reply with
    | error failure => exact hwritten m f token failure rfl
    | ok _ => exact hfails
  | listItems request =>
    cases reply with
    | error failure => exact hunfailed trivial
    | ok _ => exact hfails
  | fetchItems m ids =>
    cases reply with
    | error failure => exact hunfailed trivial
    | ok _ => exact hfails
  | _ => exact hfails

/-- The sweep of a mailbox after some of its folders. -/
structure Sweeping (v : Visit) (start : List Event) (folders : List FolderId) (t : List Event) :
    Prop where
  quiet : ∀ e ∈ t, ¬ e.1.WritesInstant ∧ ¬ Fails e
  openings : ∃ openings : List Opening, t = start ++ openings.flatMap Opening.events ∧
    openings.map Opening.folder = folders ∧
    ∀ o ∈ openings, o.mailbox = v.mailbox ∧
      (o.program v.config v.bound).Finishes o.events (.ok ()) ∧
      Exhausted v.config v.mailbox o.folder o.events

lemma Sweeping.writesLast {start : List Event} {folders : List FolderId}
    (ht : Sweeping v start folders t) : WritesLast v t := .inl fun e he => (ht.quiet e he).1

/-- Crawling a folder to its end takes the sweep one folder further. -/
lemma folder_sweeping {start : List Event} {folders : List FolderId}
    (ht : Sweeping v start folders t) :
    (folder v.config v.bound v.mailbox changedSince f).Upholds anything (WritesLast v)
      (fun _ => True) (fun _ => Sweeping v start (folders ++ [f])) t := by
  have hwithin := folder_within v.config v.mailbox changedSince f v.bound
  have hmakes : Program.Upholds anything _ _
    (folder v.config v.bound v.mailbox changedSince f).run [] := Program.upholds_makes _ []
  have hfolder : Program.Upholds anything _ _ _ (t ++ []) :=
    ((folder_progress v.bound changedSince).and hmakes).after t
  rw [List.append_nil] at hfolder
  refine Program.Upholds.mono hfolder ?_ ?_
  · rintro _ ⟨u, rfl, -, _, rfl, hmade⟩
    refine .inl (List.forall_mem_append.2 ⟨fun e he => (ht.quiet e he).1, fun e he => ?_⟩)
    exact not_writesInstant (hwithin.makes hmade e he)
  · rintro result _ - ⟨u, rfl, hended, _, rfl, hmade⟩
    cases result with
    | error halt => trivial
    | ok _ =>
      have hexhausted : Exhausted v.config v.mailbox f u := hended
      obtain ⟨openings, rfl, hfolders, hopenings⟩ := ht.openings
      refine ⟨List.forall_mem_append.2 ⟨ht.quiet, fun e he => ?_⟩,
        openings ++ [⟨v.mailbox, f, changedSince, u⟩], by simp, by simp [hfolders], fun o ho => ?_⟩
      · have hc := hwithin.makes hmade.makes e he
        exact ⟨not_writesInstant hc, hexhausted.not_fails he hc⟩
      · rcases List.mem_append.1 ho with ho | ho
        · exact hopenings o ho
        · cases List.mem_singleton.1 ho
          exact ⟨rfl, hmade, hexhausted⟩

/-- When all folders were swept, the instant is written. -/
lemma completion_writesLast {start : List Event} {folders : List FolderId}
    (hlisted : ⟨.listFolders v.mailbox (.wellKnown .messageRoot), .ok folders⟩ ∈ start)
    (ht : Sweeping v start folders t) :
    (completion v.mailbox v.startedAt).Upholds anything (WritesLast v) (fun _ => True)
      (fun _ _ => True) t := by
  have hwritten : ∀ reply (notes : List Note), WritesLast v
      (t ++ ⟨.writeInstant v.mailbox v.startedAt, reply⟩ :: notes.map fun n => ⟨.note n, ()⟩) := by
    intro reply notes
    obtain ⟨openings, hevents, hfolders, hopenings⟩ := ht.openings
    refine .inr ⟨t, reply, _, rfl, ?_, fun e he => ?_,
      ⟨fun e he => (ht.quiet e he).2, start, folders, openings, hevents, hlisted, hfolders,
        hopenings⟩⟩
    · refine List.forall_mem_append.2 ⟨fun e he => (ht.quiet e he).1, fun e he => ?_⟩
      obtain ⟨n, -, rfl⟩ := List.mem_map.1 he
      exact id
    · obtain ⟨n, -, rfl⟩ := List.mem_map.1 he
      exact ⟨n, rfl⟩
  rw [completion, upholds_bind, upholds_tried]
  refine ⟨ht.writesLast, fun reply _ => ⟨hwritten reply [], ?_⟩⟩
  cases reply with
  | error failure => trivial
  | ok _ =>
    refine upholds_noting.2 ⟨hwritten (.ok ()) [], fun _ => ?_⟩
    rw [List.append_assoc]
    exact ⟨hwritten (.ok ()) [.mailboxFinished v.mailbox], trivial⟩

/-- A sweep writes the instant once, and last. -/
lemma sweep_writesLast (ht : ∀ e ∈ t, ¬ e.1.WritesInstant ∧ ¬ Fails e) :
    (sweep v.config v.bound v.mailbox v.startedAt changedSince).Upholds anything (WritesLast v)
      (fun _ => True) (fun _ _ => True) t := by
  rw [sweep, upholds_bind, upholds_tried]
  refine ⟨.inl fun e he => (ht e he).1, fun reply _ => ⟨.inl ?_, ?_⟩⟩
  · exact List.forall_mem_append.2 ⟨fun e he => (ht e he).1, by simp [Call.WritesInstant]⟩
  cases reply with
  | error failure => trivial
  | ok folders =>
    have hquiet : ∀ e ∈ t ++ [⟨.listFolders v.mailbox (.wellKnown .messageRoot), .ok folders⟩],
        ¬ e.1.WritesInstant ∧ ¬ Fails e :=
      List.forall_mem_append.2 ⟨ht, by simp [Call.WritesInstant, Fails]⟩
    have hnoted : ∀ n : Note, Sweeping v (t ++ [⟨.listFolders v.mailbox (.wellKnown .messageRoot),
        .ok folders⟩] ++ [⟨.note n, ()⟩]) [] (t ++ [⟨.listFolders v.mailbox
        (.wellKnown .messageRoot), .ok folders⟩] ++ [⟨.note n, ()⟩]) := fun n =>
      ⟨List.forall_mem_append.2 ⟨hquiet, by simp [Call.WritesInstant, Fails]⟩, [], by simp, rfl,
        by simp⟩
    refine upholds_bind.2 (upholds_noting.2 ⟨.inl fun e he => (hquiet e he).1, fun _ => ?_⟩)
    refine ⟨(hnoted _).writesLast, upholds_bind.2 ?_⟩
    refine (upholds_forM _ (fun folders f h _ hh => folder_sweeping hh) folders []
      (hnoted _).writesLast (hnoted _)).mono fun _ h _ hh => ?_
    exact completion_writesLast (by simp) hh

end Sweep

/-- A visit writes the instant of its mailbox once, and last. -/
theorem timed_writesLast (v : Visit) :
    v.program.Upholds anything (WritesLast v) (fun _ _ => True) [] := by
  have hnothing : WritesLast v [] := .inl (by simp)
  suffices htimed : (timed v.config v.bound v.mailbox v.startedAt).Upholds anything (WritesLast v)
      (fun _ => True) (fun _ _ => True) [] from
    Program.Upholds.mono htimed (fun _ hinv => hinv) fun _ _ _ _ => trivial
  rw [timed, upholds_bind]
  unfold resumption
  cases v.config.mode with
  | syncToken => exact upholds_pure.2 ⟨hnothing, sweep_writesLast (by simp)⟩
  | lastSynced =>
    refine upholds_tried.2 ⟨hnothing, fun reply _ => ⟨.inl (by simp [Call.WritesInstant]), ?_⟩⟩
    cases reply with
    | error failure => trivial
    | ok changedSince => exact sweep_writesLast (by simp [Call.WritesInstant, Fails])

/-! ### What is known of a visit -/

/-- A visit that looks at instants first reads the one to resume from, and then sweeps. -/
lemma timed_run_lastSynced {config : Config} (hmode : config.mode = .lastSynced) (bound : ℕ)
    (name : String) (startedAt : Instant) :
    (timed config bound name startedAt).run =
      Program.call (.readInstant name) fun reply => ExceptT.run (do
        let changedSince ← tried (.readingInstant name) (Program.done reply)
        sweep config bound name startedAt changedSince) := by
  unfold timed resumption
  rw [hmode]
  rfl

/-- If anything fails, no instant is stored. -/
lemma WritesLast.failed {v : Visit} {t : List Event} (ht : WritesLast v t)
    (hfailed : ∃ e ∈ t, Fails e) (m : String) (instant : Instant) :
    ⟨.writeInstant m instant, .ok ()⟩ ∉ t := by
  rcases ht with hquiet | ⟨before, reply, after, rfl, hquiet, hafter, hswept⟩
  · exact fun hmem => hquiet _ hmem trivial
  intro hmem
  -- The only instant is the one that was stored, and nothing else in the visit fails.
  have hreply : reply = .ok () := by
    rcases List.mem_append.1 hmem with hmem | hmem
    · exact absurd trivial (hquiet _ (List.mem_append_left _ hmem))
    rcases List.mem_cons.1 hmem with hwrite | hmem
    · cases hwrite
      rfl
    · exact absurd trivial (hquiet _ (List.mem_append_right _ hmem))
  subst hreply
  obtain ⟨e, he, hfails⟩ := hfailed
  rcases List.mem_append.1 he with he | he
  · exact hswept.unfailed e he hfails
  rcases List.mem_cons.1 he with rfl | he
  · exact hfails
  · obtain ⟨n, rfl⟩ := hafter e he
    exact hfails

/-- What is known of a visit at any moment. -/
theorem Visit.sound {v : Visit} (hcrawls : v.program.Makes v.calls) : v.Sound where
  crawls := hcrawls
  own := (timed_concerns v.config v.mailbox v.bound v.startedAt).makes hcrawls
  last := (timed_writesLast v).makes hcrawls
  failed hfailed := ((timed_writesLast v).makes hcrawls : WritesLast v v.calls).failed hfailed
  since hmode request page hlist := by
    rw [program, timed_run_lastSynced hmode] at hcrawls
    cases hcalls : v.calls with
    | nil => simp [hcalls] at hlist
    | cons e rest =>
      rw [hcalls] at hcrawls hlist
      obtain ⟨reply, rfl, hrest⟩ := hcrawls
      have hmem : ⟨.listItems request, page⟩ ∈ rest :=
        (List.mem_cons.1 hlist).resolve_left fun h => by cases h
      cases reply with
      | error failure =>
        cases rest with
        | nil => exact absurd hmem List.not_mem_nil
        | cons e rest => exact hrest.elim
      | ok changedSince =>
        obtain ⟨f, -, -, hcursor⟩ := (sweep_within v.config v.mailbox changedSince v.bound
          v.startedAt).makes hrest _ hmem
        obtain ⟨offset, hoffset⟩ := hcursor hmode
        exact ⟨changedSince, rest, offset, rfl, hoffset⟩

end MailCollector.Crawl
