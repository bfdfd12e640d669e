import MailCollector.Proofs.Crawl.Calls
import MailCollector.Proofs.Crawl.Observed
import MailCollector.Proofs.Crawl.PlainSafety

/-!
# Visits to mailboxes

The crawl of one mailbox, from the moment at which its clock is read, is a visit.  It first learns
the instant to resume from, if the mode asks for one (`Plain.resumption`), then lists the folders,
crawls them, and writes the time at which it began (`Plain.sweep`).  The two together are the visit
once its clock was read (`Plain.timed`).  Which calls a folder and a sweep may make is settled here
along the text of the plain loop (`Plain.folder_within`, `Plain.sweep_within`).
-/

namespace MailCollector.Crawl

open MailCollector.Calendar MailCollector.Mail MailCollector.Log

namespace Plain

variable {config : Config} {bound : ℕ} {name : String}

/-! ### The parts of a visit -/

/-- The instant to resume from, if the mode looks at instants. -/
def resumption (config : Config) (name : String) : Attempt (Option Instant) :=
  match config.mode with
  | .lastSynced => tried (.readingInstant name) (Program.ask (.readInstant name))
  | .syncToken => pure none

/-- Writes the instant at which a visit began. -/
def completion (name : String) (startedAt : Instant) : Attempt Unit := do
  tried (.writingInstant name) (Program.ask (.writeInstant name startedAt))
  noting (.mailboxFinished name)

/-- A visit once the instant to resume from is known. -/
def sweep (config : Config) (bound : ℕ) (name : String) (startedAt : Instant)
    (changedSince : Option Instant) : Attempt Unit := do
  let folders ← tried (.listingFolders name)
    (Program.ask (.listFolders name (.wellKnown .messageRoot)))
  noting (if folders.isEmpty then .noFolders name else .foldersFound folders.length name)
  folders.forM (folder config bound name changedSince)
  completion name startedAt

/-- A visit once its clock was read. -/
def timed (config : Config) (bound : ℕ) (name : String) (startedAt : Instant) : Attempt Unit := do
  let changedSince ← resumption config name
  sweep config bound name startedAt changedSince

/-- A mailbox is crawled in a visit that begins with a look at the clock. -/
lemma mailbox_eq (config : Config) (bound : ℕ) (name : String) :
    mailbox config bound name =
      (ExceptT.lift (Program.ask .clock) >>= timed config bound name) := by
  unfold mailbox timed resumption
  cases config.mode <;> rfl

/-- The first call of a visit reads the clock. -/
lemma mailbox_run (config : Config) (bound : ℕ) (name : String) :
    (mailbox config bound name).run = Program.call .clock fun startedAt =>
      (timed config bound name startedAt).run := by
  rw [mailbox_eq, ExceptT.run_bind, ExceptT.run_lift, bind_map_left]
  rfl

end Plain

/-! ### The calls of a visit -/

/-- The call is about no mailbox but this one, if it is about one. -/
def Call.Concerns (name : String) (c : Call) : Prop :=
  ∀ mailbox, c.mailbox? = some mailbox → mailbox = name

/-- A call that a batch of items may make.  It fetches at least one item. -/
def Call.OfBatch (mailbox : String) : Call → Prop
  | .fetchItems m ids => m = mailbox ∧ ids ≠ []
  | .store _ | .note _ => True
  | _ => False

/-- A call that the crawl of a folder may make.  Where the mode looks at instants, it lists what
changed since a given one. -/
def Call.OfFolder (config : Config) (mailbox : String) (changedSince : Option Instant)
    (folder : FolderId) : Call → Prop
  | .readToken m f | .writeToken m f _ => m = mailbox ∧ f = folder
  | .listItems request => request.mailbox = mailbox ∧ request.folder = folder ∧
    (config.mode = .lastSynced → ∃ offset, request.cursor = .offset offset changedSince)
  | .fetchItems m ids => m = mailbox ∧ ids ≠ []
  | .store _ | .note _ => True
  | _ => False

/-- A batch of a folder makes calls of the folder. -/
lemma Call.OfBatch.ofFolder {mailbox : String} {c : Call} (hc : c.OfBatch mailbox)
    (config : Config) (changedSince : Option Instant) (folder : FolderId) :
    c.OfFolder config mailbox changedSince folder := by
  cases c <;> first | exact hc | exact hc.elim

/-- A batch of a folder neither asks for ids nor stores a token. -/
lemma Call.OfBatch.quiet {mailbox : String} {c : Call} (hc : c.OfBatch mailbox) :
    ¬ c.Lists ∧ ¬ c.WritesToken := by
  cases c <;> first | exact hc.elim | exact ⟨id, id⟩

/-- A call that a visit may make once the instant to resume from is known. -/
def Call.OfSweep (config : Config) (mailbox : String) (startedAt : Instant)
    (changedSince : Option Instant) : Call → Prop
  | .listFolders m parent => m = mailbox ∧ parent = .wellKnown .messageRoot
  | .writeInstant m t => m = mailbox ∧ t = startedAt
  | c => ∃ folder, c.OfFolder config mailbox changedSince folder

namespace Plain

variable {α β : Type} {calls : Call → Prop}

/-- The attempt makes such calls only. -/
def Attempt.Within (calls : Call → Prop) (p : Attempt α) : Prop :=
  p.run.Within calls fun _ => True

namespace Attempt

lemma Within.mono {calls' : Call → Prop} {p : Attempt α} (hp : p.Within calls)
    (hcalls : ∀ c, calls c → calls' c) : p.Within calls' :=
  Program.Within.mono hp hcalls fun _ _ => trivial

lemma Within.bind {p : Attempt α} {f : α → Attempt β} (hp : p.Within calls)
    (hf : ∀ a, (f a).Within calls) : (p >>= f).Within calls := by
  refine Program.Within.bind hp fun result _ => ?_
  cases result with
  | ok a => exact hf a
  | error halt => trivial

lemma within_lift {p : Program α} {post : α → Prop} (hp : p.Within calls post) :
    Within calls (ExceptT.lift p) := by
  unfold Within
  rw [ExceptT.run_lift, map_eq_pure_bind]
  exact hp.bind fun _ _ => trivial

lemma within_noting {n : Note} (hn : calls (.note n)) : (noting n).Within calls :=
  within_lift (show (Program.note n).Within calls fun _ => True from ⟨hn, fun _ => trivial⟩)

lemma within_tried {step : Step} {p : Program (Except Failure α)}
    (hp : p.Within calls fun _ => True) : (tried step p).Within calls := by
  refine (within_lift hp).bind fun result => ?_
  cases result <;> trivial

lemma within_forM {f : α → Attempt Unit} {as : List α} (hf : ∀ a ∈ as, (f a).Within calls) :
    (as.forM f).Within calls := by
  induction as with
  | nil => trivial
  | cons a as ih =>
    rw [List.forM_eq_forM, List.forM_cons]
    exact (hf a List.mem_cons_self).bind fun _ => ih fun a ha => hf a (List.mem_cons_of_mem _ ha)

/-- An attempt all whose calls keep a property upholds it. -/
lemma Within.upholds {allowed : List Event → Event → Prop} {inv broken still : List Event → Prop}
    {p : Attempt α} (hp : p.Within calls) (hinv : ∀ h, still h → inv h)
    (hbroken : ∀ h, still h → broken h)
    (hkeep : ∀ h e, still h → calls e.1 → still (h ++ [e])) {h : List Event} (hstill : still h) :
    p.Upholds allowed inv broken (fun _ => still) h := by
  have hrun : p.run.Upholds allowed still (fun _ _ => True) h :=
    Program.Within.upholds hp hstill hkeep
  refine hrun.mono hinv fun result h hstill _ => ?_
  cases result with
  | ok a => exact hstill
  | error halt => exact hbroken h hstill

end Attempt

open Attempt

section Within

variable (config : Config) (mailbox : String) (changedSince : Option Instant) (f : FolderId)

/-- Records are handed over by calls to the sink. -/
lemma hand_within_of {calls : Call → Prop} (hcalls : ∀ record, calls (.store record))
    (records : List Record) : (records.forM hand).Within calls fun _ => True := by
  induction records with
  | nil => trivial
  | cons record records ih =>
    rw [List.forM_eq_forM, List.forM_cons]
    exact ⟨hcalls record, fun _ => ih⟩

lemma hand_within (records : List Record) :
    (records.forM hand).Within (Call.OfBatch mailbox) fun _ => True :=
  hand_within_of (fun _ => trivial) records

lemma batch_within {ids : List ItemId} (hids : ids ≠ []) :
    (batch mailbox f ids).Within (Call.OfBatch mailbox) := by
  refine Within.bind (within_tried ⟨⟨rfl, hids⟩, fun _ => trivial⟩) fun items => ?_
  refine Within.bind (within_noting trivial) fun _ => ?_
  refine Within.bind (within_lift (recordsOf_within _ mailbox f items)) fun records => ?_
  exact within_lift (hand_within mailbox records)

/-- The batches of a page fetch at least one item each. -/
lemma batches_within (size : ℕ) (ids : List ItemId) :
    ((pieces size ids).forM (batch mailbox f)).Within (Call.OfBatch mailbox) :=
  within_forM fun _ hpiece => batch_within mailbox f (ne_nil_of_mem_pieces hpiece)

/-- The token of a folder is written, if there is one, and nothing else is done. -/
lemma commit_within_of {calls : Call → Prop} {token : Option String}
    (hwrite : ∀ t, token = some t → calls (.writeToken mailbox f t)) (hnote : ∀ n, calls (.note n))
    (number : ℕ) : (commit mailbox f number token).Within calls := by
  cases token with
  | none => trivial
  | some token =>
    refine Within.bind (within_tried ⟨hwrite token rfl, fun _ => trivial⟩) fun _ => ?_
    exact within_noting (hnote _)

lemma commit_within (number : ℕ) (token : Option String) :
    (commit mailbox f number token).Within (Call.OfFolder config mailbox changedSince f) :=
  commit_within_of mailbox f (fun _ _ => ⟨rfl, rfl⟩) (fun _ => trivial) number

lemma pages_within (bound : ℕ) (token : Option String) (offset number : ℕ) :
    (pages config mailbox f changedSince bound token offset number).Within
      (Call.OfFolder config mailbox changedSince f) := by
  induction bound generalizing token offset number with
  | zero => trivial
  | succ bound ih =>
    rw [pages]
    refine Within.bind (within_tried ⟨⟨rfl, rfl, fun hmode => ?_⟩, fun _ => trivial⟩) fun page => ?_
    · exact ⟨offset, by rw [hmode]⟩
    refine Within.bind (within_noting trivial) fun _ => ?_
    refine Within.bind ((batches_within mailbox f _ _).mono fun c hc =>
      hc.ofFolder config changedSince f) fun _ => ?_
    split
    · exact commit_within config mailbox changedSince f _ _
    · exact ih _ _ _

/-- The crawl of a folder makes calls of this folder only. -/
lemma folder_within (bound : ℕ) :
    (folder config bound mailbox changedSince f).Within
      (Call.OfFolder config mailbox changedSince f) := by
  unfold folder
  cases config.mode with
  | syncToken =>
    refine Within.bind (within_tried ⟨⟨rfl, rfl⟩, fun _ => trivial⟩) fun token => ?_
    exact pages_within config mailbox changedSince f bound _ 0 0
  | lastSynced => exact pages_within config mailbox changedSince f bound _ 0 0

/-- A sweep lists folders, crawls them and writes the time at which its visit began. -/
lemma sweep_within (bound : ℕ) (startedAt : Instant) :
    (sweep config bound mailbox startedAt changedSince).Within
      (Call.OfSweep config mailbox startedAt changedSince) := by
  have hnote : ∀ n, Call.OfSweep config mailbox startedAt changedSince (.note n) :=
    fun n => ⟨.default, trivial⟩
  have hfolder : ∀ f c, Call.OfFolder config mailbox changedSince f c →
      Call.OfSweep config mailbox startedAt changedSince c := by
    intro f c hc
    cases c <;> first | exact ⟨f, hc⟩ | exact hc.elim
  refine Within.bind (within_tried ⟨⟨rfl, rfl⟩, fun _ => trivial⟩) fun folders => ?_
  refine Within.bind (within_noting (hnote _)) fun _ => ?_
  refine Within.bind (within_forM fun f _ => ?_) fun _ => ?_
  · exact (folder_within config mailbox changedSince f bound).mono (hfolder f)
  refine Within.bind (within_tried ⟨⟨rfl, rfl⟩, fun _ => trivial⟩) fun _ => ?_
  exact within_noting (hnote _)

/-- A call of a sweep is about its own mailbox, and it does not look at the clock. -/
lemma concerns_of_ofSweep {startedAt : Instant} {c : Call}
    (hc : c.OfSweep config mailbox startedAt changedSince) :
    c ≠ .clock ∧ c.Concerns mailbox := by
  have hnone : ∀ {c : Call}, c.mailbox? = none → c.Concerns mailbox := by
    intro c hc name hname
    rw [hc] at hname
    cases hname
  have hsome : ∀ {c : Call} {m : String}, c.mailbox? = some m → m = mailbox →
      c.Concerns mailbox := by
    rintro c m hm rfl name hname
    exact Option.some.inj (hname.symm.trans hm)
  cases c with
  | store record => exact ⟨by simp, hnone rfl⟩
  | note n => exact ⟨by simp, hnone rfl⟩
  | listFolders m parent => exact ⟨by simp, hsome rfl hc.1⟩
  | writeInstant m t => exact ⟨by simp, hsome rfl hc.1⟩
  | readToken m f => exact ⟨by simp, hsome rfl hc.choose_spec.1⟩
  | writeToken m f token => exact ⟨by simp, hsome rfl hc.choose_spec.1⟩
  | listItems request => exact ⟨by simp, hsome rfl hc.choose_spec.1⟩
  | fetchItems m ids => exact ⟨by simp, hsome rfl hc.choose_spec.1⟩
  | _ => exact hc.choose_spec.elim

/-- After its first call a visit is about its own mailbox and does not look at the clock. -/
theorem timed_concerns (bound : ℕ) (startedAt : Instant) :
    (timed config bound mailbox startedAt).Within fun c => c ≠ .clock ∧ c.Concerns mailbox := by
  have hresumption : (resumption config mailbox).Within fun c =>
      c ≠ .clock ∧ c.Concerns mailbox := by
    unfold resumption
    cases config.mode with
    | syncToken => trivial
    | lastSynced =>
      refine within_tried ⟨⟨by simp, ?_⟩, fun _ => trivial⟩
      rintro name ⟨⟩
      rfl
  exact hresumption.bind fun changedSince =>
    (sweep_within config mailbox changedSince bound startedAt).mono
      fun c hc => concerns_of_ofSweep config mailbox changedSince hc

end Within

end Plain

end MailCollector.Crawl
