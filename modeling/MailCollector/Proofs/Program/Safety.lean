import MailCollector.Proofs.Program.Laws

/-!
# What holds at every moment of a program

A history is the list of all calls that were made so far, with their replies.  A program upholds a
property of histories if the property holds before its first call and after each of its calls, for
all replies that its surroundings may give (`Program.Upholds`).  Which replies those are may depend
on the history, so that the surroundings can be a server with a memory.

A program that goes on after another one upholds what the two uphold in turn (`upholds_bind`), and
what a program upholds holds for every initial part of its trace in a world whose answers are
admissible (`Upholds.trace`).  A program that begins like another one upholds what the other one
does (`Begins.upholds`).
-/

namespace MailCollector.Crawl

/-- Every call is answered as the surroundings may answer it after the history before it. -/
def Admits (allowed : List Event → Event → Prop) : List Event → List Event → Prop
  | _, [] => True
  | h, e :: t => allowed h e ∧ Admits allowed (h ++ [e]) t

section Admits

variable {allowed : List Event → Event → Prop}

@[simp] lemma admits_nil (h : List Event) : Admits allowed h [] := trivial

@[simp] lemma admits_cons (h : List Event) (e : Event) (t : List Event) :
    Admits allowed h (e :: t) ↔ allowed h e ∧ Admits allowed (h ++ [e]) t := Iff.rfl

/-- A history that goes on is admissible if both parts of it are. -/
lemma admits_append (h t u : List Event) :
    Admits allowed h (t ++ u) ↔ Admits allowed h t ∧ Admits allowed (h ++ t) u := by
  induction t generalizing h with
  | nil => simp
  | cons e t ih => simp [ih, and_assoc]

/-- What is true of all admissible answers is true of those in an admissible history. -/
lemma Admits.forall_mem {answered : Event → Prop} (hallowed : ∀ h e, allowed h e → answered e)
    {h t : List Event} (ht : Admits allowed h t) : ∀ e ∈ t, answered e := by
  induction t generalizing h with
  | nil => simp
  | cons e t ih => exact List.forall_mem_cons.2 ⟨hallowed h e ht.1, ih ht.2⟩

/-- Surroundings that may answer anything admit every history. -/
lemma admits_true (h t : List Event) : Admits (fun _ _ => True) h t := by
  induction t generalizing h with
  | nil => trivial
  | cons e t ih => exact ⟨trivial, ih _⟩

end Admits

namespace Program

variable {α β σ : Type} {allowed : List Event → Event → Prop} {inv : List Event → Prop}
  {post : α → List Event → Prop}

/-- Started after some history, the program keeps `inv` at every moment and ends with `post`. -/
def Upholds (allowed : List Event → Event → Prop) (inv : List Event → Prop)
    (post : α → List Event → Prop) : Program α → List Event → Prop
  | done a, h => inv h ∧ post a h
  | crash _, h => inv h
  | call c resume, h =>
    inv h ∧ ∀ reply, allowed h ⟨c, reply⟩ →
      (resume reply).Upholds allowed inv post (h ++ [⟨c, reply⟩])

@[simp] lemma upholds_done (a : α) (h : List Event) :
    (done a).Upholds allowed inv post h ↔ inv h ∧ post a h := Iff.rfl

@[simp] lemma upholds_crash (reason : Crash) (h : List Event) :
    (crash reason : Program α).Upholds allowed inv post h ↔ inv h := Iff.rfl

@[simp] lemma upholds_call (c : Call) (resume : c.Reply → Program α) (h : List Event) :
    (call c resume).Upholds allowed inv post h ↔
      inv h ∧ ∀ reply, allowed h ⟨c, reply⟩ →
        (resume reply).Upholds allowed inv post (h ++ [⟨c, reply⟩]) := Iff.rfl

/-- What a program upholds holds before its first call. -/
lemma Upholds.start {p : Program α} {h : List Event} (hp : p.Upholds allowed inv post h) :
    inv h := by
  cases p with
  | done a => exact hp.1
  | crash reason => exact hp
  | call c resume => exact hp.1

/-- A program upholds what it upholds before and after it goes on. -/
lemma upholds_bind {post : β → List Event → Prop} (p : Program α) (f : α → Program β)
    (h : List Event) :
    (p >>= f).Upholds allowed inv post h ↔
      p.Upholds allowed inv (fun a h => (f a).Upholds allowed inv post h) h := by
  induction p generalizing h with
  | done a => exact ⟨fun hp => ⟨hp.start, hp⟩, fun hp => hp.2⟩
  | crash reason => exact Iff.rfl
  | call c resume ih => simp [ih]

/-- A program that upholds something upholds what follows from it. -/
lemma Upholds.mono {inv' : List Event → Prop} {post' : α → List Event → Prop} {p : Program α}
    {h : List Event} (hp : p.Upholds allowed inv post h) (hinv : ∀ h, inv h → inv' h)
    (hpost : ∀ a h, inv h → post a h → post' a h) : p.Upholds allowed inv' post' h := by
  induction p generalizing h with
  | done a => exact ⟨hinv _ hp.1, hpost _ _ hp.1 hp.2⟩
  | crash reason => exact hinv _ hp
  | call c resume ih =>
    exact ⟨hinv _ hp.1, fun reply hreply => ih reply (hp.2 reply hreply)⟩

/-- A program all whose calls keep a property upholds it. -/
lemma Within.upholds {calls : Call → Prop} {result : α → Prop} {p : Program α}
    (hp : p.Within calls result) {h : List Event} (hinv : inv h)
    (hkeep : ∀ h e, inv h → calls e.1 → inv (h ++ [e])) :
    p.Upholds allowed inv (fun a _ => result a) h := by
  induction p generalizing h with
  | done a => exact ⟨hinv, hp⟩
  | crash reason => exact hinv
  | call c resume ih =>
    exact ⟨hinv, fun reply _ => ih reply (hp.2 reply) (hkeep _ _ hinv hp.1)⟩

/-- A program adds to the history only calls that it may make. -/
lemma Within.upholds_calls {calls : Call → Prop} {result : α → Prop} {p : Program α}
    (hp : p.Within calls result) (h : List Event) :
    p.Upholds allowed (fun _ => True) (fun a h' => result a ∧ ∃ t, h' = h ++ t ∧ ∀ e ∈ t, calls e.1)
      h := by
  have hupholds : p.Upholds allowed (fun h' => ∃ t, h' = h ++ t ∧ ∀ e ∈ t, calls e.1)
      (fun a _ => result a) h := by
    refine hp.upholds ⟨[], (List.append_nil h).symm, by simp⟩ ?_
    rintro _ e ⟨t, rfl, ht⟩ he
    exact ⟨t ++ [e], List.append_assoc _ _ _,
      List.forall_mem_append.2 ⟨ht, List.forall_mem_singleton.2 he⟩⟩
  exact hupholds.mono (fun _ _ => trivial) fun _ _ hcalls hresult => ⟨hresult, hcalls⟩

/-- A program without calls leaves the history as it is. -/
lemma Within.upholds_silent {result : α → Prop} {p : Program α}
    (hp : p.Within (fun _ => False) result) {h : List Event} (hinv : inv h) :
    p.Upholds allowed inv (fun a h' => h' = h ∧ result a) h := by
  cases p with
  | done a => exact ⟨hinv, rfl, hp⟩
  | crash reason => exact hinv
  | call c resume => exact hp.1.elim

/-- A program only adds to the history. -/
lemma Upholds.extends {p : Program α} {h : List Event} (hp : p.Upholds allowed inv post h) :
    p.Upholds allowed inv (fun a h' => h <+: h' ∧ post a h') h := by
  suffices hgoal : ∀ h₀, h₀ <+: h → p.Upholds allowed inv (fun a h' => h₀ <+: h' ∧ post a h') h from
    hgoal h List.prefix_rfl
  intro h₀ hbegins
  induction p generalizing h with
  | done a => exact ⟨hp.1, hbegins, hp.2⟩
  | crash reason => exact hp
  | call c resume ih =>
    exact ⟨hp.1, fun reply hreply =>
      ih reply (hp.2 reply hreply) (hbegins.trans (List.prefix_append h _))⟩

/-- For a program that makes certain calls only, it does not matter how the others are answered. -/
lemma Upholds.restrict {allowed' : List Event → Event → Prop} {calls : Call → Prop}
    {result : α → Prop} {p : Program α} {h : List Event} (hp : p.Upholds allowed' inv post h)
    (hwithin : p.Within calls result)
    (hallowed : ∀ h e, calls e.1 → allowed h e → allowed' h e) :
    p.Upholds allowed inv (fun a h => result a ∧ post a h) h := by
  induction p generalizing h with
  | done a => exact ⟨hp.1, hwithin, hp.2⟩
  | crash reason => exact hp
  | call c resume ih =>
    exact ⟨hp.1, fun reply hreply =>
      ih reply (hp.2 reply (hallowed _ _ hwithin.1 hreply)) (hwithin.2 reply)⟩

/-- What a program upholds on its own it upholds after any history. -/
lemma Upholds.after {p : Program α} {t : List Event} (h : List Event)
    (hp : p.Upholds (fun _ _ => True) inv post t) :
    p.Upholds allowed (fun h' => ∃ t, h' = h ++ t ∧ inv t) (fun a h' => ∃ t, h' = h ++ t ∧ post a t)
      (h ++ t) := by
  induction p generalizing t with
  | done a => exact ⟨⟨t, rfl, hp.1⟩, t, rfl, hp.2⟩
  | crash reason => exact ⟨t, rfl, hp⟩
  | call c resume ih =>
    refine ⟨⟨t, rfl, hp.1⟩, fun reply _ => ?_⟩
    rw [List.append_assoc]
    exact ih reply (hp.2 reply trivial)

/-- A program upholds what one upholds that it begins like, and if it does not give up, it ends as
the other one does. -/
lemma Begins.upholds {cut : α → Prop} {same : α → β → Prop} {post : β → List Event → Prop}
    {p : Program α} {q : Program β} {h : List Event} (hpq : Begins cut same p q)
    (hq : q.Upholds allowed inv post h) :
    p.Upholds allowed inv (fun a h => cut a ∨ ∃ b, same a b ∧ post b h) h := by
  induction hpq generalizing h with
  | cut ha q => exact ⟨hq.start, .inl ha⟩
  | done hab => exact ⟨hq.1, .inr ⟨_, hab, hq.2⟩⟩
  | crash reason => exact hq
  | call c _ ih => exact ⟨hq.1, fun reply hreply => ih reply (hq.2 reply hreply)⟩

/-- A program upholds together what it upholds separately. -/
lemma Upholds.and {inv' : List Event → Prop} {post' : α → List Event → Prop} {p : Program α}
    {h : List Event} (hp : p.Upholds allowed inv post h) (hp' : p.Upholds allowed inv' post' h) :
    p.Upholds allowed (fun h => inv h ∧ inv' h) (fun a h => post a h ∧ post' a h) h := by
  induction p generalizing h with
  | done a => exact ⟨⟨hp.1, hp'.1⟩, hp.2, hp'.2⟩
  | crash reason => exact ⟨hp, hp'⟩
  | call c resume ih =>
    exact ⟨⟨hp.1, hp'.1⟩, fun reply hreply => ih reply (hp.2 reply hreply) (hp'.2 reply hreply)⟩

/-! ### The calls of a program, one after the other -/

/-- The program may begin with these calls. -/
def Makes : Program α → List Event → Prop
  | _, [] => True
  | call c resume, e :: t => ∃ reply, e = ⟨c, reply⟩ ∧ (resume reply).Makes t
  | done _, _ :: _ | crash _, _ :: _ => False

/-- The program may make these calls and then end with a result. -/
def Finishes : Program α → List Event → α → Prop
  | done a, [], result => a = result
  | call c resume, e :: t, result => ∃ reply, e = ⟨c, reply⟩ ∧ (resume reply).Finishes t result
  | done _, _ :: _, _ | crash _, _, _ | call _ _, [], _ => False

@[simp] lemma makes_nil (p : Program α) : p.Makes [] := by
  cases p <;> trivial

/-- At every moment a program has made some of its calls, and at its end all of them. -/
lemma upholds_makes (p : Program α) (h : List Event) :
    p.Upholds allowed (fun h' => ∃ t, h' = h ++ t ∧ p.Makes t)
      (fun a h' => ∃ t, h' = h ++ t ∧ p.Finishes t a) h := by
  have hstart : ∃ t, h = h ++ t ∧ p.Makes t := ⟨[], (List.append_nil h).symm, p.makes_nil⟩
  induction p generalizing h with
  | done a => exact ⟨hstart, [], (List.append_nil h).symm, rfl⟩
  | crash reason => exact hstart
  | call c resume ih =>
    refine ⟨hstart, fun reply _ => ?_⟩
    refine (ih reply (h ++ [⟨c, reply⟩]) ⟨[], (List.append_nil _).symm, makes_nil _⟩).mono ?_ ?_
    · rintro _ ⟨t, rfl, ht⟩
      exact ⟨⟨c, reply⟩ :: t, List.append_assoc _ _ _, reply, rfl, ht⟩
    · rintro a _ - ⟨t, rfl, ht⟩
      exact ⟨⟨c, reply⟩ :: t, List.append_assoc _ _ _, reply, rfl, ht⟩

/-- In its surroundings a program is answered as they may answer. -/
lemma upholds_admits (p : Program α) (h : List Event) :
    p.Upholds allowed (fun h' => ∃ t, h' = h ++ t ∧ Admits allowed h t)
      (fun _ h' => ∃ t, h' = h ++ t ∧ Admits allowed h t) h := by
  suffices hgoal : ∀ t, Admits allowed h t →
      p.Upholds allowed (fun h' => ∃ t, h' = h ++ t ∧ Admits allowed h t)
        (fun _ h' => ∃ t, h' = h ++ t ∧ Admits allowed h t) (h ++ t) by
    have hstart := hgoal [] trivial
    rwa [List.append_nil] at hstart
  intro t ht
  induction p generalizing t with
  | done a => exact ⟨⟨t, rfl, ht⟩, t, rfl, ht⟩
  | crash reason => exact ⟨t, rfl, ht⟩
  | call c resume ih =>
    refine ⟨⟨t, rfl, ht⟩, fun reply hreply => ?_⟩
    rw [List.append_assoc]
    exact ih reply (t ++ [⟨c, reply⟩]) ((admits_append h t _).2 ⟨ht, hreply, trivial⟩)

/-- When a program has ended after its calls, what it upholds holds of its result. -/
lemma Upholds.finishes {p : Program α} {h t : List Event} {a : α}
    (hp : p.Upholds (fun _ _ => True) inv post h) (ht : p.Finishes t a) : post a (h ++ t) := by
  induction p generalizing h t with
  | done b =>
    cases t with
    | nil =>
      cases ht
      rw [List.append_nil]
      exact hp.2
    | cons e t => exact ht.elim
  | crash reason => exact ht.elim
  | call c resume ih =>
    cases t with
    | nil => exact ht.elim
    | cons e t =>
      obtain ⟨reply, rfl, ht⟩ := ht
      rw [List.append_cons]
      exact ih reply (hp.2 reply trivial) ht

/-- A program that has ended after its calls has made them. -/
lemma Finishes.makes {p : Program α} {t : List Event} {a : α} (ht : p.Finishes t a) :
    p.Makes t := by
  induction p generalizing t with
  | done b =>
    cases t with
    | nil => trivial
    | cons e t => exact ht.elim
  | crash reason => exact ht.elim
  | call c resume ih =>
    cases t with
    | nil => trivial
    | cons e t =>
      obtain ⟨reply, rfl, ht⟩ := ht
      exact ⟨reply, rfl, ih reply ht⟩

/-- What a program upholds holds after the calls that it has made. -/
lemma Upholds.makes {p : Program α} {h t : List Event}
    (hp : p.Upholds (fun _ _ => True) inv post h) (ht : p.Makes t) : inv (h ++ t) := by
  induction p generalizing h t with
  | done b =>
    cases t with
    | nil =>
      rw [List.append_nil]
      exact hp.1
    | cons e t => exact ht.elim
  | crash reason =>
    cases t with
    | nil =>
      rw [List.append_nil]
      exact hp
    | cons e t => exact ht.elim
  | call c resume ih =>
    cases t with
    | nil =>
      rw [List.append_nil]
      exact hp.1
    | cons e t =>
      obtain ⟨reply, rfl, ht⟩ := ht
      rw [List.append_cons]
      exact ih reply (hp.2 reply trivial) ht

/-- The calls that a program has made are allowed. -/
lemma Within.makes {calls : Call → Prop} {result : α → Prop} {p : Program α}
    (hp : p.Within calls result) {t : List Event} (ht : p.Makes t) : ∀ e ∈ t, calls e.1 := by
  have hupholds : p.Upholds (fun _ _ => True) (fun h => ∀ e ∈ h, calls e.1) _ [] :=
    hp.upholds (by simp) fun h e hh he =>
      List.forall_mem_append.2 ⟨hh, List.forall_mem_singleton.2 he⟩
  exact hupholds.makes ht

section World

variable {world : World σ} {p : Program α} {h : List Event} {s : σ}

/-- What a program upholds holds at every moment of its run in an admissible world. -/
lemma Upholds.trace (hp : p.Upholds allowed inv post h) {t : List Event}
    (ht : t <+: p.trace world s) (hadmits : Admits allowed h t) : inv (h ++ t) := by
  induction p generalizing h s t with
  | done a =>
    obtain rfl := List.prefix_nil.1 ht
    rw [List.append_nil]
    exact hp.start
  | crash reason =>
    obtain rfl := List.prefix_nil.1 ht
    rw [List.append_nil]
    exact hp
  | call c resume ih =>
    rw [trace_call, List.prefix_cons_iff] at ht
    rcases ht with rfl | ⟨t, rfl, ht⟩
    · rw [List.append_nil]
      exact hp.1
    · rw [admits_cons] at hadmits
      rw [List.append_cons]
      exact ih _ (hp.2 _ hadmits.1) ht hadmits.2

/-- A program that runs to its end in an admissible world ends with `post`. -/
lemma Upholds.run (hp : p.Upholds allowed inv post h) {a : α}
    (hadmits : Admits allowed h (p.trace world s)) (hrun : (p.run world s).1 = .ok a) :
    post a (h ++ p.trace world s) := by
  induction p generalizing h s with
  | done b =>
    cases hrun
    rw [trace_done, List.append_nil]
    exact hp.2
  | crash reason => cases hrun
  | call c resume ih =>
    rw [trace_call, admits_cons] at hadmits
    rw [trace_call, List.append_cons]
    exact ih _ (hp.2 _ hadmits.1) hadmits.2 hrun

/-- In a world that gives certain answers only, every run gets such answers. -/
lemma trace_admits {answered : Event → Prop} (hworld : ∀ c s, answered ⟨c, (world.answer c s).1⟩)
    (p : Program α) (h : List Event) (s : σ) :
    Admits (fun _ e => answered e) h (p.trace world s) := by
  induction p generalizing h s with
  | done a => trivial
  | crash reason => trivial
  | call c resume ih => exact ⟨hworld c s, ih _ _ _⟩

/-- What is true of all answers of a world is true of all events of a run in it. -/
lemma forall_mem_trace (answered : Event → Prop)
    (hworld : ∀ c s, answered ⟨c, (world.answer c s).1⟩) (p : Program α) (s : σ) :
    ∀ e ∈ p.trace world s, answered e := by
  have hadmits := trace_admits hworld p [] s
  exact hadmits.forall_mem fun _ e (he : answered e) => he

end World

end Program

/-! ### Worlds with a memory -/

/-- A world that remembers all its calls and answers by them. -/
def World.remembering (answer : List Event → (c : Call) → c.Reply) : World (List Event) where
  answer c h := (answer h c, h ++ [⟨c, answer h c⟩])

section Remembering

variable {α : Type} {answer : List Event → (c : Call) → c.Reply}

/-- A world with a memory ends with all its history. -/
lemma Program.run_remembering (p : Program α) (h : List Event) :
    (p.run (World.remembering answer) h).2 = h ++ p.trace (World.remembering answer) h := by
  induction p generalizing h with
  | done a => exact (List.append_nil h).symm
  | crash reason => exact (List.append_nil h).symm
  | call c resume ih => exact (ih _ _).trans (List.append_assoc _ _ _)

/-- A world with a memory is admissible if each of its answers is. -/
lemma Program.remembering_admits {allowed : List Event → Event → Prop}
    (hanswer : ∀ h c, allowed h ⟨c, answer h c⟩) (p : Program α) (h : List Event) :
    Admits allowed h (p.trace (World.remembering answer) h) := by
  induction p generalizing h with
  | done a => trivial
  | crash reason => trivial
  | call c resume ih => exact ⟨hanswer h c, ih _ _⟩

end Remembering

end MailCollector.Crawl
