import MailCollector.Crawl.Program
import Mathlib.Data.List.Basic
import Mathlib.Order.Basic
import Mathlib.Tactic.Common

/-!
# Laws of programs of calls

A program of calls is a finite tree, so the laws of its monad are proved by induction over the tree,
and so is what its trace and its result are in a given world.

`Begins` relates a program that may be cut short to a program that goes on: the two make the same
calls until the first one gives up.  Whatever the world answers, the trace of the shorter program
is then an initial part of the other trace (`Begins.trace_isPrefix`), and if the shorter one did not
give up the two traces and results agree (`Begins.run_eq`).
-/

namespace MailCollector.Crawl.Program

variable {α β γ δ σ : Type}

/-! ### The monad -/

@[simp] lemma pure_eq_done (a : α) : (pure a : Program α) = done a := rfl

@[simp] lemma done_bind (a : α) (f : α → Program β) : (done a >>= f) = f a := rfl

@[simp] lemma crash_bind (reason : Crash) (f : α → Program β) :
    (crash reason >>= f) = crash reason := rfl

@[simp] lemma call_bind (c : Call) (resume : c.Reply → Program α) (f : α → Program β) :
    (call c resume >>= f) = call c fun reply => resume reply >>= f := rfl

@[simp] lemma ask_bind (c : Call) (f : c.Reply → Program β) :
    (ask c >>= f) = call c f := rfl

@[simp] lemma note_bind (n : Log.Note) (f : Unit → Program β) :
    (note n >>= f) = call (.note n) f := rfl

/-- Going on with nothing changes nothing. -/
lemma bind_done (p : Program α) : (p >>= done) = p := by
  induction p with
  | done a => rfl
  | crash reason => rfl
  | call c resume ih =>
    rw [call_bind]
    exact congrArg (call c) (funext ih)

/-- Programs may be regrouped. -/
protected lemma bind_assoc (p : Program α) (f : α → Program β) (g : β → Program γ) :
    (p >>= f >>= g) = p >>= fun a => f a >>= g := by
  induction p with
  | done a => rfl
  | crash reason => rfl
  | call c resume ih =>
    simp only [call_bind]
    exact congrArg (call c) (funext ih)

instance : LawfulMonad Program :=
  LawfulMonad.mk' Program bind_done (fun _ _ => rfl) Program.bind_assoc

/-! ### Runs and traces -/

section World

variable (world : World σ)

@[simp] lemma trace_done (a : α) (s : σ) : (done a).trace world s = [] := rfl

@[simp] lemma trace_crash (reason : Crash) (s : σ) :
    (crash reason : Program α).trace world s = [] := rfl

@[simp] lemma trace_call (c : Call) (resume : c.Reply → Program α) (s : σ) :
    (call c resume).trace world s =
      ⟨c, (world.answer c s).1⟩ ::
        (resume (world.answer c s).1).trace world (world.answer c s).2 := rfl

@[simp] lemma run_done (a : α) (s : σ) : (done a).run world s = (.ok a, s) := rfl

@[simp] lemma run_crash (reason : Crash) (s : σ) :
    (crash reason : Program α).run world s = (.error reason, s) := rfl

@[simp] lemma run_call (c : Call) (resume : c.Reply → Program α) (s : σ) :
    (call c resume).run world s =
      (resume (world.answer c s).1).run world (world.answer c s).2 := rfl

/-- A program followed by another one first makes its own calls. -/
lemma trace_bind (p : Program α) (f : α → Program β) (s : σ) :
    (p >>= f).trace world s =
      p.trace world s ++
        match p.run world s with
        | (.ok a, s') => (f a).trace world s'
        | (.error _, _) => [] := by
  induction p generalizing s with
  | done a => rfl
  | crash reason => rfl
  | call c resume ih => simp [ih]

/-- A program followed by another one ends as the other one does, unless it crashes. -/
lemma run_bind (p : Program α) (f : α → Program β) (s : σ) :
    (p >>= f).run world s =
      match p.run world s with
      | (.ok a, s') => (f a).run world s'
      | (.error reason, s') => (.error reason, s') := by
  induction p generalizing s with
  | done a => rfl
  | crash reason => rfl
  | call c resume ih => simp [ih]

end World

/-! ### The calls and the results of a program -/

/-- Whatever it is answered, the program makes allowed calls only and ends with one of the results
in `post`. -/
def Within (allowed : Call → Prop) (post : α → Prop) : Program α → Prop
  | done a => post a
  | crash _ => True
  | call c resume => allowed c ∧ ∀ reply, (resume reply).Within allowed post

section Within

variable {allowed : Call → Prop} {post : α → Prop}

@[simp] lemma within_done (a : α) : (done a).Within allowed post ↔ post a := Iff.rfl

@[simp] lemma within_crash (reason : Crash) :
    (crash reason : Program α).Within allowed post := trivial

@[simp] lemma within_call (c : Call) (resume : c.Reply → Program α) :
    (call c resume).Within allowed post ↔
      allowed c ∧ ∀ reply, (resume reply).Within allowed post := Iff.rfl

/-- More calls and more results may be allowed. -/
lemma Within.mono {allowed' : Call → Prop} {post' : α → Prop} {p : Program α}
    (hp : p.Within allowed post) (hallowed : ∀ c, allowed c → allowed' c)
    (hpost : ∀ a, post a → post' a) : p.Within allowed' post' := by
  induction p with
  | done a => exact hpost a hp
  | crash reason => trivial
  | call c resume ih => exact ⟨hallowed c hp.1, fun reply => ih reply (hp.2 reply)⟩

/-- The calls of two programs, one after the other. -/
lemma Within.bind {post' : β → Prop} {p : Program α} {f : α → Program β}
    (hp : p.Within allowed post) (hf : ∀ a, post a → (f a).Within allowed post') :
    (p >>= f).Within allowed post' := by
  induction p with
  | done a => exact hf a hp
  | crash reason => trivial
  | call c resume ih => exact ⟨hp.1, fun reply => ih reply (hp.2 reply)⟩

/-- The calls in the trace of such a program are allowed. -/
lemma Within.trace {p : Program α} (hp : p.Within allowed post) (world : World σ) (s : σ) :
    ∀ e ∈ p.trace world s, allowed e.1 := by
  induction p generalizing s with
  | done a => simp
  | crash reason => simp
  | call c resume ih =>
    intro e he
    rw [trace_call, List.mem_cons] at he
    rcases he with rfl | he
    · exact hp.1
    · exact ih _ (hp.2 _) _ e he

/-- The result of such a program is one of those in `post`. -/
lemma Within.run {p : Program α} (hp : p.Within allowed post) {world : World σ} {s : σ} {a : α}
    (hrun : (p.run world s).1 = .ok a) : post a := by
  induction p generalizing s with
  | done b =>
    cases hrun
    exact hp
  | crash reason => cases hrun
  | call c resume ih => exact ih _ (hp.2 _) hrun

end Within

/-! ### Programs that are cut short -/

/-- The first program makes the calls of the second one, but may give up with a result that is
`cut`.  If both come to an end, their results are the `same`. -/
inductive Begins (cut : α → Prop) (same : α → β → Prop) : Program α → Program β → Prop
  | cut {a : α} (ha : cut a) (q : Program β) : Begins cut same (done a) q
  | done {a : α} {b : β} (hab : same a b) : Begins cut same (done a) (done b)
  | crash (reason : Crash) : Begins cut same (crash reason) (crash reason)
  | call (c : Call) {resume : c.Reply → Program α} {resume' : c.Reply → Program β}
      (h : ∀ reply, Begins cut same (resume reply) (resume' reply)) :
      Begins cut same (call c resume) (call c resume')

namespace Begins

variable {cut : α → Prop} {same : α → β → Prop} {p : Program α} {q : Program β}

/-- A program is a beginning of itself. -/
protected lemma refl {cut : α → Prop} (p : Program α) : Begins cut Eq p p := by
  induction p with
  | done a => exact .done rfl
  | crash reason => exact .crash reason
  | call c resume ih => exact .call c ih

/-- A beginning of a beginning is a beginning, provided that whoever ends where the middle program
gives up gives up too. -/
lemma trans_of {cut' : β → Prop} {r : Program β} (hpq : Begins cut same p q)
    (hqr : Begins cut' Eq q r) (hcut : ∀ a b, same a b → cut' b → cut a) :
    Begins cut same p r := by
  induction hpq generalizing r with
  | cut ha q => exact .cut ha r
  | done hab =>
    cases hqr with
    | cut hb => exact .cut (hcut _ _ hab hb) _
    | done heq => exact .done (heq ▸ hab)
  | crash reason =>
    cases hqr with
    | crash => exact .crash reason
  | call c h ih =>
    cases hqr with
    | call _ h' => exact .call c fun reply => ih reply (h' reply)

/-- A beginning of a beginning is a beginning. -/
protected lemma trans {cut : α → Prop} {p q r : Program α} (hpq : Begins cut Eq p q)
    (hqr : Begins cut Eq q r) : Begins cut Eq p r :=
  hpq.trans_of hqr fun _ _ hab hb => hab ▸ hb

/-- Going on after a beginning, provided that going on after giving up begins everything. -/
lemma bind {cut' : γ → Prop} {same' : γ → δ → Prop} {f : α → Program γ} {g : β → Program δ}
    (hpq : Begins cut same p q) (hcut : ∀ a, cut a → ∀ q', Begins cut' same' (f a) q')
    (hsame : ∀ a b, same a b → Begins cut' same' (f a) (g b)) :
    Begins cut' same' (p >>= f) (q >>= g) := by
  induction hpq with
  | cut ha q => exact hcut _ ha _
  | done hab => exact hsame _ _ hab
  | crash reason => exact .crash reason
  | call c h ih => exact .call c ih

/-- Two programs that go on after the same calls compare as what follows. -/
lemma bind_left {cut' : γ → Prop} {same' : γ → δ → Prop} (p : Program α) {f : α → Program γ}
    {g : α → Program δ} (hfg : ∀ a, Begins cut' same' (f a) (g a)) :
    Begins cut' same' (p >>= f) (p >>= g) := by
  induction p with
  | done a => exact hfg a
  | crash reason => exact .crash reason
  | call c resume ih => exact .call c ih

/-- In every world the trace of a beginning is an initial part of the whole trace. -/
lemma trace_isPrefix (hpq : Begins cut same p q) (world : World σ) (s : σ) :
    p.trace world s <+: q.trace world s := by
  induction hpq generalizing s with
  | cut ha q => exact List.nil_prefix
  | done hab => exact List.nil_prefix
  | crash reason => exact List.nil_prefix
  | call c h ih =>
    rw [trace_call, trace_call]
    exact (List.prefix_cons_inj _).2 (ih _ _)

/-- A beginning that does not give up makes all the calls, even if it crashes. -/
lemma trace_eq (hpq : Begins cut same p q) (world : World σ) {s : σ}
    (huncut : ∀ a, (p.run world s).1 = .ok a → ¬ cut a) : q.trace world s = p.trace world s := by
  induction hpq generalizing s with
  | cut ha q => exact absurd ha (huncut _ rfl)
  | done hab => rfl
  | crash reason => rfl
  | call c h ih =>
    rw [trace_call, trace_call]
    exact congrArg _ (ih _ huncut)

/-- A beginning that does not give up is the whole program. -/
lemma run_eq (hpq : Begins cut same p q) (world : World σ) {s : σ} {a : α}
    (hrun : (p.run world s).1 = .ok a) (ha : ¬ cut a) :
    q.trace world s = p.trace world s ∧ ∃ b, (q.run world s).1 = .ok b ∧ same a b := by
  induction hpq generalizing s with
  | cut ha' q =>
    rw [run_done] at hrun
    exact absurd (Except.ok.inj hrun ▸ ha') ha
  | done hab =>
    rw [run_done] at hrun
    exact ⟨rfl, _, rfl, Except.ok.inj hrun ▸ hab⟩
  | crash reason => simp at hrun
  | call c h ih =>
    obtain ⟨htrace, b, hb, hab⟩ := ih _ hrun
    exact ⟨by rw [trace_call, trace_call, htrace], b, hb, hab⟩

end Begins

end MailCollector.Crawl.Program
