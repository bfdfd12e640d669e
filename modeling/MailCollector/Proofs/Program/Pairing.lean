import MailCollector.Proofs.Program.Safety
import Mathlib.Data.List.Forall2

/-!
# Two programs in lockstep

To compare what two programs do in two worlds, they are run side by side.  They are in lockstep if
they make calls that correspond, and go on in lockstep whenever the two replies correspond
(`Program.Paired`).  The two programs need not be equal, nor need the replies be.

Programs in lockstep may go on after each other (`Paired.bind`).  Where two worlds answer
corresponding calls alike, the traces of programs in lockstep correspond call by call, and if one of
them ends so does the other, with a result that corresponds (`Paired.run_alike`).
-/

namespace MailCollector.Crawl.Program

variable {α β γ δ σ τ : Type}

/-- Two programs in lockstep: their calls correspond as long as the replies do, and they end with
results that correspond, or with the same crash. -/
inductive Paired (calls : Call → Call → Prop) (alike : Event → Event → Prop) (post : α → β → Prop) :
    Program α → Program β → Prop
  | done {a : α} {b : β} (h : post a b) : Paired calls alike post (done a) (done b)
  | crash (reason : Crash) : Paired calls alike post (crash reason) (crash reason)
  | call {c c' : Call} {resume : c.Reply → Program α} {resume' : c'.Reply → Program β}
      (hcalls : calls c c')
      (h : ∀ reply reply', alike ⟨c, reply⟩ ⟨c', reply'⟩ →
        Paired calls alike post (resume reply) (resume' reply')) :
      Paired calls alike post (call c resume) (call c' resume')

namespace Paired

variable {calls : Call → Call → Prop} {alike : Event → Event → Prop} {post : α → β → Prop}
  {p : Program α} {q : Program β}

/-- Two programs in lockstep may go on in lockstep. -/
lemma bind {post' : γ → δ → Prop} {f : α → Program γ} {g : β → Program δ}
    (hpq : Paired calls alike post p q)
    (hfg : ∀ a b, post a b → Paired calls alike post' (f a) (g b)) :
    Paired calls alike post' (p >>= f) (q >>= g) := by
  induction hpq with
  | done h => exact hfg _ _ h
  | crash reason => exact .crash reason
  | call hcalls _ ih => exact .call hcalls ih

/-- A program without calls is in lockstep with itself. -/
lemma refl_of_silent {result : α → Prop} {p : Program α}
    (hp : p.Within (fun _ => False) result) : Paired calls alike Eq p p := by
  cases p with
  | done a => exact .done rfl
  | crash reason => exact .crash reason
  | call c resume => exact hp.1.elim

/-- In two worlds that answer corresponding calls alike, as far as `inv` keeps what they depend on,
the traces of programs in lockstep correspond, and so do their results. -/
lemma run_alike {allowed allowed' : List Event → Event → Prop}
    {inv : List Event → List Event → Prop} {world : World σ} {world' : World τ} {s : σ} {s' : τ}
    {h h' : List Event} (hpq : Paired calls alike post p q)
    (hagree : ∀ h h' c c' reply reply', inv h h' → calls c c' → allowed h ⟨c, reply⟩ →
      allowed' h' ⟨c', reply'⟩ →
      alike ⟨c, reply⟩ ⟨c', reply'⟩ ∧ inv (h ++ [⟨c, reply⟩]) (h' ++ [⟨c', reply'⟩]))
    (hinv : inv h h') (hadmits : Admits allowed h (p.trace world s))
    (hadmits' : Admits allowed' h' (q.trace world' s')) :
    List.Forall₂ alike (p.trace world s) (q.trace world' s') ∧
      inv (h ++ p.trace world s) (h' ++ q.trace world' s') ∧
      ∀ a, (p.run world s).1 = .ok a → ∃ b, (q.run world' s').1 = .ok b ∧ post a b := by
  induction hpq generalizing h h' s s' with
  | done hpost =>
    refine ⟨.nil, by simpa using hinv, fun a ha => ⟨_, rfl, ?_⟩⟩
    cases ha
    exact hpost
  | crash reason => exact ⟨.nil, by simpa using hinv, fun a ha => by cases ha⟩
  | call hcalls _ ih =>
    rw [trace_call, admits_cons] at hadmits hadmits'
    obtain ⟨halike, hnext⟩ := hagree _ _ _ _ _ _ hinv hcalls hadmits.1 hadmits'.1
    obtain ⟨htraces, hend, hresult⟩ := ih _ _ halike hnext hadmits.2 hadmits'.2
    rw [trace_call, trace_call, List.append_cons, List.append_cons h']
    exact ⟨.cons halike htraces, hend, hresult⟩

end Paired

end MailCollector.Crawl.Program
