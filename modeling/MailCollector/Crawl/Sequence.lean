/-!
# Lazy sequences and their concatenation

A lazy sequence is a state with a turn: asked for its next element it gives a value, fails, ends, or
has only worked towards the next element and wants to be asked again. A chain concatenates the
sequences that a source yields one after another. It drains one before it asks the source for the
next, so it never works ahead of what is taken from it, and the first failure, of the source or of
an inner sequence, ends it for good.

A turn is total. Only pulling, which repeats turns until one of them says something, needs a bound,
and if the bound is met the state reached so far is kept.
-/

namespace MailCollector.Crawl

/-- What a lazy sequence says when asked for its next element. Each answer has the state from which
to go on. -/
inductive Turn (ε α σ : Type) where
  | value (element : α) (rest : σ)
  | failed (error : ε) (rest : σ)
  | ended (rest : σ)
  | working (rest : σ)
deriving Repr

namespace Turn

/-- The state after a turn. -/
def rest : Turn ε α σ → σ
  | value _ s | failed _ s | ended s | working s => s

end Turn

/-- Where a chain stands. -/
inductive Phase (ι : Type) where
  /-- Before the first sequence or between two of them. -/
  | between
  | draining (inner : ι)
  | exhausted
deriving Repr

/-- The concatenation of the sequences that a source yields. -/
structure Chain (σ ι : Type) where
  source : σ
  phase : Phase ι := .between
deriving Repr

namespace Chain

variable {σ ι ε α : Type} {m : Type → Type} [Monad m]

/-- Whether the chain has ended or failed. -/
def isExhausted (c : Chain σ ι) : Bool :=
  match c.phase with
  | .exhausted => true
  | _ => false

/-- One turn of a chain, from a turn of its source or of the sequence that it is draining. -/
def turn (supply : σ → m (Turn ε ι σ)) (next : ι → m (Turn ε α ι)) (c : Chain σ ι) :
    m (Turn ε α (Chain σ ι)) :=
  match c.phase with
  | .exhausted => pure (.ended c)
  | .draining inner => do
    match ← next inner with
    | .value a inner => pure (.value a ⟨c.source, .draining inner⟩)
    | .failed e _ => pure (.failed e ⟨c.source, .exhausted⟩)
    | .ended _ => pure (.working ⟨c.source, .between⟩)
    | .working inner => pure (.working ⟨c.source, .draining inner⟩)
  | .between => do
    match ← supply c.source with
    | .value inner source => pure (.working ⟨source, .draining inner⟩)
    | .failed e source => pure (.failed e ⟨source, .exhausted⟩)
    | .ended source => pure (.ended ⟨source, .exhausted⟩)
    | .working source => pure (.working ⟨source, .between⟩)

end Chain

/-- Repeats turns until one of them says something, at most `fuel` times. -/
def pull {σ ε α : Type} {m : Type → Type} [Monad m] (turn : σ → m (Turn ε α σ)) :
    (fuel : Nat) → σ → m (Turn ε α σ)
  | 0, s => pure (.working s)
  | fuel + 1, s => do
    match ← turn s with
    | .working s => pull turn fuel s
    | said => pure said

/-- The turn of a list as a lazy sequence, which never fails. -/
def listTurn {ε α : Type} {m : Type → Type} [Monad m] : List α → m (Turn ε α (List α))
  | [] => pure (.ended [])
  | a :: rest => pure (.value a rest)

end MailCollector.Crawl
