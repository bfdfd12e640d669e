import MailCollector.Crawl.Sequence

/-!
# Chains over a written-out source

A source that is given as a list of what it will yield, to show what a chain does with it. An entry
is an inner sequence, an error of the source, or its statement that there is no more; the source
would go on after such a statement if it were asked again. The source counts how often it is asked.
-/

namespace MailCollector.Crawl

/-- What a written-out source yields when it is asked once. -/
inductive Entry (ε ι : Type) where
  | inner (sequence : ι)
  | error (e : ε)
  | noMore
deriving Repr

/-- A written-out source with the number of times it was asked. -/
structure Script (ε ι : Type) where
  entries : List (Entry ε ι)
  asked : Nat := 0
deriving Repr

namespace Script

variable {ε ι α : Type}

/-- Asks the source once. The end of the script says that there is no more. -/
def supply (s : Script ε ι) : Turn ε ι (Script ε ι) :=
  match s.entries with
  | [] => .ended ⟨[], s.asked + 1⟩
  | .inner i :: rest => .value i ⟨rest, s.asked + 1⟩
  | .error e :: rest => .failed e ⟨rest, s.asked + 1⟩
  | .noMore :: rest => .ended ⟨rest, s.asked + 1⟩

end Script

/-- The turn of a list of values and errors as a lazy sequence. -/
def resultsTurn {ε α : Type} : List (Except ε α) → Turn ε α (List (Except ε α))
  | [] => .ended []
  | .ok a :: rest => .value a rest
  | .error e :: rest => .failed e rest

/-- A chain over a written-out source of written-out sequences. -/
abbrev ScriptChain (ε α : Type) := Chain (Script ε (List (Except ε α))) (List (Except ε α))

namespace ScriptChain

variable {ε α : Type}

/-- One turn of the chain. -/
def turn (c : ScriptChain ε α) : Id (Turn ε α (ScriptChain ε α)) :=
  Chain.turn (m := Id) Script.supply resultsTurn c

/-- A number of turns after which a pull has said something. -/
def patience (c : ScriptChain ε α) : Nat := 2 * c.source.entries.length + 3

/-- The next element of the chain. -/
def next (c : ScriptChain ε α) : Turn ε α (ScriptChain ε α) :=
  pull (m := Id) turn c.patience c

end ScriptChain

/-- A chain whose inner sequences are themselves chains. -/
abbrev NestedScriptChain (ε α : Type) := Chain (Script ε (ScriptChain ε α)) (ScriptChain ε α)

namespace NestedScriptChain

variable {ε α : Type}

/-- One turn of the nested chain. -/
def turn (c : NestedScriptChain ε α) : Id (Turn ε α (NestedScriptChain ε α)) :=
  Chain.turn (m := Id) Script.supply ScriptChain.turn c

/-- The turns that the inner chains of a script can take in all. -/
def innerTurns : List (Entry ε (ScriptChain ε α)) → Nat
  | [] => 0
  | .inner c :: rest => c.patience + innerTurns rest
  | _ :: rest => innerTurns rest

/-- A number of turns after which a pull has said something. -/
def patience (c : NestedScriptChain ε α) : Nat :=
  2 * c.source.entries.length + innerTurns c.source.entries + 3 +
    match c.phase with
    | .draining inner => inner.patience
    | _ => 0

/-- The next element of the nested chain. -/
def next (c : NestedScriptChain ε α) : Turn ε α (NestedScriptChain ε α) :=
  pull (m := Id) turn c.patience c

end NestedScriptChain

end MailCollector.Crawl
