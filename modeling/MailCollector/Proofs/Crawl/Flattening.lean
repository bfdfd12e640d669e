import MailCollector.Crawl.Scripted
import Mathlib.Data.List.Basic
import Mathlib.Logic.Function.Iterate
import Mathlib.Tactic.Common

/-!
# A chain flattens

A chain over a written-out source says, pull by pull, the concatenation of the sequences that the
source yields, cut after the first error, and from then on that there is no more.  It asks the
source again only when all that the source yielded before has been taken, and never after an error
or after the source had no more (`pulls_flatten`).  A chain of chains says what one chain over the
joined sources says.

What lies ahead of a state of a sequence is a list of values and errors (`Lists`).  A turn takes its
first entry off, and turns that say nothing are paid for by an effort.  If this holds of a source
and of the sequences that it yields, it holds of their chain (`Lists.chain`), and so of chains of
any depth.
-/

namespace MailCollector.Crawl

variable {ε α ι σ τ : Type}

/-! ### Values and errors -/

/-- A list of values and errors up to and including its first error. -/
def upToError : List (Except ε α) → List (Except ε α)
  | [] => []
  | .ok a :: rest => .ok a :: upToError rest
  | .error e :: _ => [.error e]

/-- The concatenation of sequences, where an error takes the place of a sequence. -/
def concat (inner : ι → List (Except ε α)) (results : List (Except ε ι)) : List (Except ε α) :=
  results.flatMap fun
    | .ok i => inner i
    | .error e => [.error e]

section Concat

variable (inner : ι → List (Except ε α)) (results : List (Except ε ι))

@[simp] lemma concat_ok_cons (i : ι) :
    concat inner (.ok i :: results) = inner i ++ concat inner results := rfl

@[simp] lemma concat_error_cons (e : ε) :
    concat inner (.error e :: results) = .error e :: concat inner results := rfl

lemma concat_append (others : List (Except ε ι)) :
    concat inner (results ++ others) = concat inner results ++ concat inner others :=
  List.flatMap_append

end Concat

/-! ### What lies ahead of a sequence -/

namespace Turn

/-- What a turn says, unless it says nothing: an element, an error, or that there is no more. -/
def said? : Turn ε α τ → Option (Option (Except ε α))
  | value a _ => some (some (.ok a))
  | failed e _ => some (some (.error e))
  | ended _ => some none
  | working _ => none

/-- A turn from a state says the first entry of what lies ahead there.  If it says nothing, then
nothing has changed ahead, and less effort is left. -/
def Follows (ahead : τ → List (Except ε α)) (effort : τ → ℕ) (s : τ) : Turn ε α τ → Prop
  | value a s' => ahead s = .ok a :: ahead s'
  | failed e _ => ∃ others, ahead s = .error e :: others
  | ended _ => ahead s = []
  | working s' => ahead s = ahead s' ∧ effort s' < effort s

/-- A pull from a state says the first entry of what lies ahead there, and nothing lies ahead any
more after an error or an end. -/
def Takes (ahead : τ → List (Except ε α)) (s : τ) : Turn ε α τ → Prop
  | value a s' => ahead s = .ok a :: ahead s'
  | failed e s' => (∃ others, ahead s = .error e :: others) ∧ ahead s' = []
  | ended s' => ahead s = [] ∧ ahead s' = []
  | working _ => False

end Turn

/-- The turns of a sequence list what lies ahead of it. -/
def Lists (turn : τ → Turn ε α τ) (ahead : τ → List (Except ε α)) (effort : τ → ℕ) : Prop :=
  ∀ s, (turn s).Follows ahead effort s

/-- The state after a number of pulls. -/
def afterPulls (next : τ → Turn ε α τ) (count : ℕ) (s : τ) : τ :=
  (fun s => (next s).rest)^[count] s

section AfterPulls

variable {next : τ → Turn ε α τ} {ahead : τ → List (Except ε α)}

lemma afterPulls_succ (count : ℕ) (s : τ) :
    afterPulls next (count + 1) s = afterPulls next count (next s).rest :=
  Function.iterate_succ_apply _ count s

lemma afterPulls_succ' (count : ℕ) (s : τ) :
    afterPulls next (count + 1) s = (next (afterPulls next count s)).rest :=
  Function.iterate_succ_apply' _ count s

/-- A pull says the first of what lies ahead up to the first error, and leaves the others. -/
lemma Turn.Takes.first {said : Turn ε α τ} {s : τ} (h : said.Takes ahead s) :
    said.said? = some (upToError (ahead s))[0]? ∧
      upToError (ahead said.rest) = (upToError (ahead s)).tail := by
  cases said with
  | value a s' =>
    have hahead : ahead s = .ok a :: ahead s' := h
    rw [hahead]
    exact ⟨rfl, rfl⟩
  | failed e s' =>
    obtain ⟨⟨others, hahead⟩, hover⟩ := h
    rw [hahead, show ahead (Turn.failed e s' : Turn ε α τ).rest = [] from hover]
    exact ⟨rfl, rfl⟩
  | ended s' =>
    obtain ⟨hahead, hover⟩ := h
    rw [hahead, show ahead (Turn.ended s' : Turn ε α τ).rest = [] from hover]
    exact ⟨rfl, rfl⟩
  | working s' => exact h.elim

/-- If each pull takes what lies ahead, the pulls say it up to the first error, and then the end. -/
theorem said?_afterPulls (hnext : ∀ s, (next s).Takes ahead s) (count : ℕ) (s : τ) :
    (next (afterPulls next count s)).said? = some (upToError (ahead s))[count]? := by
  induction count generalizing s with
  | zero => exact (hnext s).first.1
  | succ count ih => rw [afterPulls_succ, ih, (hnext s).first.2, List.getElem?_tail]

end AfterPulls

/-! ### Chains -/

namespace Chain

/-- What lies ahead of a chain: the rest of the sequence that it is draining, and the sequences that
its source still yields. -/
def ahead (inner : ι → List (Except ε α)) (source : σ → List (Except ε ι)) (c : Chain σ ι) :
    List (Except ε α) :=
  match c.phase with
  | .exhausted => []
  | .draining i => inner i ++ concat inner (source c.source)
  | .between => concat inner (source c.source)

/-- The effort that is left in a chain. -/
def effort (inner : ι → ℕ) (source : σ → ℕ) (c : Chain σ ι) : ℕ :=
  match c.phase with
  | .exhausted => 0
  | .draining i => inner i + 1 + source c.source
  | .between => source c.source

end Chain

section Chain

variable {supply : σ → Turn ε ι σ} {next : ι → Turn ε α ι} {source : σ → List (Except ε ι)}
  {inner : ι → List (Except ε α)} {sourceEffort : σ → ℕ} {innerEffort : ι → ℕ}

/-- A chain lists the concatenation of what its source yields, if the source and the sequences do
what they should, and if the source spends on each sequence the effort that the sequence needs. -/
theorem Lists.chain (hsupply : Lists supply source sourceEffort)
    (hnext : Lists next inner innerEffort)
    (hspends : ∀ s i s', supply s = .value i s' →
      innerEffort i + 1 + sourceEffort s' < sourceEffort s) :
    Lists (Chain.turn (m := Id) supply next) (Chain.ahead inner source)
      (Chain.effort innerEffort sourceEffort) := by
  rintro ⟨s, phase⟩
  cases phase with
  | exhausted => exact rfl
  | draining i =>
    have hinner := hnext i
    simp only [Chain.turn]
    cases hsaid : next i with
    | value a i' =>
      rw [hsaid] at hinner
      exact congrArg (· ++ concat inner (source s)) hinner
    | failed e i' =>
      rw [hsaid] at hinner
      obtain ⟨others, hahead⟩ := hinner
      exact ⟨others ++ concat inner (source s), congrArg (· ++ _) hahead⟩
    | ended i' =>
      rw [hsaid] at hinner
      refine ⟨congrArg (· ++ concat inner (source s)) hinner, ?_⟩
      change sourceEffort s < innerEffort i + 1 + sourceEffort s
      omega
    | working i' =>
      rw [hsaid] at hinner
      obtain ⟨hahead, hless⟩ := hinner
      refine ⟨congrArg (· ++ concat inner (source s)) hahead, ?_⟩
      change innerEffort i' + 1 + sourceEffort s < innerEffort i + 1 + sourceEffort s
      omega
  | between =>
    have hsource := hsupply s
    simp only [Chain.turn]
    cases hsaid : supply s with
    | value i s' =>
      rw [hsaid] at hsource
      exact ⟨congrArg (concat inner) hsource, hspends s i s' hsaid⟩
    | failed e s' =>
      rw [hsaid] at hsource
      obtain ⟨others, hahead⟩ := hsource
      exact ⟨concat inner others, congrArg (concat inner) hahead⟩
    | ended s' =>
      rw [hsaid] at hsource
      exact congrArg (concat inner) hsource
    | working s' =>
      rw [hsaid] at hsource
      exact ⟨congrArg (concat inner) hsource.1, hsource.2⟩

/-- After an error or an end the chain is exhausted, and otherwise it is not. -/
def Turn.Settles : Turn ε α (Chain σ ι) → Prop
  | .value _ c | .working c => c.isExhausted = false
  | .failed _ c | .ended c => c.isExhausted = true

lemma Chain.turn_settles (c : Chain σ ι) :
    Turn.Settles (Chain.turn (m := Id) supply next c) := by
  obtain ⟨s, phase⟩ := c
  cases phase with
  | exhausted => exact rfl
  | draining i =>
    simp only [Chain.turn]
    cases next i <;> exact rfl
  | between =>
    simp only [Chain.turn]
    cases supply s <;> exact rfl

/-- Nothing lies ahead of an exhausted chain. -/
lemma Chain.ahead_of_isExhausted {c : Chain σ ι} (hc : c.isExhausted = true) :
    c.ahead inner source = [] := by
  obtain ⟨s, phase⟩ := c
  cases phase with
  | exhausted => rfl
  | draining i => cases hc
  | between => cases hc

/-- With enough turns a pull from a chain takes what lies ahead, and settles the chain. -/
lemma Lists.pull_takes
    (hlists : Lists (Chain.turn (m := Id) supply next) (Chain.ahead inner source)
      (Chain.effort innerEffort sourceEffort)) {fuel : ℕ} {c : Chain σ ι}
    (hfuel : c.effort innerEffort sourceEffort < fuel) :
    Turn.Takes (Chain.ahead inner source) c (pull (m := Id) (Chain.turn supply next) fuel c) ∧
      Turn.Settles (pull (m := Id) (Chain.turn supply next) fuel c) := by
  induction fuel generalizing c with
  | zero => exact absurd hfuel (Nat.not_lt_zero _)
  | succ fuel ih =>
    have hturn := hlists c
    have hsettles : Turn.Settles (Chain.turn (m := Id) supply next c) := Chain.turn_settles c
    simp only [pull]
    cases hsaid : Chain.turn (m := Id) supply next c with
    | value a c' =>
      rw [hsaid] at hturn hsettles
      exact ⟨hturn, hsettles⟩
    | failed e c' =>
      rw [hsaid] at hturn hsettles
      exact ⟨⟨hturn, Chain.ahead_of_isExhausted hsettles⟩, hsettles⟩
    | ended c' =>
      rw [hsaid] at hturn hsettles
      exact ⟨⟨hturn, Chain.ahead_of_isExhausted hsettles⟩, hsettles⟩
    | working c' =>
      rw [hsaid] at hturn
      obtain ⟨hahead, hless⟩ := hturn
      obtain ⟨htakes, hrest⟩ := ih (c := c') (by omega)
      refine ⟨?_, hrest⟩
      change Turn.Takes _ c (pull (m := Id) (Chain.turn supply next) fuel c')
      cases hpull : pull (m := Id) (Chain.turn supply next) fuel c' with
      | value a c'' =>
        rw [hpull] at htakes
        exact hahead.trans htakes
      | failed e c'' =>
        rw [hpull] at htakes
        obtain ⟨⟨others, hothers⟩, hover⟩ := htakes
        exact ⟨⟨others, hahead.trans hothers⟩, hover⟩
      | ended c'' =>
        rw [hpull] at htakes
        exact ⟨hahead.trans htakes.1, htakes.2⟩
      | working c'' =>
        rw [hpull] at htakes
        exact htakes

end Chain

/-! ### Pulls from a chain -/

section Pulls

variable {supply : σ → Turn ε ι σ} {next : ι → Turn ε α ι} {source : σ → List (Except ε ι)}
  {inner : ι → List (Except ε α)} {pulled : Chain σ ι → Turn ε α (Chain σ ι)}

/-- A chain is exhausted after some pulls if and only if one of them said something else than a
value. -/
theorem isExhausted_afterPulls (htakes : ∀ c, (pulled c).Takes (Chain.ahead inner source) c)
    (hsettles : ∀ c, (pulled c).Settles) {c : Chain σ ι} (hc : c.isExhausted = false) (count : ℕ) :
    (afterPulls pulled count c).isExhausted = true ↔
      ∃ m < count, ∀ a, (upToError (c.ahead inner source))[m]? ≠ some (.ok a) := by
  induction count with
  | zero =>
    change c.isExhausted = true ↔ _
    simp [hc]
  | succ count ih =>
    have hsaid := said?_afterPulls htakes count c
    have hlast := htakes (afterPulls pulled count c)
    have hrest := hsettles (afterPulls pulled count c)
    rw [afterPulls_succ']
    cases hpull : pulled (afterPulls pulled count c) with
    | value a c' =>
      rw [hpull] at hsaid hlast hrest
      -- Before a value the chain was not exhausted, so all pulls so far said values.
      have hbefore : ¬ (afterPulls pulled count c).isExhausted = true := by
        intro hexhausted
        have hnothing : Chain.ahead inner source (afterPulls pulled count c) = [] :=
          Chain.ahead_of_isExhausted hexhausted
        have hvalue : Chain.ahead inner source (afterPulls pulled count c) = .ok a :: _ := hlast
        cases hnothing.symm.trans hvalue
      constructor
      · intro hexhausted
        exact absurd (hexhausted.symm.trans hrest) (by decide)
      · rintro ⟨m, hm, hother⟩
        rcases Nat.lt_succ_iff_lt_or_eq.1 hm with hm | rfl
        · exact absurd (ih.2 ⟨m, hm, hother⟩) hbefore
        · exact absurd (Option.some.inj hsaid).symm (hother a)
    | failed e c' =>
      rw [hpull] at hsaid hrest
      refine iff_of_true hrest ⟨count, Nat.lt_succ_self _, fun a ha => ?_⟩
      have hsame := (Option.some.inj hsaid).trans ha
      cases hsame
    | ended c' =>
      rw [hpull] at hsaid hrest
      refine iff_of_true hrest ⟨count, Nat.lt_succ_self _, fun a ha => ?_⟩
      have hsame := (Option.some.inj hsaid).trans ha
      cases hsame
    | working c' =>
      rw [hpull] at hlast
      exact hlast.elim

end Pulls

/-! ### Written-out sources -/

namespace Script

/-- What a source says before it first says that there is no more. -/
def results : List (Entry ε ι) → List (Except ε ι)
  | [] | .noMore :: _ => []
  | .inner i :: entries => .ok i :: results entries
  | .error e :: entries => .error e :: results entries

/-- A written-out source lists its entries up to the first that says there is no more. -/
lemma lists (cost : List (Entry ε ι) → ℕ) :
    Lists (supply (ε := ε) (ι := ι)) (fun s => results s.entries) (fun s => cost s.entries) := by
  rintro ⟨entries, asked⟩
  cases entries with
  | nil => exact rfl
  | cons entry entries =>
    cases entry with
    | inner i => exact rfl
    | error e => exact ⟨results entries, rfl⟩
    | noMore => exact rfl

end Script

namespace ScriptChain

/-- A list of values and errors lists itself. -/
lemma resultsTurn_lists : Lists (resultsTurn (ε := ε) (α := α)) id fun _ => 0 := by
  intro results
  cases results with
  | nil => exact rfl
  | cons result results =>
    cases result with
    | ok a => exact rfl
    | error e => exact ⟨results, rfl⟩

/-- What lies ahead of a chain over a written-out source. -/
def ahead : ScriptChain ε α → List (Except ε α) :=
  Chain.ahead id fun s => Script.results s.entries

/-- The effort that is left in such a chain: two turns for each entry. -/
def effort : ScriptChain ε α → ℕ :=
  Chain.effort (fun _ => 0) fun s => 2 * s.entries.length

lemma turn_lists : Lists (turn (ε := ε) (α := α)) ahead effort := by
  refine Lists.chain (Script.lists fun entries => 2 * entries.length) resultsTurn_lists ?_
  rintro ⟨entries, asked⟩ i s' hsupply
  cases entries with
  | nil => cases hsupply
  | cons entry entries =>
    cases entry with
    | inner i =>
      cases hsupply
      change 0 + 1 + 2 * entries.length < 2 * (entries.length + 1)
      omega
    | error e => cases hsupply
    | noMore => cases hsupply

lemma effort_lt_patience (c : ScriptChain ε α) : c.effort < c.patience := by
  obtain ⟨⟨entries, asked⟩, phase⟩ := c
  cases phase with
  | exhausted => exact Nat.succ_pos _
  | draining results =>
    change 0 + 1 + 2 * entries.length < 2 * entries.length + 3
    omega
  | between =>
    change 2 * entries.length < 2 * entries.length + 3
    omega

/-- A pull takes what lies ahead, and settles the chain. -/
lemma next_takes (c : ScriptChain ε α) : c.next.Takes ahead c ∧ c.next.Settles :=
  turn_lists.pull_takes c.effort_lt_patience

/-! ### How often the source is asked -/

/-- What has to be taken before the source is asked after `more` further answers of it. -/
def before (c : ScriptChain ε α) (more : ℕ) : List (Except ε α) :=
  let yielded := concat id ((Script.results c.source.entries).take more)
  match c.phase with
  | .draining results => results ++ yielded
  | .between | .exhausted => yielded

/-- The source is asked once more after `more` further answers of it, at the latest in the pull with
number `count`: it still has something to say then, and all that it yielded before are values and
have been taken. -/
def AsksAgain (c : ScriptChain ε α) (count more : ℕ) : Prop :=
  c.isExhausted = false ∧ more ≤ (Script.results c.source.entries).length ∧
    (c.before more).length < count ∧ ∀ result ∈ c.before more, ∃ a, result = .ok a

/-- The source has been asked more than `number` times when `count` further pulls are made. -/
def Asks (c : ScriptChain ε α) (count number : ℕ) : Prop :=
  number < c.source.asked ∨ ∃ more, number = c.source.asked + more ∧ c.AsksAgain count more

/-- An exhausted chain never asks its source again. -/
lemma asks_exhausted {c : ScriptChain ε α} (hc : c.isExhausted = true) (count number : ℕ) :
    c.Asks count number ↔ number < c.source.asked := by
  refine or_iff_left ?_
  rintro ⟨more, -, hother, -⟩
  rw [hc] at hother
  cases hother

/-- Before a pull is made nothing is asked. -/
lemma asks_zero (c : ScriptChain ε α) (number : ℕ) : c.Asks 0 number ↔ number < c.source.asked := by
  refine or_iff_left ?_
  rintro ⟨more, -, -, -, hcount, -⟩
  exact Nat.not_lt_zero _ hcount

/-- A chain between two sequences asks at once, and then goes on with what the source yields. -/
lemma asks_between (s : Script ε (List (Except ε α))) (count number : ℕ) :
    Asks ⟨s, .between⟩ (count + 1) number ↔ number < s.asked + 1 ∨
      ∃ more, number = s.asked + 1 + more ∧ AsksAgain ⟨s, .between⟩ (count + 1) (more + 1) := by
  have hfirst : AsksAgain ⟨s, .between⟩ (count + 1) 0 := by
    refine ⟨rfl, Nat.zero_le _, Nat.succ_pos _, ?_⟩
    intro result hresult
    cases hresult
  constructor
  · rintro (hless | ⟨more, rfl, hmore⟩)
    · exact .inl (Nat.lt_succ_of_lt hless)
    · cases more with
      | zero => exact .inl (Nat.lt_succ_self _)
      | succ more => exact .inr ⟨more, (Nat.succ_add_eq_add_succ _ _).symm, hmore⟩
  · rintro (hless | ⟨more, rfl, hmore⟩)
    · rcases Nat.lt_succ_iff_lt_or_eq.1 hless with hless | hequal
      · exact .inl hless
      · exact .inr ⟨0, hequal, hfirst⟩
    · exact .inr ⟨more + 1, Nat.succ_add_eq_add_succ _ _, hmore⟩

/-- A turn accounts for the calls of the source, those in the pulls to come included. -/
lemma turn_asks (c : ScriptChain ε α) (count number : ℕ) :
    c.Asks (count + 1) number ↔
      match c.turn with
      | .value _ c' => c'.Asks count number
      | .failed _ c' | .ended c' => number < c'.source.asked
      | .working c' => c'.Asks (count + 1) number := by
  obtain ⟨s, phase⟩ := c
  cases phase with
  | exhausted => exact asks_exhausted rfl (count + 1) number
  | draining results =>
    cases results with
    | nil => exact Iff.rfl
    | cons result results =>
      cases result with
      | ok a =>
        refine or_congr_right (exists_congr fun more => and_congr_right fun _ => ?_)
        refine and_congr_right fun _ => and_congr_right fun _ => and_congr Nat.succ_lt_succ_iff ?_
        refine List.forall_mem_cons.trans (and_iff_right ⟨a, rfl⟩)
      | error e =>
        refine or_iff_left ?_
        rintro ⟨more, -, -, -, -, hvalues⟩
        obtain ⟨a, ha⟩ := hvalues (.error e) List.mem_cons_self
        cases ha
  | between =>
    obtain ⟨entries, asked⟩ := s
    rw [asks_between]
    have hnoMore : ∀ others, Script.results others = ([] : List (Except ε (List (Except ε α)))) →
        ¬ ∃ more, number = asked + 1 + more ∧
          AsksAgain ⟨⟨others, asked⟩, .between⟩ (count + 1) (more + 1) := by
      rintro others hothers ⟨more, -, -, hmore, -⟩
      rw [hothers] at hmore
      exact Nat.not_succ_le_zero _ hmore
    cases entries with
    | nil => exact or_iff_left (hnoMore [] rfl)
    | cons entry entries =>
      cases entry with
      | inner results =>
        refine or_congr_right (exists_congr fun more => and_congr_right fun _ => ?_)
        exact and_congr_right fun _ => and_congr_left fun _ => Nat.succ_le_succ_iff
      | error e =>
        refine or_iff_left ?_
        rintro ⟨more, -, -, -, -, hvalues⟩
        obtain ⟨a, ha⟩ := hvalues (.error e) List.mem_cons_self
        cases ha
      | noMore => exact or_iff_left (hnoMore (.noMore :: entries) rfl)

/-- A pull accounts for the calls of the source, those in the pulls to come included. -/
lemma pull_asks {fuel : ℕ} {c : ScriptChain ε α} (hfuel : c.effort < fuel) (count number : ℕ) :
    c.Asks (count + 1) number ↔ (pull (m := Id) turn fuel c).rest.Asks count number := by
  induction fuel generalizing c with
  | zero => exact absurd hfuel (Nat.not_lt_zero _)
  | succ fuel ih =>
    have hturn := turn_lists c
    have hsettles : c.turn.Settles := Chain.turn_settles c
    rw [turn_asks]
    simp only [pull]
    cases hsaid : c.turn with
    | value a c' => exact Iff.rfl
    | failed e c' =>
      rw [hsaid] at hsettles
      exact (asks_exhausted hsettles count number).symm
    | ended c' =>
      rw [hsaid] at hsettles
      exact (asks_exhausted hsettles count number).symm
    | working c' =>
      rw [hsaid] at hturn
      have hless : c'.effort < c.effort := hturn.2
      exact ih (by omega)

/-- The calls of the source in a number of pulls. -/
theorem asked_afterPulls (c : ScriptChain ε α) (count number : ℕ) :
    number < (afterPulls next count c).source.asked ↔ c.Asks count number := by
  induction count generalizing c with
  | zero => exact (c.asks_zero number).symm
  | succ count ih =>
    rw [afterPulls_succ, ih]
    exact (pull_asks c.effort_lt_patience count number).symm

/-- A chain over a written-out source from which nothing has been pulled. -/
def start (entries : List (Entry ε (List (Except ε α)))) : ScriptChain ε α :=
  { source := { entries := entries } }

end ScriptChain

/-! ### Chains of chains -/

/-- The same entry with another sequence. -/
def Entry.map {κ : Type} (f : ι → κ) : Entry ε ι → Entry ε κ
  | inner i => inner (f i)
  | error e => error e
  | noMore => noMore

/-- Whether a source goes on after an entry. -/
def Entry.goesOn : Entry ε ι → Bool
  | inner _ | error _ => true
  | noMore => false

/-- The entries of several sources one after another, those of each up to where it has no more. -/
def joined (outer : List (Entry ε (List (Entry ε ι)))) : List (Entry ε ι) :=
  (Script.results outer).flatMap fun
    | .ok entries => entries.takeWhile Entry.goesOn
    | .error e => [.error e]

/-- Concatenating twice is concatenating concatenations. -/
lemma concat_concat {κ : Type} (f : ι → List (Except ε α)) (g : κ → List (Except ε ι))
    (results : List (Except ε κ)) :
    concat f (concat g results) = concat (fun k => concat f (g k)) results := by
  induction results with
  | nil => rfl
  | cons result results ih =>
    cases result with
    | ok k => rw [concat_ok_cons, concat_append, ih, concat_ok_cons]
    | error e => rw [concat_error_cons, concat_error_cons, ih, concat_error_cons]

namespace Script

/-- What comes before the end of a source is followed by what the next source says. -/
lemma results_takeWhile_append (entries others : List (Entry ε ι)) :
    results (entries.takeWhile Entry.goesOn ++ others) = results entries ++ results others := by
  induction entries with
  | nil => rfl
  | cons entry entries ih =>
    cases entry with
    | inner i => exact congrArg (.ok i :: ·) ih
    | error e => exact congrArg (.error e :: ·) ih
    | noMore => rfl

/-- Joined sources say what the sources say one after another. -/
lemma results_joined (outer : List (Entry ε (List (Entry ε ι)))) :
    results (joined outer) = concat results (results outer) := by
  unfold joined
  induction results outer with
  | nil => rfl
  | cons result rest ih =>
    cases result with
    | ok entries =>
      rw [List.flatMap_cons, results_takeWhile_append, ih, concat_ok_cons]
    | error e =>
      rw [List.flatMap_cons, concat_error_cons, ← ih]
      rfl

/-- A source of other sequences says those. -/
lemma concat_results_map {κ : Type} (f : ι → κ) (inner : κ → List (Except ε α))
    (entries : List (Entry ε ι)) :
    concat inner (results (entries.map (Entry.map f))) =
      concat (fun i => inner (f i)) (results entries) := by
  induction entries with
  | nil => rfl
  | cons entry entries ih =>
    cases entry with
    | inner i => exact congrArg (inner (f i) ++ ·) ih
    | error e => exact congrArg (.error e :: ·) ih
    | noMore => rfl

end Script

namespace NestedScriptChain

/-- A chain over a written-out source of written-out sources from which nothing has been pulled. -/
def start (outer : List (Entry ε (List (Entry ε (List (Except ε α)))))) : NestedScriptChain ε α :=
  { source := { entries := outer.map (Entry.map ScriptChain.start) } }

/-- What lies ahead of a chain of chains. -/
def ahead : NestedScriptChain ε α → List (Except ε α) :=
  Chain.ahead ScriptChain.ahead fun s => Script.results s.entries

/-- The effort that is left in a chain of chains. -/
def effort : NestedScriptChain ε α → ℕ :=
  Chain.effort ScriptChain.effort fun s => 2 * s.entries.length + innerTurns s.entries

lemma turn_lists : Lists (turn (ε := ε) (α := α)) ahead effort := by
  refine Lists.chain (Script.lists fun entries => 2 * entries.length + innerTurns entries)
    ScriptChain.turn_lists ?_
  rintro ⟨entries, asked⟩ c s' hsupply
  cases entries with
  | nil => cases hsupply
  | cons entry entries =>
    cases entry with
    | inner c =>
      cases hsupply
      have hless := c.effort_lt_patience
      change c.effort + 1 + (2 * entries.length + innerTurns entries) <
        2 * (entries.length + 1) + (c.patience + innerTurns entries)
      omega
    | error e => cases hsupply
    | noMore => cases hsupply

lemma effort_lt_patience (c : NestedScriptChain ε α) : c.effort < c.patience := by
  obtain ⟨⟨entries, asked⟩, phase⟩ := c
  cases phase with
  | exhausted => exact Nat.lt_of_lt_of_le (Nat.succ_pos _) (Nat.le_add_right _ _)
  | draining inner =>
    have hless := inner.effort_lt_patience
    change inner.effort + 1 + (2 * entries.length + innerTurns entries) <
      2 * entries.length + innerTurns entries + 3 + inner.patience
    omega
  | between =>
    change 2 * entries.length + innerTurns entries <
      2 * entries.length + innerTurns entries + 3 + 0
    omega

/-- A pull takes what lies ahead, and settles the chain. -/
lemma next_takes (c : NestedScriptChain ε α) : c.next.Takes ahead c ∧ c.next.Settles :=
  turn_lists.pull_takes c.effort_lt_patience

/-- What lies ahead of a chain of chains lies ahead of the chain over the joined sources. -/
lemma ahead_start (outer : List (Entry ε (List (Entry ε (List (Except ε α)))))) :
    (start outer).ahead = (ScriptChain.start (joined outer)).ahead := by
  calc (start outer).ahead
      = concat ScriptChain.ahead
          (Script.results (outer.map (Entry.map ScriptChain.start))) := rfl
    _ = concat (fun entries => concat id (Script.results entries)) (Script.results outer) :=
        Script.concat_results_map ScriptChain.start ScriptChain.ahead outer
    _ = concat id (concat Script.results (Script.results outer)) :=
        (concat_concat id Script.results _).symm
    _ = (ScriptChain.start (joined outer)).ahead := by
        rw [← Script.results_joined]
        rfl

end NestedScriptChain

/-! ### The main result -/

/-- Pull by pull, a chain over a written-out source says the concatenation of what the source yields
up to the first error, and then that there is no more.  The source has been asked more than `number`
times if and only if it had something to say after its first `number` answers, all that these
yielded are values, and all of them were taken before the last pull.  The chain is exhausted as soon
as a pull has said something else than a value.  A chain of chains says what one chain over the
joined sources says. -/
theorem pulls_flatten :
    (∀ (entries : List (Entry ε (List (Except ε α)))) (count : ℕ),
      let now := afterPulls ScriptChain.next count (ScriptChain.start entries)
      let yielded := fun answers => concat id ((Script.results entries).take answers)
      let said := upToError (concat id (Script.results entries))
      now.next.said? = some said[count]? ∧
      (∀ number, number < now.source.asked ↔
        number ≤ (Script.results entries).length ∧ (yielded number).length < count ∧
          ∀ result ∈ yielded number, ∃ a, result = .ok a) ∧
      (now.isExhausted = true ↔ ∃ m < count, ∀ a, said[m]? ≠ some (.ok a))) ∧
    ∀ (outer : List (Entry ε (List (Entry ε (List (Except ε α)))))) (count : ℕ),
      (afterPulls NestedScriptChain.next count (NestedScriptChain.start outer)).next.said? =
        (afterPulls ScriptChain.next count (ScriptChain.start (joined outer))).next.said? := by
  have htakes := fun c : ScriptChain ε α => c.next_takes.1
  have hsettles := fun c : ScriptChain ε α => c.next_takes.2
  constructor
  · intro entries count now yielded said
    refine ⟨said?_afterPulls htakes count _, fun number => ?_, ?_⟩
    · rw [ScriptChain.asked_afterPulls]
      constructor
      · rintro (hless | ⟨more, hmore, -, hasks⟩)
        · exact absurd hless (Nat.not_lt_zero _)
        · obtain rfl : number = more := hmore.trans (Nat.zero_add _)
          exact hasks
      · exact fun hasks => .inr ⟨number, (Nat.zero_add _).symm, rfl, hasks⟩
    · exact isExhausted_afterPulls htakes hsettles rfl count
  · intro outer count
    rw [said?_afterPulls (fun c => c.next_takes.1) count (NestedScriptChain.start outer),
      said?_afterPulls htakes count (ScriptChain.start (joined outer)),
      NestedScriptChain.ahead_start]

/-- A source with an empty sequence, an error within a sequence, and entries after its end. -/
example :
    let entries : List (Entry String (List (Except String ℕ))) :=
      [.inner [], .inner [.ok 1, .ok 2], .inner [.ok 3, .error "e", .ok 4], .noMore, .inner [.ok 5]]
    let now := afterPulls ScriptChain.next 4 (ScriptChain.start entries)
    upToError (concat id (Script.results entries)) = [.ok 1, .ok 2, .ok 3, .error "e"] ∧
      now.isExhausted = true ∧ now.source.asked = 3 := ⟨rfl, rfl, rfl⟩

end MailCollector.Crawl
