import MailCollector.Proofs.Crawl.Turns

/-!
# Taking turns until a sequence ends

A lazy sequence of records is exhausted by taking its turns one after another and handing each
record over, until it ends or fails (`exhaust`).  If the sequence unfolds to a plain loop, the turns
begin the loop (`exhaust_le`), and if the loop comes to an end, so do the turns: all but finitely
many numbers of them are enough (`exhaust_finishes`).  The turns that make no call cannot hold them
up, for only a few of them follow one another (`turns_le`).
-/

namespace MailCollector.Crawl

open MailCollector.Mail MailCollector.Log Plain Plain.Attempt

variable {σ τ : Type} {turn : τ → Program (Turn Failure Record τ)} {rest : ℕ → τ → Attempt Unit}

/-- Takes at most so many turns of a sequence and hands its records over. -/
def exhaust (turn : τ → Program (Turn Failure Record τ)) : (turns : ℕ) → τ → Attempt Unit
  | 0, _ => throw .unfinished
  | turns + 1, s => ExceptT.lift (turn s) >>= Turn.resume (handed turns) (exhaust turn turns)

/-- The first turn, and what comes of it. -/
lemma exhaust_run_succ (turns : ℕ) (s : τ) :
    (exhaust turn (turns + 1) s).run =
      turn s >>= fun said => (Turn.resume (handed turns) (exhaust turn turns) said).run := by
  simp only [exhaust, ExceptT.run_bind, ExceptT.run_lift, bind_map_left]

/-- A record is handed over before the other turns are taken. -/
lemma resume_value_run (record : Record) (turns : ℕ) (s : τ) :
    (Turn.resume (handed turns) (exhaust turn turns) (.value record s)).run =
      .call (.store record) fun _ => (exhaust turn turns s).run := by
  simp only [Turn.resume, handed, ExceptT.run_bind, ExceptT.run_lift, bind_map_left]
  rfl

/-! ### Turns and the plain loop -/

/-- More remains after a turn if more remains in each state. -/
lemma resume_le_resume {element : Record → Attempt Unit} {rest rest' : τ → Attempt Unit}
    (hrest : ∀ s, rest s ≤ rest' s) (said : Turn Failure Record τ) :
    Turn.resume element rest said ≤ Turn.resume element rest' said := by
  cases said with
  | value record s => exact bind_le_bind (le_refl _) fun _ => hrest s
  | failed failure s => exact le_refl _
  | ended s => exact le_refl _
  | working s => exact hrest s

/-- The turns begin the plain loop to which the sequence unfolds. -/
theorem exhaust_le (hunfolds : Unfolds turn handed rest) (turns : ℕ) (s : τ) :
    exhaust turn turns s ≤ rest turns s := by
  induction turns generalizing s with
  | zero => exact unfinished_le _
  | succ turns ih =>
    calc exhaust turn (turns + 1) s
        ≤ ExceptT.lift (turn s) >>= Turn.resume (handed turns) (rest turns) :=
          bind_le_bind (le_refl _) fun said => resume_le_resume ih said
      _ ≤ rest (turns + 1) s := hunfolds.turn_le turns s

/-- A larger bound leaves more of a loop. -/
lemma Unfolds.le_of_le (hunfolds : Unfolds turn handed rest) {bound bound' : ℕ}
    (hbound : bound ≤ bound') (s : τ) : rest bound s ≤ rest bound' s := by
  obtain ⟨more, rfl⟩ := Nat.exists_eq_add_of_le hbound
  induction more with
  | zero => exact le_refl _
  | succ more ih => exact (ih (Nat.le_add_right _ _)).trans (hunfolds.grows _ s)

/-- Turns crash over undatable items only, if each of them does. -/
lemma exhaust_sturdy (hturn : ∀ s, (turn s).Sturdy) (turns : ℕ) (s : τ) :
    (exhaust turn turns s).run.Sturdy := by
  induction turns generalizing s with
  | zero => trivial
  | succ turns ih =>
    rw [exhaust_run_succ]
    refine (hturn s).bind fun said => ?_
    cases said with
    | value record s =>
      rw [resume_value_run]
      exact fun _ => ih s
    | failed failure s => trivial
    | ended s => trivial
    | working s => exact ih s

/-! ### The number of turns -/

section Slack

variable {slack : τ → ℕ} {most : ℕ} {world : World σ} {w : σ}

/-- Turns that have not come to an end are bounded by the calls that they made, if at most `most`
turns in a row are silent. -/
theorem turns_le (hmost : ∀ s, slack s ≤ most)
    (hspent : ∀ s s', turn s = .done (.working s') → slack s' < slack s) {turns : ℕ} {s : τ}
    (hrun : ((exhaust turn turns s).run.run world w).1 = .ok (.error .unfinished)) :
    turns ≤ (most + 1) * ((exhaust turn turns s).run.trace world w).length + slack s := by
  induction turns generalizing s w with
  | zero => exact Nat.zero_le _
  | succ turns ih =>
    rw [exhaust_run_succ, Program.run_bind] at hrun
    rw [exhaust_run_succ, Program.trace_bind, List.length_append, Nat.mul_add]
    -- A turn that makes no call either says something or uses up slack.
    have hsilent : ∀ s' w', (turn s).run world w = (.ok (.working s'), w') →
        slack s' + 1 ≤ slack s + (most + 1) * ((turn s).trace world w).length := by
      intro s' w' hworking
      cases hturn : turn s with
      | done said =>
        rw [hturn] at hworking
        cases hworking
        exact Nat.le_add_right_of_le (hspent s s' hturn)
      | crash reason =>
        rw [hturn] at hworking
        cases hworking
      | call c resume =>
        have hle := hmost s'
        rw [Program.trace_call, List.length_cons, Nat.mul_succ]
        omega
    generalize (turn s).run world w = ended at hrun hsilent ⊢
    obtain ⟨_ | said, w'⟩ := ended
    · cases hrun
    cases said with
    | value record s' =>
      dsimp only at hrun ⊢
      rw [resume_value_run, Program.run_call] at hrun
      rw [resume_value_run, Program.trace_call, List.length_cons, Nat.mul_succ]
      have hnext := ih hrun
      have hle := hmost s'
      omega
    | failed failure s' => cases hrun
    | ended s' => cases hrun
    | working s' =>
      have hnext := ih hrun
      have hspends := hsilent s' w' rfl
      simp only [Turn.resume]
      omega

/-- If the plain loop comes to an end in a world with some bound, all but finitely many numbers of
turns are enough for the sequence to end there. -/
theorem exhaust_finishes (hunfolds : Unfolds turn handed rest) (hmost : ∀ s, slack s ≤ most)
    (hspent : ∀ s s', turn s = .done (.working s') → slack s' < slack s) {bound : ℕ} {s : τ}
    (huncut : ∀ result, ((rest bound s).run.run world w).1 = .ok result → ¬ IsCut result) :
    ∃ enough, ∀ turns ≥ enough,
      ((exhaust turn turns s).run.run world w).1 ≠ .ok (.error .unfinished) := by
  refine ⟨max bound ((most + 1) * ((rest bound s).run.trace world w).length + most + 1),
    fun turns hturns hrun => ?_⟩
  obtain ⟨hbound, henough⟩ := Nat.max_le.1 hturns
  have hcount := turns_le hmost hspent hrun
  have hslack := hmost s
  have hgrows := le_def.1 (hunfolds.le_of_le hbound s)
  have hbegins := (le_def.1 (exhaust_le hunfolds turns s)).trace_isPrefix world w
  rw [hgrows.trace_eq world huncut] at hbegins
  have hlength := Nat.mul_le_mul_left (most + 1) hbegins.length_le
  omega

end Slack

end MailCollector.Crawl
