import MailCollector.Text.Decimal
import Mathlib.Tactic.Common
import Mathlib.Tactic.IntervalCases
import Mathlib.Tactic.Ring

/-!
# Digits

A digit is read as the number that it was written for, and a numeral consists of digits only.
-/

namespace MailCollector.Text

/-- A character that stands for a digit. -/
def IsDigit (c : Char) : Prop := ∃ d < 10, c = digitChar d

lemma isDigit_digitChar (d : ℕ) : IsDigit (digitChar d) :=
  ⟨d % 10, Nat.mod_lt _ (by decide), by rw [digitChar, digitChar, Nat.mod_mod]⟩

/-- The digit of a number is read as its last digit. -/
@[simp] lemma digitValue?_digitChar (d : ℕ) : digitValue? (digitChar d) = some (d % 10) := by
  have hd : d % 10 < 10 := Nat.mod_lt _ (by decide)
  rw [digitChar]
  generalize d % 10 = r at hd ⊢
  interval_cases r <;> decide

/-- A padded numeral begins with a digit and goes on with fewer digits of the same number. -/
lemma padded_succ (width n : ℕ) :
    padded (width + 1) n = digitChar (n / 10 ^ width) :: padded width n := by
  induction width generalizing n with
  | zero => simp [padded]
  | succ width ih =>
    rw [padded, ih, List.cons_append, ← padded.eq_2, Nat.div_div_eq_div_mul, ← Nat.pow_succ']

lemma isDigit_of_mem_decimal {n : ℕ} {c : Char} (hc : c ∈ decimal n) : IsDigit c := by
  induction n using decimal.induct with
  | case1 n hn =>
    rw [decimal, if_pos hn, List.mem_singleton] at hc
    exact hc ▸ isDigit_digitChar n
  | case2 n hn ih =>
    rw [decimal, if_neg hn, List.mem_append, List.mem_singleton] at hc
    rcases hc with hc | rfl
    · exact ih hc
    · exact isDigit_digitChar n

lemma decimal_ne_nil (n : ℕ) : decimal n ≠ [] := by
  rw [decimal]
  split_ifs <;> simp

end MailCollector.Text
