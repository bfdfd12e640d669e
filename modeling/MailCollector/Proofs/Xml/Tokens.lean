import MailCollector.Xml.Document
import Mathlib.Tactic.Common

/-!
# Taking tokens off a text

How a text goes on is decided by what stands at its front (`tokens_eq`).  Every token shortens the
text, and this is why reading it ends; so a reader may as well count the characters down
(`tokensWithin`).  The two take the same tokens (`tokens_eq_tokensWithin`), but counting down can be
evaluated without the proof that reading ends.  In this way documents whose characters are given
are read by computation (`parse_eq_parseChars`).
-/

namespace MailCollector.Xml

/-- Only what stands at the front decides how a text goes on. -/
lemma tokens_eq (cs : List Char) :
    tokens cs =
      match front cs with
      | .finished => ([], none)
      | .fault f => ([], some f)
      | .token t rest => (t :: (tokens rest).1, (tokens rest).2) := by
  rw [tokens]
  split <;> simp_all

lemma tokens_of_front {cs rest : List Char} {t : Token} (h : front cs = .token t rest) :
    tokens cs = (t :: (tokens rest).1, (tokens rest).2) := by
  rw [tokens_eq, h]

/-! ### Counting down -/

/-- The tokens of a text, as many as the fuel allows. -/
def tokensWithin : (fuel : ℕ) → List Char → List Token × Option Fault
  | 0, _ => ([], none)
  | fuel + 1, cs =>
    match front cs with
    | .finished => ([], none)
    | .fault f => ([], some f)
    | .token t rest => (t :: (tokensWithin fuel rest).1, (tokensWithin fuel rest).2)

/-- Every token takes a character at least, so no more fuel is used than there are characters. -/
theorem tokens_eq_tokensWithin {fuel : ℕ} {cs : List Char} (h : cs.length ≤ fuel) :
    tokens cs = tokensWithin fuel cs := by
  induction fuel generalizing cs with
  | zero =>
    rw [List.eq_nil_of_length_eq_zero (Nat.le_zero.1 h), tokens_eq]
    rfl
  | succ fuel ih =>
    rw [tokens_eq, tokensWithin]
    cases hfront : front cs with
    | finished => rfl
    | fault f => rfl
    | token t rest =>
      have hshorter := length_front hfront
      dsimp only
      rw [ih (by omega)]

/-- The document that the characters of a text are read as. -/
def parseChars (cs : List Char) : Except Fault Element :=
  match Reading.all {} (tokensWithin cs.length (withoutMark cs)).2
      (tokensWithin cs.length (withoutMark cs)).1 with
  | .error f => .error f
  | .ok r => r.finish

lemma length_withoutMark_le (cs : List Char) : (withoutMark cs).length ≤ cs.length := by
  unfold withoutMark
  split
  · exact Nat.le_succ _
  · exact Nat.le_refl _

/-- A text is read as its characters are. -/
theorem parse_eq_parseChars (text : String) : parse text = parseChars text.toList := by
  rw [parse, tokens_eq_tokensWithin (length_withoutMark_le text.toList)]
  rfl

end MailCollector.Xml
