/-!
# Ranges of code points

A class of characters is given by the ranges of its code points, first and last.
-/

namespace MailCollector.Unicode

/-- Ranges of code points in ascending order, each with its first and its last. -/
abbrev Ranges := Array (Nat × Nat)

/-- Whether a character is in one of the ranges. -/
def Ranges.contains (ranges : Ranges) (c : Char) : Bool :=
  ranges.any fun r => r.1 ≤ c.toNat && c.toNat ≤ r.2

end MailCollector.Unicode
