/-!
# Finite tables

A table keeps one value per key. Writing under a key replaces the value that was there, and the two
lemmas on `find?` say that this is all it does: the written key shows the new value and every other
key shows what it showed before.
-/

namespace MailCollector.Checkpoint

/-- Values under keys. -/
structure Table (κ β : Type) where
  entries : List (κ × β) := []
deriving DecidableEq, Repr

namespace Table

variable {κ β : Type} [BEq κ]

/-- The value under a key. -/
def find? (t : Table κ β) (key : κ) : Option β :=
  t.entries.lookup key

/-- Puts a value under a key, in place of an earlier one. -/
def insert (t : Table κ β) (key : κ) (value : β) : Table κ β :=
  ⟨(key, value) :: t.entries.filter fun e => !(e.1 == key)⟩

theorem find?_insert_self [LawfulBEq κ] (t : Table κ β) (key : κ) (value : β) :
    (t.insert key value).find? key = some value := by
  simp [find?, insert]

theorem find?_insert_of_ne [LawfulBEq κ] (t : Table κ β) {key other : κ} (value : β)
    (ne : other ≠ key) : (t.insert key value).find? other = t.find? other := by
  have head : (other == key) = false := by simpa using ne
  simp only [find?, insert, List.lookup_cons, head]
  induction t.entries with
  | nil => rfl
  | cons e rest ih =>
    obtain ⟨k, v⟩ := e
    by_cases eq : k = key
    · subst eq
      simp [List.lookup_cons, head, ih]
    · have keep : (k == key) = false := by simpa using eq
      simp [List.lookup_cons, keep, ih]

end Table

end MailCollector.Checkpoint
