/-!
# Mail records

A record is what is collected of one mail: header names with their values, each name once, in the
order of the names. The order is part of the type, so two records with the same headers are equal.
-/

namespace MailCollector.Mail

/-- Puts a value under a name in a list that is ordered by name, in place of an earlier value. -/
def insertHeader (name value : String) : List (String × String) → List (String × String)
  | [] => [(name, value)]
  | (n, v) :: rest =>
    if name < n then (name, value) :: (n, v) :: rest
    else if name = n then (name, value) :: rest
    else (n, v) :: insertHeader name value rest

/-- Inserting adds no name but the given one. -/
theorem mem_insertHeader {name value : String} {hs : List (String × String)}
    {h : String × String} (mem : h ∈ insertHeader name value hs) :
    h = (name, value) ∨ h ∈ hs := by
  induction hs with
  | nil => simpa [insertHeader] using mem
  | cons head rest ih =>
    obtain ⟨n, v⟩ := head
    simp only [insertHeader] at mem
    split at mem
    · simpa using mem
    · split at mem
      · rcases List.mem_cons.1 mem with h | h
        · exact Or.inl h
        · exact Or.inr (List.mem_cons_of_mem _ h)
      · rcases List.mem_cons.1 mem with h | h
        · exact Or.inr (h ▸ List.mem_cons_self)
        · exact (ih h).imp id (List.mem_cons_of_mem _)

/-- Inserting keeps the order of the names. -/
theorem insertHeader_sorted (name value : String) {hs : List (String × String)}
    (sorted : hs.Pairwise fun a b => a.1 < b.1) :
    (insertHeader name value hs).Pairwise fun a b => a.1 < b.1 := by
  induction hs with
  | nil => simp [insertHeader]
  | cons head rest ih =>
    obtain ⟨n, v⟩ := head
    rw [List.pairwise_cons] at sorted
    simp only [insertHeader]
    split
    · rename_i before
      refine List.pairwise_cons.2 ⟨?_, List.pairwise_cons.2 sorted⟩
      intro h mem
      rcases List.mem_cons.1 mem with eq | mem
      · exact eq ▸ before
      · exact String.lt_trans before (sorted.1 h mem)
    · split
      · rename_i eq
        exact List.pairwise_cons.2 ⟨fun h mem => eq ▸ sorted.1 h mem, sorted.2⟩
      · rename_i notBefore ne
        refine List.pairwise_cons.2 ⟨?_, ih sorted.2⟩
        intro h mem
        rcases mem_insertHeader mem with eq | mem
        · subst eq
          exact String.not_le.1 fun le => ne (String.le_antisymm le (String.not_lt.1 notBefore))
        · exact sorted.1 h mem

/-- Headers of one mail, ordered by name without repetition. -/
structure Record where
  headers : List (String × String) := []
  sorted : headers.Pairwise (fun a b => a.1 < b.1) := by simp
deriving DecidableEq

namespace Record

/-- The record without headers. -/
def empty : Record := {}

instance : Inhabited Record := ⟨empty⟩

/-- Sets a header, in place of an earlier value of it. -/
def insert (r : Record) (name value : String) : Record :=
  ⟨insertHeader name value r.headers, insertHeader_sorted name value r.sorted⟩

/-- Sets a header unless the value is empty; an empty value leaves an earlier one in place. -/
def withHeader (r : Record) (name value : String) : Record :=
  if value = "" then r else r.insert name value

/-- Sets a header if there is a value for it. -/
def withHeader? (r : Record) (name : String) : Option String → Record
  | some value => r.withHeader name value
  | none => r

/-- The value of a header. -/
def get? (r : Record) (name : String) : Option String :=
  r.headers.lookup name

/-- Whether a header is there. -/
def contains (r : Record) (name : String) : Bool :=
  (r.get? name).isSome

/-- The number of headers. -/
def size (r : Record) : Nat :=
  r.headers.length

/-- Collects headers in the order in which they are given, the last non-empty value of a name
winning. -/
def ofHeaders (headers : List (String × Option String)) : Record :=
  headers.foldl (fun r h => r.withHeader? h.1 h.2) empty

end Record

end MailCollector.Mail
