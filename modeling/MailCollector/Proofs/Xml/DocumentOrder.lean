import MailCollector.Proofs.Xml.Search
import Mathlib.Data.List.Sort

/-!
# The order of a document

Equal elements may stand at several places of a document, so a list of elements alone does not tell
whether each of them was found once, and in order.  A place is named by its address
(`Element.Address`), the numbers of the children on the way down to it.  Addresses are compared like
words in a dictionary: an element comes before those in it, and all that is in a child comes before
all that is in the next one.  That is the order in which the elements begin.

The places of a name are listed in the order of the document if their addresses increase, all of
them are there, and no others (`Element.InDocumentOrder`).  There is only one such list
(`Element.InDocumentOrder.unique`).  The elements in it are what the search for all elements of the
name gives, and the search for the first one gives the first of them
(`Element.searches_in_document_order`).
-/

namespace MailCollector.Xml.Element

/-- Where an element lies below another one: the number of a child, then the number of a child of
that child, and so on. -/
abbrev Address := List ℕ

variable {name : String} {e d : Element}

/-- The element at an address. -/
def atAddress? (e : Element) : Address → Option Element
  | [] => some e
  | i :: rest => e.children[i]?.bind fun c => c.atAddress? rest

lemma atAddress?_cons_eq_some {i : ℕ} {rest : Address} :
    e.atAddress? (i :: rest) = some d ↔
      ∃ c, e.children[i]? = some c ∧ c.atAddress? rest = some d :=
  Option.bind_eq_some_iff

/-- These are the places of a name below an element, each with the element there, in the order of
the document. -/
structure InDocumentOrder (name : String) (e : Element) (places : List (Address × Element)) :
    Prop where
  increasing : places.Pairwise fun p q => p.1 < q.1
  mem_iff : ∀ address d, (address, d) ∈ places ↔
    address ≠ [] ∧ e.atAddress? address = some d ∧ d.name = name

/-- There is only one list of the places of a name in the order of the document. -/
lemma InDocumentOrder.unique {places others : List (Address × Element)}
    (h : InDocumentOrder name e places) (h' : InDocumentOrder name e others) : places = others := by
  have hirrefl : Std.Irrefl fun p q : Address × Element => p.1 < q.1 :=
    ⟨fun p => List.lt_irrefl p.1⟩
  have hantisymm : Std.Antisymm fun p q : Address × Element => p.1 < q.1 :=
    ⟨fun _ _ hlt hgt => absurd hgt (List.lt_asymm hlt)⟩
  refine h.increasing.eq_of_mem_iff h'.increasing ?_
  rintro ⟨address, d⟩
  rw [h.mem_iff, h'.mem_iff]

/-! ### The places of a name -/

mutual

/-- The places of a name at an element and below it. -/
def places (name : String) : Element → List (Address × Element)
  | e@⟨_, _, _, children⟩ =>
    (if e.name = name then [([], e)] else []) ++ placesAmong name 0 children

/-- The places of a name at some children of an element and below them, where the first of these
children has this number. -/
def placesAmong (name : String) (i : ℕ) : List Element → List (Address × Element)
  | [] => []
  | c :: cs => (places name c).map (Prod.map (i :: ·) id) ++ placesAmong name (i + 1) cs

end

mutual

lemma map_snd_places (name : String) : (e : Element) → (places name e).map Prod.snd =
    (if e.name = name then [e] else []) ++ e.descendantsNamed name
  | ⟨own, attributes, content, children⟩ => by
    rw [places, descendantsNamed, List.map_append, map_snd_placesAmong name 0 children]
    split <;> rfl

/-- The elements at the places of a name are those that the search for all of them gives. -/
lemma map_snd_placesAmong (name : String) (i : ℕ) :
    (es : List Element) → (placesAmong name i es).map Prod.snd = allNamed name es
  | [] => rfl
  | e :: es => by
    rw [placesAmong, allNamed, List.map_append, List.map_map, Prod.map_snd', Function.id_comp,
      map_snd_places name e, map_snd_placesAmong name (i + 1) es]

end

mutual

/-- A place of a name is an address at which there is an element of that name. -/
lemma mem_places_iff (name : String) (d : Element) :
    (e : Element) → ∀ address,
      ((address, d) ∈ places name e ↔ e.atAddress? address = some d ∧ d.name = name)
  | ⟨own, attributes, content, children⟩ => by
    intro address
    rw [places, List.mem_append, mem_placesAmong_iff name d 0 children, List.mem_ite_nil_right,
      List.mem_singleton]
    cases address with
    | nil =>
      constructor
      · rintro (⟨hname, ⟨⟩⟩ | ⟨⟨_, _, _, ⟨⟩, -⟩, -⟩)
        exact ⟨rfl, hname⟩
      · rintro ⟨⟨⟩, hname⟩
        exact .inl ⟨hname, rfl⟩
    | cons i rest => simp [atAddress?_cons_eq_some]

lemma mem_placesAmong_iff (name : String) (d : Element) (i : ℕ) :
    (es : List Element) → ∀ address, ((address, d) ∈ placesAmong name i es ↔
      (∃ k rest c, address = (i + k) :: rest ∧ es[k]? = some c ∧ c.atAddress? rest = some d) ∧
        d.name = name)
  | [] => by simp [placesAmong]
  | e :: es => by
    intro address
    rw [placesAmong, List.mem_append, List.mem_map, mem_placesAmong_iff name d (i + 1) es]
    constructor
    · rintro (⟨⟨rest, c⟩, hmem, ⟨⟩⟩ | ⟨⟨k, rest, c, rfl, hc, hat⟩, hname⟩)
      · obtain ⟨hat, hname⟩ := (mem_places_iff name c e rest).1 hmem
        exact ⟨⟨0, rest, e, rfl, rfl, hat⟩, hname⟩
      · exact ⟨⟨k + 1, rest, c, by rw [Nat.add_right_comm, Nat.add_assoc], hc, hat⟩, hname⟩
    · rintro ⟨⟨_ | k, rest, c, rfl, hc, hat⟩, hname⟩
      · obtain rfl : e = c := Option.some.inj hc
        exact .inl ⟨(rest, d), (mem_places_iff name d e rest).2 ⟨hat, hname⟩, rfl⟩
      · exact .inr ⟨⟨k, rest, c, by rw [Nat.add_right_comm, Nat.add_assoc], hc, hat⟩, hname⟩

end

/-- The addresses of the places among some children begin with the number of one of these. -/
lemma exists_of_mem_placesAmong {i : ℕ} {es : List Element} {p : Address × Element}
    (h : p ∈ placesAmong name i es) : ∃ k rest, p.1 = (i + k) :: rest := by
  obtain ⟨⟨k, rest, -, haddress, -⟩, -⟩ := (mem_placesAmong_iff name p.2 i es p.1).1 h
  exact ⟨k, rest, haddress⟩

mutual

/-- An element comes before what is below it. -/
lemma places_increasing (name : String) :
    (e : Element) → (places name e).Pairwise fun p q => p.1 < q.1
  | ⟨own, attributes, content, children⟩ => by
    have hbelow := placesAmong_increasing name 0 children
    rw [places]
    split
    · refine List.pairwise_cons.2 ⟨fun q hq => ?_, hbelow⟩
      obtain ⟨k, rest, haddress⟩ := exists_of_mem_placesAmong hq
      exact haddress ▸ List.nil_lt_cons _ _
    · exact hbelow

/-- What is in a child comes before what is in the children after it. -/
lemma placesAmong_increasing (name : String) (i : ℕ) :
    (es : List Element) → (placesAmong name i es).Pairwise fun p q => p.1 < q.1
  | [] => .nil
  | e :: es => by
    rw [placesAmong, List.pairwise_append, List.pairwise_map]
    refine ⟨(places_increasing name e).imp List.cons_lt_cons_self.2,
      placesAmong_increasing name (i + 1) es, fun p hp q hq => ?_⟩
    obtain ⟨p, -, rfl⟩ := List.mem_map.1 hp
    obtain ⟨k, rest, haddress⟩ := exists_of_mem_placesAmong hq
    rw [haddress]
    exact List.cons_lt_cons_iff.2 (.inl (by omega))

end

/-! ### What is searched for -/

/-- The places of a name among the children of an element and below them are those of the name
below the element, in the order of the document. -/
lemma inDocumentOrder_placesAmong (name : String) (e : Element) :
    InDocumentOrder name e (placesAmong name 0 e.children) where
  increasing := placesAmong_increasing name 0 e.children
  mem_iff address d := by
    rw [mem_placesAmong_iff name d 0]
    cases address with
    | nil => simp
    | cons i rest => simp [atAddress?_cons_eq_some]

/-- Both searches follow the order of the document.  A list is what the search for all elements of a
name gives if and only if it has the elements at the places of that name below the element, each
place once and in order; a place inside another one of the name is no exception.  The search for the
first element gives the first of that list, and none if and only if the list is empty. -/
theorem searches_in_document_order (name : String) (e : Element) :
    (∀ found, found = e.descendantsNamed name ↔
      ∃ places, InDocumentOrder name e places ∧ found = places.map Prod.snd) ∧
    e.descendant? name = (e.descendantsNamed name).head? ∧
    (e.descendant? name = none ↔ e.descendantsNamed name = []) := by
  have hplaces := inDocumentOrder_placesAmong name e
  have hfound : (placesAmong name 0 e.children).map Prod.snd = e.descendantsNamed name := by
    rw [map_snd_placesAmong, descendantsNamed_eq]
  have hhead := descendant?_eq_head? name e
  refine ⟨fun found => ⟨?_, ?_⟩, hhead, by rw [hhead, List.head?_eq_none_iff]⟩
  · rintro rfl
    exact ⟨_, hplaces, hfound.symm⟩
  · rintro ⟨others, hothers, rfl⟩
    rw [hothers.unique hplaces, hfound]

/-- Two equal elements of a name, one of them in another element of that name, are both found. -/
example :
    let leaf : Element := { name := "b", attributes := [("n", "2")] }
    let outer : Element := { name := "b", attributes := [("n", "1")], children := [leaf] }
    let root : Element := { name := "a", children := [outer, { name := "c", children := [leaf] }] }
    (root.descendantsNamed "b").map (·.attribute? "n") = [some "1", some "2", some "2"] ∧
      (placesAmong "b" 0 root.children).map Prod.fst = [[0], [0, 0], [1, 0]] := by
  decide

end MailCollector.Xml.Element
