import MailCollector.Xml.Element
import Mathlib.Data.List.Basic

/-!
# Searching documents

The search for the first element of a name and the search for all of them are written independently,
and agree: what the one finds is the first that the other finds (`Element.descendant?_eq_head?`).
What is found are the elements that have the name, among all that lie below an element, however deep
(`Below`, `Element.mem_descendantsNamed_iff`).  So a search finds none only where none of them has
the name (`Element.descendant?_eq_none_iff`).
-/

namespace MailCollector.Xml

/-- The first element is a child of the second one, or lies below one of its children. -/
inductive Below : Element → Element → Prop
  | child {c e : Element} (hc : c ∈ e.children) : Below c e
  | deeper {d c e : Element} (hc : c ∈ e.children) (hd : Below d c) : Below d e

lemma below_iff {d e : Element} :
    Below d e ↔ ∃ c ∈ e.children, d = c ∨ Below d c := by
  constructor
  · rintro (hc | ⟨hc, hd⟩)
    · exact ⟨d, hc, .inl rfl⟩
    · exact ⟨_, hc, .inr hd⟩
  · rintro ⟨c, hc, rfl | hd⟩
    · exact .child hc
    · exact .deeper hc hd

namespace Element

lemma descendantsNamed_eq (name : String) (e : Element) :
    e.descendantsNamed name = allNamed name e.children := by
  cases e
  rfl

mutual

/-- The first element of a name below an element is the first of all of that name. -/
lemma descendant?_eq_head? (name : String) :
    (e : Element) → e.descendant? name = (e.descendantsNamed name).head?
  | ⟨_, _, _, children⟩ => firstNamed?_eq_head? name children

lemma firstNamed?_eq_head? (name : String) :
    (es : List Element) → firstNamed? name es = (allNamed name es).head?
  | [] => rfl
  | e :: es => by
    rw [firstNamed?, allNamed]
    split
    · rfl
    · rw [List.nil_append, List.head?_append, ← descendant?_eq_head? name e,
        ← firstNamed?_eq_head? name es]
      cases e.descendant? name <;> rfl

end

mutual

/-- All elements of a name below an element are those that lie below it and have the name. -/
lemma mem_descendantsNamed_iff (name : String) (d : Element) :
    (e : Element) → (d ∈ e.descendantsNamed name ↔ Below d e ∧ d.name = name)
  | ⟨_, _, _, children⟩ => by
    rw [descendantsNamed, mem_allNamed_iff name d children, below_iff]

lemma mem_allNamed_iff (name : String) (d : Element) :
    (es : List Element) →
      (d ∈ allNamed name es ↔ (∃ e ∈ es, d = e ∨ Below d e) ∧ d.name = name)
  | [] => by simp [allNamed]
  | e :: es => by
    rw [allNamed, List.mem_append, List.mem_append, List.mem_ite_nil_right, List.mem_singleton,
      mem_descendantsNamed_iff name d e, mem_allNamed_iff name d es, List.exists_mem_cons_iff,
      or_and_right, or_and_right]
    refine or_congr_left (or_congr_left ⟨?_, ?_⟩)
    · rintro ⟨hname, rfl⟩
      exact ⟨rfl, hname⟩
    · rintro ⟨rfl, hname⟩
      exact ⟨hname, rfl⟩

end

/-- No element of a name is found below an element if and only if none there has the name. -/
theorem descendant?_eq_none_iff (name : String) (e : Element) :
    e.descendant? name = none ↔ ∀ d, Below d e → d.name ≠ name := by
  rw [descendant?_eq_head?, List.head?_eq_none_iff, List.eq_nil_iff_forall_not_mem]
  simp only [mem_descendantsNamed_iff, not_and, ne_eq]

end Element

end MailCollector.Xml
