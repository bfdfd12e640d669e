import MailCollector.Proofs.Xml.Search
import MailCollector.Proofs.Xml.Truncation

/-!
# Places in a document

A text without faults has the same tokens in front of markup as alone (`tokens_append_markup`), so a
document can be read up to an element, and then the element.  Once that has ended it is part of the
document for good (`Reading.Holds.all`), unless the root has ended before it.
-/

namespace MailCollector.Xml

open MailCollector.Text

/-! ### Tokens in front of markup -/

/-- What begins with an angle bracket is never the end. -/
lemma frontOfMarkup_ne_finished (cs : List Char) : frontOfMarkup cs ≠ .finished := by
  unfold frontOfMarkup frontOfDeclaration skippedUpTo
  repeat' split
  all_goals simp

/-- What begins with an angle bracket is markup. -/
lemma front_of_bracket {cs ds : List Char} (hdrop : cs.dropWhile isMarkupBlank = '<' :: ds) :
    front cs = frontOfMarkup ds := by
  rw [front, hdrop]
  rfl

/-- An angle bracket that follows does not move the first one. -/
lemma span_bracket (cs q : List Char) :
    (cs ++ '<' :: q).takeWhile (· != '<') = cs.takeWhile (· != '<') ∧
      (cs ++ '<' :: q).dropWhile (· != '<') = cs.dropWhile (· != '<') ++ '<' :: q := by
  induction cs with
  | nil => exact ⟨rfl, rfl⟩
  | cons c cs ih =>
    by_cases hc : c = '<'
    · subst hc
      exact ⟨rfl, rfl⟩
    · simp [hc, ih]

/-- A text without faults has the same tokens in front of markup. -/
lemma tokens_append_markup {p : List Char} {ts : List Token} (h : tokens p = (ts, none))
    (q : List Char) :
    tokens (p ++ '<' :: q) = (ts ++ (tokens ('<' :: q)).1, (tokens ('<' :: q)).2) := by
  induction hlength : p.length using Nat.strongRecOn generalizing p ts with
  | _ length ih =>
    -- A token is in front of the text, and of what goes on, and the rest is shorter.
    have hstep : ∀ {t rest}, front p = .token t rest →
        front (p ++ '<' :: q) = .token t (rest ++ '<' :: q) →
        tokens (p ++ '<' :: q) = (ts ++ (tokens ('<' :: q)).1, (tokens ('<' :: q)).2) := by
      intro t rest hfront hlonger
      rw [tokens_of_front hfront] at h
      obtain ⟨hts, hfault⟩ := Prod.mk.inj h
      have hrest := ih rest.length (hlength ▸ length_front hfront) (p := rest)
        (Prod.ext rfl hfault) rfl
      rw [tokens_of_front hlonger, hrest, ← hts, List.cons_append]
    cases hdrop : p.dropWhile isMarkupBlank with
    | nil =>
      have hfinished : front p = .finished := by rw [front, hdrop]
      have hsame : front (p ++ '<' :: q) = front ('<' :: q) := by
        rw [front, List.dropWhile_append, hdrop]
        rfl
      rw [tokens_eq, hfinished] at h
      cases h
      rw [tokens_eq, hsame, ← tokens_eq, List.nil_append]
    | cons c cs =>
      have hdrop' : (p ++ '<' :: q).dropWhile isMarkupBlank = c :: (cs ++ '<' :: q) := by
        rw [List.dropWhile_append, hdrop]
        rfl
      by_cases hc : c = '<'
      · subst hc
        have hmarkup := front_of_bracket hdrop
        cases hfront : frontOfMarkup cs with
        | finished => exact absurd hfront (frontOfMarkup_ne_finished cs)
        | fault f =>
          rw [tokens_eq, hmarkup, hfront] at h
          cases h
        | token t rest =>
          exact hstep (hmarkup.trans hfront)
            ((front_of_bracket hdrop').trans (frontOfMarkup_append hfront _))
      · refine hstep (front_of_ne hdrop hc) ?_
        rw [front_of_ne hdrop' hc, (span_bracket cs q).1, (span_bracket cs q).2]

/-- A tag that is written in full. -/
structure IsTag (t : Token) (cs : List Char) : Prop where
  front : front cs = .token t []
  bracket : cs.head? = some '<'

lemma IsTag.tokens {t : Token} {cs : List Char} (h : IsTag t cs) (ht : ∀ raw, t ≠ .text raw)
    (rest : List Char) :
    Xml.tokens (cs ++ rest) = (t :: (Xml.tokens rest).1, (Xml.tokens rest).2) :=
  tokens_of_front (front_append h.front (.inr ht) rest)

/-! ### Elements that have ended -/

namespace Reading

variable {r r' : Reading} {e : Element}

/-- An element is part of what is read: it lies below an element that is open while there is no root
yet, or it is the root or lies below it. -/
def Holds (e : Element) (r : Reading) : Prop :=
  (r.root = none ∧ ∃ o ∈ r.stack, Below e o.element) ∨
    ∃ root, r.root = some root ∧ (e = root ∨ Below e root)

/-- What lies below an element lies below one that has all its children. -/
lemma below_of_subset {around : Element} (h : Below e around) {wider : Element}
    (hsub : around.children ⊆ wider.children) : Below e wider := by
  obtain ⟨c, hc, h⟩ := below_iff.1 h
  exact below_iff.2 ⟨c, hsub hc, h⟩

/-- An element that is placed before there is a root is part of what is read, and so is what lies
below it. -/
lemma holds_place {placed : Element} (hroot : r.root = none) (h : e = placed ∨ Below e placed) :
    Holds e (r.place placed) := by
  obtain ⟨_ | ⟨top, stack⟩, root⟩ := r
  · obtain rfl : root = none := hroot
    exact .inr ⟨placed, rfl, h⟩
  · refine .inl ⟨hroot, _, List.mem_cons_self, below_iff.2 ⟨placed, ?_, h⟩⟩
    exact List.mem_append_right _ List.mem_cons_self

/-- An element that lies below an open one stays there when the innermost one is put in place of one
that has no more children. -/
lemma holds_of_top {o top wider : OpenElement} {stack : List OpenElement}
    (ho : o ∈ top :: stack) (h : Below e o.element)
    (hsub : top.element.children ⊆ wider.element.children) : Holds e ⟨wider :: stack, none⟩ := by
  rcases List.mem_cons.1 ho with rfl | ho
  · exact .inl ⟨rfl, wider, List.mem_cons_self, below_of_subset h hsub⟩
  · exact .inl ⟨rfl, o, List.mem_cons_of_mem _ ho, h⟩

/-- An element that lies below an open one stays there when another one is placed. -/
lemma Holds.place {o : OpenElement} (hroot : r.root = none) (ho : o ∈ r.stack)
    (h : Below e o.element) (placed : Element) : Holds e (r.place placed) := by
  obtain ⟨_ | ⟨top, stack⟩, root⟩ := r
  · cases ho
  · obtain rfl : root = none := hroot
    exact holds_of_top ho h (List.subset_append_left _ _)

lemma Holds.addText {o : OpenElement} (hroot : r.root = none) (ho : o ∈ r.stack)
    (h : Below e o.element) (content : List Char) : Holds e (r.addText content) := by
  obtain ⟨_ | ⟨top, stack⟩, root⟩ := r
  · cases ho
  · obtain rfl : root = none := hroot
    exact holds_of_top ho h (List.Subset.refl _)

/-- What is part of what is read stays part of it. -/
lemma Holds.next {t : Token} (h : Holds e r) (hnext : r.next t = .ok r') : Holds e r' := by
  rcases h with ⟨hroot, o, ho, hbelow⟩ | ⟨root, hroot, h⟩
  · cases t with
    | opening name attributes =>
      cases hnext
      exact .inl ⟨hroot, o, List.mem_cons_of_mem _ ho, hbelow⟩
    | single name attributes =>
      cases hnext
      exact .place hroot ho hbelow _
    | closing name =>
      obtain ⟨_ | ⟨top, stack⟩, root⟩ := r
      · cases ho
      · rw [Reading.next] at hnext
        split at hnext
        · cases hnext
        · rename_i hopen
          cases hopen
          split at hnext
          · cases hnext
            rcases List.mem_cons.1 ho with rfl | ho
            · exact holds_place hroot (.inr hbelow)
            · exact Holds.place (r := ⟨stack, root⟩) hroot ho hbelow _
          · cases hnext
    | text raw =>
      rw [Reading.next] at hnext
      split at hnext
      · cases hnext
        exact .inl ⟨hroot, o, ho, hbelow⟩
      · split at hnext
        · cases hnext
          exact .addText hroot ho hbelow _
        · cases hnext
    | verbatim content =>
      cases hnext
      exact .addText hroot ho hbelow _
    | skipped =>
      cases hnext
      exact .inl ⟨hroot, o, ho, hbelow⟩
  · exact .inr ⟨root, next_root hnext hroot, h⟩

lemma Holds.all {fault : Option Fault} {ts : List Token} (h : Holds e r)
    (hall : r.all fault ts = .ok r') : Holds e r' :=
  all_keeps (fun _ _ _ h hnext => h.next hnext) h hall

end Reading

end MailCollector.Xml
