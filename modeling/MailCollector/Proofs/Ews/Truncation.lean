import MailCollector.Ews.Response
import MailCollector.Proofs.Xml.Truncation

/-!
# Answers that break off

An answer that breaks off on its way is never taken for a shorter one.  Either it has lost nothing
that counts and is read as the whole answer, or it is not of the expected form, and it is not if its
root element has not been closed (`answers_read_whole`).
-/

namespace MailCollector.Ews

open MailCollector.Xml

variable {α : Type} {part whole : String}

/-- If the whole text is accepted, then a part of it is read as the whole or is not of the expected
form, and it is not if it does not close its root element. -/
def ReadsWhole (read : String → Except ServiceFault α) (part whole : String) : Prop :=
  ∀ a, read whole = .ok a →
    (read part = .ok a ∨ ∃ message, read part = .error (.protocol message)) ∧
    (¬ ClosesRoot part → ∃ message, read part = .error (.protocol message))

/-- A document of which a text is the beginning is read as itself or not at all. -/
lemma parse_part {root : Element} (hpart : part.toList <+: whole.toList)
    (hwhole : parse whole = .ok root) :
    (parse part = .ok root ∨ ∃ fault, parse part = .error fault) ∧
      (¬ ClosesRoot part → ∃ fault, parse part = .error fault) := by
  cases hread : parse part with
  | error fault => exact ⟨.inr ⟨fault, rfl⟩, fun _ => ⟨fault, rfl⟩⟩
  | ok root' =>
    obtain rfl := parse_prefix hpart hwhole hread
    exact ⟨.inl rfl, fun hopen => absurd (closesRoot_of_parse hread) hopen⟩

lemma readChecked_of_unreadable {fault : Fault} (hread : parse part = .error fault) :
    readChecked part = .error (.protocol fault.message) := by
  unfold readChecked
  rw [hread]
  rfl

/-- What is made of a document is made of it wherever the text of the document ends. -/
lemma readsWhole_of_payload (payload : Element → Except ServiceFault α)
    (hpart : part.toList <+: whole.toList) :
    ReadsWhole (fun body => readChecked body >>= payload) part whole := by
  intro a hwhole
  -- An accepted answer is a document.
  cases hparse : parse whole with
  | error fault =>
    change (readChecked whole >>= payload) = .ok a at hwhole
    rw [readChecked_of_unreadable hparse] at hwhole
    cases hwhole
  | ok root =>
    obtain ⟨hsame, hopen⟩ := parse_part hpart hparse
    have hrefused : (∃ fault, parse part = .error fault) →
        ∃ message, (readChecked part >>= payload) = .error (.protocol message) := by
      rintro ⟨fault, hfault⟩
      exact ⟨fault.message, by rw [readChecked_of_unreadable hfault]; rfl⟩
    refine ⟨hsame.imp (fun hroot => ?_) hrefused, fun hclosed => hrefused (hopen hclosed)⟩
    have hchecked : readChecked part = readChecked whole := by
      unfold readChecked
      rw [hroot, hparse]
    exact (congrArg (· >>= payload) hchecked).trans hwhole

/-- If a text is a document, a beginning of the text is the same document or none, and it is none if
it does not close the root element.  So is it with the answers to all questions: a beginning of an
accepted answer gives what the whole answer gives, all its folders, ids, items and its token, or it
is not of the expected form.  It never is if it breaks off before the root element is closed. -/
theorem answers_read_whole (part rest : String) :
    let whole := part ++ rest
    (∀ root, parse whole = .ok root →
      (parse part = .ok root ∨ ∃ fault, parse part = .error fault) ∧
      (¬ ClosesRoot part → ∃ fault, parse part = .error fault)) ∧
    ReadsWhole readChecked part whole ∧ ReadsWhole readFolders part whole ∧
    ReadsWhole readChanges part whole ∧ ReadsWhole readPage part whole ∧
    ReadsWhole readItems part whole := by
  intro whole
  have hpart : part.toList <+: whole.toList := ⟨rest.toList, String.toList_append.symm⟩
  have hchecked : ReadsWhole readChecked part whole := by
    have hpure := readsWhole_of_payload (pure : Element → Except ServiceFault Element) hpart
    simpa only [bind_pure] using hpure
  exact ⟨fun root => parse_part hpart, hchecked, readsWhole_of_payload _ hpart,
    readsWhole_of_payload _ hpart, readsWhole_of_payload _ hpart, readsWhole_of_payload _ hpart⟩

/-- A page whose last tag is missing is refused. -/
theorem answers_read_whole_sample :
    let part := "<r><FindItemResponseMessage><RootFolder/></FindItemResponseMessage>"
    (∃ page, readPage (part ++ "</r>") = .ok page) ∧ ¬ ClosesRoot part ∧
      ∃ message, readPage part = .error (.protocol message) := by
  intro part
  have hchars : part.toList = _ := String.toList_ofList
  have hread : (readPage (part ++ "</r>")).toOption.isSome = true := by
    rw [readPage, readChecked, parse_eq_parseChars, String.toList_append, hchars,
      String.toList_ofList]
    decide
  have hopen : ¬ ClosesRoot part := by
    have hclosed : closesRoot 0 (tokens (withoutMark part.toList)).1 = false := by
      rw [hchars, tokens_eq_tokensWithin (Nat.le_refl _)]
      decide
    rw [ClosesRoot, hclosed]
    exact Bool.false_ne_true
  cases hpage : readPage (part ++ "</r>") with
  | error fault =>
    rw [hpage] at hread
    cases hread
  | ok page =>
    obtain ⟨-, -, -, -, hreads, -⟩ := answers_read_whole part "</r>"
    exact ⟨⟨page, rfl⟩, hopen, (hreads page hpage).2 hopen⟩

end MailCollector.Ews
