import MailCollector.Proofs.Mail.Headers
import Mathlib.Data.List.Forall2

/-!
# Empty properties of an item

A server may send a property with an empty text in place of none.  An item of which some of the
empty texts are gone (`Item.Emptied`) has the same record as before, apart from one kind of text:
an address that has a name is shown with empty angle brackets if it is empty, and without brackets
if it is absent.  The record is the same if and only if no address of this kind is gone
(`record_of_emptied`).
-/

namespace MailCollector.Mail

open MailCollector.Text

/-- A text that is gone, or was kept. Only an empty one is gone. -/
def Emptied (s' s : Option String) : Prop := s' = s ∨ s = some "" ∧ s' = none

instance (s' s : Option String) : Decidable (Emptied s' s) :=
  inferInstanceAs (Decidable (_ ∨ _))

/-- An empty text counts as an absent one. -/
lemma Emptied.nonEmpty {s' s : Option String} (h : Emptied s' s) :
    Text.nonEmpty s' = Text.nonEmpty s := by
  rcases h with rfl | ⟨rfl, rfl⟩ <;> rfl

namespace Address

/-- An address of which some of the empty parts are gone. -/
structure Emptied (a' a : Address) : Prop where
  name : Mail.Emptied a'.name a.name
  email : Mail.Emptied a'.email a.email

/-- An address that is empty behind a name that is not. -/
def Hollow (a : Address) : Prop := (nonEmpty a.name).isSome ∧ a.email = some ""

instance : DecidablePred Hollow := fun _ => inferInstanceAs (Decidable (_ ∧ _))

/-- The empty address behind a name is not gone. -/
def Intact (a' a : Address) : Prop := ¬ (a.Hollow ∧ a'.email = none)

instance : DecidableRel Intact := fun _ _ => inferInstanceAs (Decidable (¬ _))

/-- A text that shows one part of an address or both, and none that is empty. -/
def Whole (a : Address) (shown : String) : Prop :=
  shown ≠ "" ∧ (a.name = some shown ∨ a.email = some shown ∨
    ∃ name email, a.name = some name ∧ a.email = some email ∧ name ≠ "" ∧ email ≠ "" ∧
      shown = name ++ " <" ++ email ++ ">")

end Address

/-- An item of which some of the empty texts are gone. -/
structure Item.Emptied (item' item : Item) : Prop where
  id : item'.id = item.id
  changeKey : Mail.Emptied item'.changeKey item.changeKey
  subject : Mail.Emptied item'.subject item.subject
  sender : Option.Rel Address.Emptied item'.sender item.sender
  recipients : List.Forall₂ Address.Emptied item'.recipients item.recipients
  copied : List.Forall₂ Address.Emptied item'.copied item.copied
  sentAt : item'.sentAt = item.sentAt
  receivedAt : item'.receivedAt = item.receivedAt
  size : item'.size = item.size
  importance : Mail.Emptied item'.importance item.importance
  isRead : item'.isRead = item.isRead
  hasAttachments : item'.hasAttachments = item.hasAttachments
  messageId : Mail.Emptied item'.messageId item.messageId
  inReplyTo : Mail.Emptied item'.inReplyTo item.inReplyTo
  references : Mail.Emptied item'.references item.references
  conversationId : Mail.Emptied item'.conversationId item.conversationId

namespace Item

/-- No empty address behind a name is gone from an item. -/
structure Intact (item' item : Item) : Prop where
  sender : Option.Rel Address.Intact item'.sender item.sender
  recipients : List.Forall₂ Address.Intact item'.recipients item.recipients
  copied : List.Forall₂ Address.Intact item'.copied item.copied

/-- All addresses of an item. -/
def addresses (item : Item) : List Address :=
  item.sender.toList ++ item.recipients ++ item.copied

end Item

/-! ### One address -/

/-- Brackets make a name another text, which is not empty. -/
lemma append_brackets_ne (name : String) : name ++ " <>" ≠ name ∧ name ++ " <>" ≠ "" := by
  have hlength : (name ++ " <>").length = name.length + 3 :=
    String.length_append name " <>"
  constructor <;> intro h <;> rw [h] at hlength
  · omega
  · cases hlength

namespace Address

variable {a a' : Address}

/-- An address that is hollow is shown with empty brackets. -/
lemma Hollow.display_eq (h : a.Hollow) : ∃ name, a.name = some name ∧ name ≠ "" ∧
    a.display = some (name ++ " <>") := by
  obtain ⟨_ | name, email⟩ := a
  · cases h.1
  · obtain ⟨hname, rfl : email = some ""⟩ := h
    have hne : name ≠ "" := by
      rintro rfl
      cases hname
    refine ⟨name, rfl, hne, ?_⟩
    simp [display, hne, String.append_assoc]

/-- What is shown of any other address has no empty part. -/
lemma whole_of_not_hollow (h : ¬ a.Hollow) {shown : String} (hshown : shown ∈ a.display) :
    a.Whole shown := by
  obtain ⟨_ | name, _ | email⟩ := a
  · cases hshown
  · obtain ⟨hne, hsame⟩ := Option.ite_none_right_eq_some.1 hshown
    exact ⟨Option.some.inj hsame ▸ hne, .inr (.inl hsame)⟩
  · obtain ⟨hne, hsame⟩ := Option.ite_none_right_eq_some.1 hshown
    exact ⟨Option.some.inj hsame ▸ hne, .inl hsame⟩
  · have hboth : name ≠ "" → email ≠ "" := by
      rintro hname rfl
      exact h ⟨by simpa [nonEmpty] using hname, rfl⟩
    simp only [display, Option.mem_def] at hshown
    split_ifs at hshown with htwo hemail hname <;> cases hshown
    · refine ⟨by simp, .inr (.inr ⟨name, email, rfl, rfl, htwo.1, hboth htwo.1, rfl⟩)⟩
    · exact ⟨hemail, .inr (.inl rfl)⟩
    · exact ⟨hname, .inl rfl⟩

/-- What is shown of an address has no empty part if and only if the address is not hollow. -/
lemma whole_iff : (∀ shown ∈ a.display, a.Whole shown) ↔ ¬ a.Hollow := by
  refine ⟨fun hwhole h => ?_, fun h shown => whole_of_not_hollow h⟩
  obtain ⟨name, hname, -, hdisplay⟩ := h.display_eq
  obtain ⟨-, hsame | hsame | ⟨-, email, -, hemail, -, hne, -⟩⟩ := hwhole _ hdisplay
  · exact (append_brackets_ne name).1 (Option.some.inj (hsame.symm.trans hname))
  · exact (append_brackets_ne name).2 (Option.some.inj (hsame.symm.trans h.2))
  · exact hne (Option.some.inj (hemail.symm.trans h.2))

/-- What is shown of an address is not empty. -/
lemma display_ne_empty (a : Address) : a.display ≠ some "" := by
  intro hempty
  by_cases h : a.Hollow
  · obtain ⟨name, -, -, hdisplay⟩ := h.display_eq
    exact (append_brackets_ne name).2 (Option.some.inj (hdisplay.symm.trans hempty))
  · exact (whole_of_not_hollow h hempty).1 rfl

/-- Nothing is shown of an address if both of its parts are empty or absent. -/
lemma display_eq_none_iff :
    a.display = none ↔ nonEmpty a.name = none ∧ nonEmpty a.email = none := by
  obtain ⟨_ | name, _ | email⟩ := a
  · exact iff_of_true rfl ⟨rfl, rfl⟩
  · simp [display, nonEmpty]
  · simp [display, nonEmpty]
  · simp only [display, nonEmpty]
    split_ifs with htwo hemail hname <;> simp_all

/-- An address of which empty parts are gone is shown as before, unless it was hollow and no longer
is. Then its brackets are gone. -/
lemma Emptied.display (h : a'.Emptied a) :
    a'.Intact a ∧ a'.display = a.display ∨
      ¬ a'.Intact a ∧ ∃ name, a'.display = some name ∧ a.display = some (name ++ " <>") := by
  obtain ⟨name', email'⟩ := a'
  obtain ⟨name, email⟩ := a
  obtain ⟨hname, hemail⟩ := h
  rcases hemail with rfl | ⟨rfl : email = some "", rfl : email' = none⟩
  · -- The address is as it was, and an empty name is shown as an absent one.
    left
    refine ⟨fun ⟨h, hnone⟩ => ?_, ?_⟩
    · cases h.2.symm.trans hnone
    · rcases hname with rfl | ⟨rfl : name = some "", rfl : name' = none⟩
      · rfl
      · cases email' <;> simp [Address.display]
  · by_cases hhollow : (⟨name, some ""⟩ : Address).Hollow
    · right
      obtain ⟨shown, rfl : name = some shown, hne, hdisplay⟩ := hhollow.display_eq
      refine ⟨not_not_intro ⟨hhollow, rfl⟩, shown, ?_, hdisplay⟩
      obtain rfl : name' = some shown := hname.resolve_right fun h => hne (Option.some.inj h.1)
      exact if_pos hne
    · left
      refine ⟨fun h => hhollow h.1, ?_⟩
      have hempty : Text.nonEmpty name = none := by
        by_contra hname
        exact hhollow ⟨Option.isSome_iff_ne_none.2 hname, rfl⟩
      rw [display_eq_none_iff.2 ⟨hname.nonEmpty.trans hempty, rfl⟩,
        display_eq_none_iff.2 ⟨hempty, rfl⟩]

/-! ### Lists of addresses -/

variable {as as' : List Address}

/-- Texts of which none is longer than the one in its place are not longer when they are strung
together. -/
lemma length_intercalate_le (separator : String) {ts' ts : List String}
    (hlength : List.Forall₂ (fun t' t => t'.length ≤ t.length) ts' ts) :
    (separator.intercalate ts').length ≤ (separator.intercalate ts).length := by
  induction hlength with
  | nil => exact Nat.le_refl _
  | cons hhead htail ih =>
    cases htail with
    | nil => simpa using hhead
    | cons =>
      simp only [String.intercalate_cons_cons, String.length_append]
      omega

/-- They give the same text then only if they are the same. -/
lemma eq_of_intercalate_eq {separator : String} {ts' ts : List String}
    (hlength : List.Forall₂ (fun t' t => t'.length ≤ t.length) ts' ts)
    (h : separator.intercalate ts' = separator.intercalate ts) : ts' = ts := by
  induction hlength with
  | nil => rfl
  | @cons t' t ts' ts hhead htail ih =>
    cases htail with
    | nil => simpa using h
    | @cons u' u us' us hnext hothers =>
      have htails := length_intercalate_le separator (.cons hnext hothers)
      simp only [String.intercalate_cons_cons, String.append_assoc] at h
      have hsum := congrArg String.length h
      simp only [String.length_append] at hsum
      have hchars := congrArg String.toList h
      simp only [String.toList_append] at hchars
      have hsize : t'.toList.length = t.toList.length := by
        rw [String.length_toList, String.length_toList]
        omega
      obtain ⟨hfirst, hrest⟩ := List.append_inj hchars hsize
      have hothers := ih (String.toList_injective (List.append_cancel_left hrest))
      rw [String.toList_injective hfirst, hothers]

/-- What is shown of addresses of which empty parts are gone is nowhere longer than before, and it
is the same if and only if no hollow address was touched. -/
lemma shown_of_emptied (h : List.Forall₂ Emptied as' as) :
    List.Forall₂ (fun t' t : String => t'.length ≤ t.length) (as'.filterMap display)
        (as.filterMap display) ∧
      (as'.filterMap display = as.filterMap display ↔ List.Forall₂ Intact as' as) := by
  induction h with
  | nil => exact ⟨.nil, iff_of_true rfl .nil⟩
  | @cons a' a as' as ha has ih =>
    obtain ⟨hlength, hsame⟩ := ih
    rw [List.forall₂_cons]
    rcases ha.display with ⟨hintact, hdisplay⟩ | ⟨hintact, name, hdisplay', hdisplay⟩
    · rw [List.filterMap_cons, List.filterMap_cons, hdisplay]
      cases a.display with
      | none => exact ⟨hlength, by simp [hsame, hintact]⟩
      | some shown => exact ⟨.cons (Nat.le_refl _) hlength, by simp [hsame, hintact]⟩
    · rw [List.filterMap_cons_some hdisplay', List.filterMap_cons_some hdisplay]
      refine ⟨.cons (by simp) hlength, iff_of_false ?_ fun h => hintact h.1⟩
      intro h
      exact (append_brackets_ne name).1 (List.cons.inj h).1.symm

/-- A list of addresses of which empty parts are gone is shown as before if and only if no hollow
address was touched. -/
lemma displayList_eq_iff (h : List.Forall₂ Emptied as' as) :
    displayList as' = displayList as ↔ List.Forall₂ Intact as' as := by
  obtain ⟨hlength, hsame⟩ := shown_of_emptied h
  rw [← hsame, displayList, displayList]
  generalize as'.filterMap display = shown' at hlength ⊢
  generalize as.filterMap display = shown at hlength ⊢
  cases hlength with
  | nil => exact iff_of_true rfl rfl
  | cons hhead htail =>
    refine ⟨fun hlist => ?_, fun hshown => by rw [hshown]⟩
    exact eq_of_intercalate_eq (.cons hhead htail) (Option.some.inj hlist)

/-- What is shown of a list of addresses is not empty. -/
lemma displayList_ne_empty (as : List Address) : displayList as ≠ some "" := by
  unfold displayList
  split
  · nofun
  case h_2 hnil =>
    intro h
    obtain ⟨shown, others, hshown⟩ := List.exists_cons_of_ne_nil hnil
    have hmem : shown ∈ as.filterMap display := hshown ▸ List.mem_cons_self
    obtain ⟨a, -, ha⟩ := List.mem_filterMap.1 hmem
    have hne : shown ≠ "" := by
      rintro rfl
      exact a.display_ne_empty ha
    rw [hshown] at h
    cases others with
    | nil => simp [hne] at h
    | cons => simp [hne] at h

end Address

/-! ### The record of an item -/

variable {item item' : Item}

/-- What is shown of a sender is not empty. -/
lemma sender_ne_empty (sender : Option Address) : sender.bind Address.display ≠ some "" := by
  cases sender with
  | none => nofun
  | some sender => exact sender.display_ne_empty

/-- A sender of which empty parts are gone is shown as before if and only if it was not touched when
hollow. -/
lemma sender_eq_iff {sender' sender : Option Address}
    (h : Option.Rel Address.Emptied sender' sender) :
    sender'.bind Address.display = sender.bind Address.display ↔
      Option.Rel Address.Intact sender' sender := by
  cases h with
  | none => exact iff_of_true rfl .none
  | some h =>
    rw [Option.rel_some_some, Option.bind_some, Option.bind_some]
    rcases h.display with ⟨hintact, hdisplay⟩ | ⟨hintact, name, hdisplay', hdisplay⟩
    · exact iff_of_true hdisplay hintact
    · rw [hdisplay', hdisplay]
      exact iff_of_false (fun h => (append_brackets_ne name).1 (Option.some.inj h).symm) hintact

/-- The headers of an item of which empty texts are gone have the same values as before, where an
empty value is an absent one, if and only if no hollow address was touched. -/
lemma Item.Emptied.values_eq_iff (h : item'.Emptied item) (mailbox : String) (folder : FolderId) :
    (item'.lines mailbox folder).map (fun header => nonEmpty header.2) =
        (item.lines mailbox folder).map (fun header => nonEmpty header.2) ↔
      item'.Intact item := by
  have hsender := sender_eq_iff h.sender
  have hrecipients := Address.displayList_eq_iff h.recipients
  have hcopied := Address.displayList_eq_iff h.copied
  have hintact : item'.Intact item ↔ _ ∧ _ ∧ _ :=
    ⟨fun h => ⟨h.sender, h.recipients, h.copied⟩, fun ⟨hs, hr, hc⟩ => ⟨hs, hr, hc⟩⟩
  rw [hintact, ← hsender, ← hrecipients, ← hcopied]
  simp only [Item.lines, Item.dateLine, Item.headers, List.map_append, List.map_cons, h.id,
    h.changeKey.nonEmpty, h.subject.nonEmpty, h.sentAt, h.receivedAt, h.size, h.importance.nonEmpty,
    h.isRead, h.hasAttachments, h.messageId.nonEmpty, h.inReplyTo.nonEmpty, h.references.nonEmpty,
    h.conversationId.nonEmpty, nonEmpty_of_ne (sender_ne_empty _),
    nonEmpty_of_ne (Address.displayList_ne_empty _), List.append_left_inj, List.cons.injEq,
    true_and, and_true]

/-- An item of which empty texts are gone has the same record as before if and only if no hollow
address was touched.  No header of the record is empty, and of its addresses all but the hollow ones
are shown without empty parts. -/
theorem record_of_emptied (h : item'.Emptied item)
    (hyear : ∀ sent ∈ item.sentAt, sent.hasPlainYear = true) (mailbox : String)
    (folder : FolderId) :
    ∃ record, Record.ofItem? item mailbox folder = some record ∧
      (Record.ofItem? item' mailbox folder = some record ↔ item'.Intact item) ∧
      (∀ header ∈ record.headers, header.2 ≠ "") ∧
      record.get? "From" = item.sender.bind Address.display ∧
      record.get? "To" = Address.displayList item.recipients ∧
      record.get? "Cc" = Address.displayList item.copied ∧
      ∀ address ∈ item.addresses,
        (∀ shown ∈ address.display, address.Whole shown) ↔ ¬ address.Hollow := by
  have hnames := item.nodup_names mailbox folder
  have hreads : ∀ {name : String} {value : Option String},
      (name, value) ∈ item.headers mailbox folder → value ≠ some "" →
      (Record.ofHeaders (item.lines mailbox folder)).get? name = value := by
    intro name value hmem hvalue
    rw [Record.get?_ofHeaders hnames (List.mem_append_left _ hmem), nonEmpty_of_ne hvalue]
  refine ⟨_, Record.ofItem?_eq_some_iff.2 ⟨hyear, rfl⟩, ?_, Record.headers_ofHeaders_ne_empty _,
    ?_, ?_, ?_, fun _ _ => Address.whole_iff⟩
  · have hsame : (item'.lines mailbox folder).map Prod.fst =
        (item.lines mailbox folder).map Prod.fst := by
      simp only [Item.lines, Item.dateLine, Item.headers, h.sentAt, List.map_append, List.map_cons]
    rw [Record.ofItem?_eq_some_iff, h.sentAt, and_iff_right hyear,
      Record.ofHeaders_eq_iff hsame hnames, h.values_eq_iff]
  · exact hreads (by simp [Item.headers]) (sender_ne_empty _)
  · exact hreads (by simp [Item.headers]) (Address.displayList_ne_empty _)
  · exact hreads (by simp [Item.headers]) (Address.displayList_ne_empty _)

/-- A letter with empty texts. -/
def letter : Item where
  id := ⟨"i"⟩
  subject := some ""
  sender := some ⟨some "", some "ann@example.org"⟩
  recipients := [⟨some "Bob", some "bob@example.org"⟩, ⟨some "", some ""⟩]
  sentAt := some .epoch
  messageId := some ""

/-- The letter without them. -/
def tidyLetter : Item :=
  { letter with
    subject := none
    sender := some ⟨none, some "ann@example.org"⟩
    recipients := [⟨some "Bob", some "bob@example.org"⟩, ⟨none, none⟩]
    messageId := none }

/-- The two have the same record, without an empty header. -/
theorem record_of_emptied_letter :
    ∃ record, Record.ofItem? letter "m" .default = some record ∧
      Record.ofItem? tidyLetter "m" .default = some record ∧
      (∀ header ∈ record.headers, header.2 ≠ "") ∧
      record.get? "To" = some "Bob <bob@example.org>" := by
  have hemptied : tidyLetter.Emptied letter :=
    { id := rfl, changeKey := by decide, subject := by decide
      sender := .some ⟨by decide, by decide⟩
      recipients := .cons ⟨by decide, by decide⟩ (.cons ⟨by decide, by decide⟩ .nil)
      copied := .nil, sentAt := rfl, receivedAt := rfl, size := rfl, importance := by decide
      isRead := rfl, hasAttachments := rfl, messageId := by decide, inReplyTo := by decide
      references := by decide, conversationId := by decide }
  have hintact : tidyLetter.Intact letter :=
    ⟨.some (by decide), .cons (by decide) (.cons (by decide) .nil), .nil⟩
  have hyear : ∀ sent ∈ letter.sentAt, sent.hasPlainYear = true := by decide
  obtain ⟨record, hrecord, hsame, hvalues, -, hto, -⟩ :=
    record_of_emptied hemptied hyear "m" .default
  exact ⟨record, hrecord, hsame.2 hintact, hvalues, hto.trans (by decide)⟩

/-- A letter from someone whose address is empty. -/
def hollowLetter : Item where
  id := ⟨"i"⟩
  sender := some ⟨some "Bob", some ""⟩

/-- The empty address is shown, and once it is gone it is not. -/
theorem empty_brackets_are_shown :
    Item.Emptied { hollowLetter with sender := some ⟨some "Bob", none⟩ } hollowLetter ∧
      (Record.ofItem? hollowLetter "m" .default).bind (·.get? "From") = some "Bob <>" ∧
      (Record.ofItem? { hollowLetter with sender := some ⟨some "Bob", none⟩ } "m"
        .default).bind (·.get? "From") = some "Bob" := by
  refine ⟨?_, by decide, by decide⟩
  exact
    { id := rfl, changeKey := .inl rfl, subject := .inl rfl
      sender := .some ⟨.inl rfl, .inr ⟨rfl, rfl⟩⟩
      recipients := .nil, copied := .nil, sentAt := rfl, receivedAt := rfl, size := rfl
      importance := .inl rfl, isRead := rfl, hasAttachments := rfl, messageId := .inl rfl
      inReplyTo := .inl rfl, references := .inl rfl, conversationId := .inl rfl }

end MailCollector.Mail
