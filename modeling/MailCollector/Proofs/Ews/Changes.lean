import MailCollector.Proofs.Ews.Replies
import Mathlib.Data.List.Forall2

/-!
# The changes that a page of ids leaves out

A page of changes is read from the creations and updates among them.  A change that names no item is
skipped; one that names an item without its id condemns the whole answer.  So the page has an id for
each creation and update if and only if each of them names its item (`readChanges_names`).  The
token of the page stands for all changes, those that were skipped included
(`unnamed_change_is_skipped`).
-/

namespace MailCollector.Ews

open MailCollector.Mail MailCollector.Xml

/-! ### Changes and the items that they name -/

/-- The answer is no error, and it has this response message about changes and this new state. -/
def Tells (body : String) (message : Element) (state : String) : Prop :=
  ∃ document, readChecked body = .ok document ∧
    soleMessage document "SyncFolderItemsResponseMessage" = .ok message ∧
    message.childText? "SyncState" = some state

/-- The changes in a response message. -/
def changesIn (message : Element) : List Element :=
  ((message.child? "Changes").map Element.children).getD []

/-- The creations and updates among them. -/
def brought (message : Element) : List Element := (changesIn message).filter bringsItem

/-- Whether a change refers to an item. -/
def refersToItem (change : Element) : Bool := (change.descendant? "ItemId").isSome

/-- The change refers to an item and gives its id. -/
def Names (change : Element) (id : ItemId) : Prop :=
  ∃ reference, change.descendant? "ItemId" = some reference ∧
    reference.attribute? "Id" = some id.text

/-- Each reference to an item that a change makes has an id. -/
def Identified (change : Element) : Prop :=
  ∀ reference, change.descendant? "ItemId" = some reference →
    (reference.attribute? "Id").isSome

/-- The fault of a reference that has no id. -/
def unidentified : ServiceFault := .protocol "ItemId without Id"

lemma idOf_eq_ok {reference : Element} {id : ItemId} :
    idOf reference = .ok id ↔ reference.attribute? "Id" = some id.text := by
  rw [idOf, required_eq_ok, Option.map_eq_some_iff]
  constructor
  · rintro ⟨text, htext, rfl⟩
    exact htext
  · exact fun htext => ⟨id.text, htext, rfl⟩

lemma idOf_eq_error {reference : Element} (h : reference.attribute? "Id" = none) :
    idOf reference = .error unidentified := by
  rw [idOf, h]
  rfl

/-- A change that refers to no item is skipped. -/
lemma filterMap_descendant_none {change : Element} (h : change.descendant? "ItemId" = none)
    (changes : List Element) :
    (change :: changes).filterMap (Element.descendant? "ItemId") =
        changes.filterMap (Element.descendant? "ItemId") ∧
      (change :: changes).filter refersToItem = changes.filter refersToItem ∧
      Identified change := by
  refine ⟨List.filterMap_cons_none h, List.filter_cons_of_neg (by simp [refersToItem, h]), ?_⟩
  intro reference hreference
  rw [h] at hreference
  cases hreference

/-- Either each change that refers to an item gives its id, and these are the ids, or the fault is
that one of them does not. -/
lemma ids_of_changes (changes : List Element) :
    ((∀ change ∈ changes, Identified change) ∧
      ∃ ids, (changes.filterMap (Element.descendant? "ItemId")).mapM idOf = .ok ids ∧
        List.Forall₂ Names (changes.filter refersToItem) ids) ∨
    (∃ change ∈ changes, ¬ Identified change) ∧
      (changes.filterMap (Element.descendant? "ItemId")).mapM idOf = .error unidentified := by
  induction changes with
  | nil => exact .inl ⟨by simp, [], rfl, .nil⟩
  | cons change changes ih =>
    cases hreference : change.descendant? "ItemId" with
    | none =>
      obtain ⟨hskip, hfilter, hidentified⟩ := filterMap_descendant_none hreference changes
      rw [hskip, hfilter]
      rcases ih with ⟨hall, hids⟩ | ⟨⟨bad, hbad, hunidentified⟩, herror⟩
      · exact .inl ⟨List.forall_mem_cons.2 ⟨hidentified, hall⟩, hids⟩
      · exact .inr ⟨⟨bad, List.mem_cons_of_mem _ hbad, hunidentified⟩, herror⟩
    | some reference =>
      rw [List.filterMap_cons_some hreference, List.mapM_cons,
        List.filter_cons_of_pos (by simp [refersToItem, hreference])]
      cases hid : reference.attribute? "Id" with
      | none =>
        refine .inr ⟨⟨change, List.mem_cons_self, fun hidentified => ?_⟩, ?_⟩
        · simpa [hid] using hidentified reference hreference
        · rw [idOf_eq_error hid]
          rfl
      | some text =>
        have hidentified : Identified change := by
          intro reference' hreference'
          cases hreference.symm.trans hreference'
          rw [hid]
          rfl
        have hread : idOf reference = .ok ⟨text⟩ := idOf_eq_ok.2 hid
        rw [hread]
        rcases ih with ⟨hall, ids, hids, hnames⟩ | ⟨⟨bad, hbad, hunidentified⟩, herror⟩
        · refine .inl ⟨List.forall_mem_cons.2 ⟨hidentified, hall⟩, ⟨text⟩ :: ids, ?_,
            .cons ⟨reference, hreference, hid⟩ hnames⟩
          rw [hids]
          rfl
        · refine .inr ⟨⟨bad, List.mem_cons_of_mem _ hbad, hunidentified⟩, ?_⟩
          rw [herror]
          rfl

/-- Each of some changes names an item if and only if none of them is skipped. -/
lemma forall₂_names_iff {changes : List Element} {ids : List ItemId}
    (h : List.Forall₂ Names (changes.filter refersToItem) ids) :
    List.Forall₂ Names changes ids ↔ ∀ change ∈ changes, refersToItem change = true := by
  constructor
  · intro hall
    exact List.length_filter_eq_length_iff.1 (h.length_eq.trans hall.length_eq.symm)
  · intro hall
    rwa [List.filter_eq_self.2 hall] at h

/-! ### The main result -/

/-- What an answer about changes is read to, once its parts are found. -/
lemma readChanges_of_tells {body : String} {message : Element} {state : String}
    (h : Tells body message state) :
    readChanges body =
      (((brought message).filterMap (Element.descendant? "ItemId")).mapM idOf).map fun ids =>
        { ids := ids
          token := some state
          saysLast := (readFlag (message.childText? "IncludesLastItemInRange")).getD false
          entriesReturned := (changesIn message).length } := by
  obtain ⟨document, hdocument, hmessage, hstate⟩ := h
  rw [readChanges, hdocument]
  change soleMessage document _ >>= _ = _
  rw [hmessage]
  change required _ (message.childText? "SyncState") >>= _ = _
  rw [hstate]
  change ((brought message).filterMap (Element.descendant? "ItemId")).mapM idOf >>= _ = _
  cases ((brought message).filterMap (Element.descendant? "ItemId")).mapM idOf <;> rfl

/-- An answer about changes that is read has its parts. -/
lemma tells_of_readChanges {body : String} {page : IdPage} (h : readChanges body = .ok page) :
    ∃ message state, Tells body message state := by
  obtain ⟨document, hdocument, h⟩ := ok_of_bind h
  obtain ⟨message, hmessage, h⟩ := ok_of_bind h
  obtain ⟨state, hstate, -⟩ := ok_of_bind h
  exact ⟨message, state, document, hdocument, hmessage, required_eq_ok.1 hstate⟩

/-- The token and the ids of a page of changes. -/
lemma page_of_tells {body : String} {message : Element} {state : String} {page : IdPage}
    (h : Tells body message state) (hpage : readChanges body = .ok page) :
    page.token = some state ∧
      List.Forall₂ Names ((brought message).filter refersToItem) page.ids := by
  rw [readChanges_of_tells h] at hpage
  rcases ids_of_changes (brought message) with ⟨-, ids, hids, hnames⟩ | ⟨-, herror⟩
  · rw [hids] at hpage
    cases hpage
    exact ⟨rfl, hnames⟩
  · rw [herror] at hpage
    cases hpage

/-- The ids of a page of changes.  If an answer is read as a page, the page has the token of the
answer, and its ids are those of the creations and updates that refer to an item, in order; so each
creation and update has its id on the page if and only if all of them refer to an item.  An answer
is read as a page if and only if each item that they refer to has an id, and otherwise it is not of
the expected form. -/
theorem readChanges_names (body : String) :
    (∀ page, readChanges body = .ok page → ∃ message state, Tells body message state ∧
      page.token = some state ∧
      List.Forall₂ Names ((brought message).filter refersToItem) page.ids ∧
      (List.Forall₂ Names (brought message) page.ids ↔
        ∀ change ∈ brought message, refersToItem change = true)) ∧
    ∀ message state, Tells body message state →
      ((∃ page, readChanges body = .ok page) ↔ ∀ change ∈ brought message, Identified change) ∧
      ((∃ change ∈ brought message, ¬ Identified change) →
        readChanges body = .error (.protocol "ItemId without Id")) := by
  constructor
  · intro page hpage
    obtain ⟨message, state, htells⟩ := tells_of_readChanges hpage
    obtain ⟨htoken, hnames⟩ := page_of_tells htells hpage
    exact ⟨message, state, htells, htoken, hnames, forall₂_names_iff hnames⟩
  · intro message state htells
    rw [readChanges_of_tells htells]
    rcases ids_of_changes (brought message) with
      ⟨hall, ids, hids, -⟩ | ⟨⟨bad, hbad, hbroken⟩, herror⟩
    · rw [hids]
      refine ⟨iff_of_true ⟨_, rfl⟩ hall, ?_⟩
      rintro ⟨bad, hbad, hbroken⟩
      exact absurd (hall bad hbad) hbroken
    · rw [herror]
      refine ⟨iff_of_false ?_ fun hall => hbroken (hall bad hbad), fun _ => rfl⟩
      rintro ⟨page, hpage⟩
      cases hpage

/-- An answer about one change, a creation of this. -/
def creationOf (item : String) : String :=
  "<r><SyncFolderItemsResponseMessage><SyncState>s</SyncState><Changes><Create>" ++ item ++
    "</Create></Changes></SyncFolderItemsResponseMessage></r>"

/-- A page with the item of the only change. -/
theorem readChanges_names_sample :
    ∃ page message, readChanges (creationOf "<Message><ItemId Id=\"i\"/></Message>") = .ok page ∧
      page.ids = [⟨"i"⟩] ∧ page.token = some "s" ∧
      List.Forall₂ Names ((brought message).filter refersToItem) page.ids := by
  have hread : readChanges (creationOf "<Message><ItemId Id=\"i\"/></Message>") =
      .ok { ids := [⟨"i"⟩], token := some "s", entriesReturned := 1 } := by
    have hchars : (creationOf "<Message><ItemId Id=\"i\"/></Message>").toList = _ :=
      toList_append_of (toList_append_of String.toList_ofList String.toList_ofList)
        String.toList_ofList
    rw [readChanges, readChecked, parse_eq_parseChars, hchars]
    set_option maxRecDepth 2000 in
    decide
  obtain ⟨message, state, -, -, hnames, -⟩ := (readChanges_names _).1 _ hread
  exact ⟨_, message, hread, rfl, rfl, hnames⟩

/-- The created item is not on the page, and the token of the page goes past it. -/
theorem unnamed_change_is_skipped :
    ∃ page message state, readChanges (creationOf "<Message/>") = .ok page ∧
      Tells (creationOf "<Message/>") message state ∧ page.token = some state ∧
      (brought message).length = 1 ∧ page.ids = [] ∧
      ¬ List.Forall₂ Names (brought message) page.ids := by
  have hchars : (creationOf "<Message/>").toList = _ :=
    toList_append_of (toList_append_of String.toList_ofList String.toList_ofList)
      String.toList_ofList
  have hread : readChanges (creationOf "<Message/>") =
      .ok { ids := [], token := some "s", entriesReturned := 1 } := by
    rw [readChanges, readChecked, parse_eq_parseChars, hchars]
    set_option maxRecDepth 2000 in
    decide
  have hchecked : (readChecked (creationOf "<Message/>") >>= fun document =>
      soleMessage document "SyncFolderItemsResponseMessage").toOption.map
        (fun message => (brought message).length) = some 1 := by
    rw [readChecked, parse_eq_parseChars, hchars]
    set_option maxRecDepth 2000 in
    decide
  obtain ⟨message, state, htells⟩ := tells_of_readChanges hread
  have htoken : some "s" = some state := (page_of_tells htells hread).1
  have hlength : (brought message).length = 1 := by
    obtain ⟨document, hdocument, hmessage, -⟩ := htells
    rw [hdocument] at hchecked
    change (soleMessage document _).toOption.map _ = _ at hchecked
    rw [hmessage] at hchecked
    exact Option.some.inj hchecked
  refine ⟨_, message, state, hread, htells, htoken, hlength, rfl, fun hnames => ?_⟩
  have hequal := hnames.length_eq
  rw [hlength] at hequal
  cases hequal

end MailCollector.Ews
