import MailCollector.Proofs.Crawl.Batching
import MailCollector.Proofs.Ews.Changes
import MailCollector.Proofs.Ews.Outcomes
import MailCollector.Proofs.Ews.Readings

/-!
# Answers about batches

An answer about a batch of items is all or nothing.  It is read if and only if each of its response
messages says that its item is gone or gives an item with an id (`Usable`), and then the messages of
the second kind bring one item each.  Otherwise it is the error of the first message that does
neither (`Condemns`), whatever the others hold (`answeredItems_eq_error`).  A crawl of a page over a
client delivers nothing of a batch with such an answer, but everything of the batches before it
(`batches_all_or_nothing`).
-/

namespace MailCollector.Ews

open MailCollector.Crawl MailCollector.Mail MailCollector.Xml

variable {σ : Type}

/-! ### Response messages -/

/-- The id that a response message gives of its item. -/
def namedId? (message : Element) : Option String :=
  ((itemElement? message).bind (·.child? "ItemId")).bind (·.attribute? "Id")

/-- A response message that gives an item with an id. -/
def IsNamed (message : Element) : Prop :=
  message.attribute? "ResponseClass" ≠ some "Error" ∧ (namedId? message).isSome

instance : DecidablePred IsNamed := fun _ => inferInstanceAs (Decidable (_ ∧ _))

/-- A response message that does not stand in the way of the others: its item is gone, or there it
is. -/
def Usable (message : Element) : Prop := IsGone message ∨ IsNamed message

instance : DecidablePred Usable := fun _ => inferInstanceAs (Decidable (_ ∨ _))

/-- What is wrong with a response message that is not usable. -/
inductive Condemns (message : Element) : ServiceFault → Prop
  | refused (error : message.attribute? "ResponseClass" = some "Error")
      (code : message.childText? "ResponseCode" ≠ some goneCode) :
      Condemns message (.ofResponseCode
        ((message.childText? "ResponseCode").getD "ErrorUnknown")
        ((message.childText? "MessageText").getD ""))
  | itemless (answered : message.attribute? "ResponseClass" ≠ some "Error")
      (item : itemElement? message = none) :
      Condemns message (.protocol "GetItem response message without item")
  | nameless (answered : message.attribute? "ResponseClass" ≠ some "Error") {element : Element}
      (item : itemElement? message = some element) (reference : element.child? "ItemId" = none) :
      Condemns message (.protocol "item without ItemId")
  | idless (answered : message.attribute? "ResponseClass" ≠ some "Error")
      {element reference : Element} (item : itemElement? message = some element)
      (named : element.child? "ItemId" = some reference) (id : reference.attribute? "Id" = none) :
      Condemns message (.protocol "ItemId without Id")

/-- A message of an error is an error of the kind that its code asks for, and any other message has
a gap. -/
lemma Condemns.kind {message : Element} {fault : ServiceFault} (h : Condemns message fault) :
    message.attribute? "ResponseClass" = some "Error" ∧
        Classified ((message.childText? "ResponseCode").getD "ErrorUnknown") fault ∨
      message.attribute? "ResponseClass" ≠ some "Error" ∧ ∃ gap, fault = .protocol gap := by
  cases h with
  | refused error code => exact .inl ⟨error, classified_ofResponseCode _ _⟩
  | itemless answered => exact .inr ⟨answered, _, rfl⟩
  | nameless answered => exact .inr ⟨answered, _, rfl⟩
  | idless answered => exact .inr ⟨answered, _, rfl⟩

/-- An item with an id is read, whatever else is told about it. -/
lemma itemOf_of_id {element reference : Element} {id : String}
    (hreference : element.child? "ItemId" = some reference)
    (hid : reference.attribute? "Id" = some id) : ∃ item, itemOf element = .ok item := by
  have hread : idOf reference = .ok ⟨id⟩ := idOf_eq_ok.2 hid
  unfold itemOf
  rw [hreference]
  change ∃ item, idOf reference >>= _ = .ok item
  rw [hread]
  exact ⟨_, rfl⟩

/-- An item without an id is not read. -/
lemma itemOf_eq_error {element reference : Element}
    (hreference : element.child? "ItemId" = some reference)
    (hid : reference.attribute? "Id" = none) :
    itemOf element = .error (.protocol "ItemId without Id") := by
  unfold itemOf
  rw [hreference]
  change idOf reference >>= _ = _
  rw [idOf_eq_error hid]
  rfl

/-- A response message that gives an item with an id is read as this item. -/
lemma answeredItem_of_isNamed {message : Element} (h : IsNamed message) :
    ∃ item, answeredItem message = .ok (some item) := by
  obtain ⟨hclass, hnamed⟩ := h
  obtain ⟨id, hnamed⟩ := Option.isSome_iff_exists.1 hnamed
  obtain ⟨reference, hitem, hid⟩ := Option.bind_eq_some_iff.1 hnamed
  obtain ⟨element, hitem, hreference⟩ := Option.bind_eq_some_iff.1 hitem
  obtain ⟨item, hread⟩ := itemOf_of_id hreference hid
  exact ⟨item, answeredItem_eq_ok.2 ⟨hclass, element, hitem, hread⟩⟩

/-- A response message that is not usable is read as what is wrong with it. -/
lemma answeredItem_of_not_usable {message : Element} (h : ¬ Usable message) :
    ∃ fault, Condemns message fault ∧ answeredItem message = .error fault := by
  obtain ⟨hgone, hnamed⟩ := not_or.1 h
  unfold answeredItem messageError?
  by_cases hclass : message.attribute? "ResponseClass" = some "Error"
  · have hcode : message.childText? "ResponseCode" ≠ some goneCode := fun hcode =>
      hgone ⟨hclass, hcode⟩
    rw [if_pos hclass]
    exact ⟨_, .refused hclass hcode, if_neg hcode⟩
  · have hnone : namedId? message = none := by
      by_contra hsome
      exact hnamed ⟨hclass, Option.isSome_iff_ne_none.2 hsome⟩
    rw [if_neg hclass]
    cases hitem : itemElement? message with
    | none => exact ⟨_, .itemless hclass hitem, rfl⟩
    | some element =>
      rw [namedId?, hitem, Option.bind_some] at hnone
      cases hreference : element.child? "ItemId" with
      | none =>
        refine ⟨_, .nameless hclass hitem hreference, ?_⟩
        change (itemOf element).map some = _
        unfold itemOf
        rw [hreference]
        rfl
      | some reference =>
        rw [hreference, Option.bind_some] at hnone
        refine ⟨_, .idless hclass hitem hreference hnone, ?_⟩
        change (itemOf element).map some = _
        rw [itemOf_eq_error hreference hnone]
        rfl

/-- A response message is read if and only if it is usable. -/
lemma usable_iff_answers {message : Element} : Usable message ↔ ∃ answer, Answers message answer := by
  constructor
  · rintro (hgone | hnamed)
    · exact ⟨none, hgone⟩
    · obtain ⟨item, hread⟩ := answeredItem_of_isNamed hnamed
      exact ⟨some item, answeredItem_eq_ok.1 hread⟩
  · rintro ⟨answer, hanswer⟩
    by_contra hflawed
    obtain ⟨fault, -, hread⟩ := answeredItem_of_not_usable hflawed
    cases hread.symm.trans (answeredItem_eq_ok.2 hanswer)

/-! ### Lists of response messages -/

/-- The messages that give an item with an id bring the items, one each. -/
lemma forall₂_named {messages : List Element} {answers : List (Option Item)}
    (h : List.Forall₂ Answers messages answers) :
    List.Forall₂ (fun message item => Answers message (some item))
      (messages.filter (IsNamed ·)) answers.reduceOption := by
  induction h with
  | nil => exact .nil
  | @cons message answer messages answers hanswer _ ih =>
    cases answer with
    | none =>
      have hgone : IsGone message := hanswer
      have hunnamed : ¬ IsNamed message := fun hnamed => hnamed.1 hgone.1
      rw [List.filter_cons_of_neg (by simpa using hunnamed), List.reduceOption_cons_of_none]
      exact ih
    | some item =>
      have hnamed : IsNamed message :=
        (usable_iff_answers.2 ⟨_, hanswer⟩).resolve_left fun hgone => hanswer.1 hgone.1
      rw [List.filter_cons_of_pos (by simpa using hnamed), List.reduceOption_cons_of_some]
      exact .cons hanswer ih

/-- Response messages that are not read are the error of the first one that is not usable. -/
lemma answeredItems_eq_error {messages : List Element} {fault : ServiceFault}
    (h : answeredItems messages = .error fault) :
    ∃ before message after, messages = before ++ message :: after ∧
      (∀ other ∈ before, Usable other) ∧ ¬ Usable message ∧ Condemns message fault := by
  induction messages with
  | nil => cases h
  | cons message messages ih =>
    by_cases husable : Usable message
    · obtain ⟨answer, hanswer⟩ := usable_iff_answers.1 husable
      have hothers : answeredItems messages = .error fault := by
        rw [answeredItems, answeredItem_eq_ok.2 hanswer] at h
        cases hread : answeredItems messages with
        | ok items =>
          rw [hread] at h
          cases h
        | error other =>
          rw [hread] at h
          cases h
          rfl
      obtain ⟨before, first, after, rfl, hbefore, hfirst⟩ := ih hothers
      exact ⟨message :: before, first, after, rfl,
        List.forall_mem_cons.2 ⟨husable, hbefore⟩, hfirst⟩
    · obtain ⟨reason, hreason, hread⟩ := answeredItem_of_not_usable husable
      rw [answeredItems, hread] at h
      cases h
      exact ⟨[], message, messages, rfl, List.forall_mem_nil _, husable, hreason⟩

/-- Response messages are read if and only if all of them are usable. -/
lemma exists_answeredItems_iff {messages : List Element} :
    (∃ items, answeredItems messages = .ok items) ↔ ∀ message ∈ messages, Usable message := by
  constructor
  · rintro ⟨items, hitems⟩
    obtain ⟨answers, hanswers, -⟩ := answeredItems_eq_ok.1 hitems
    clear hitems
    induction hanswers with
    | nil => exact List.forall_mem_nil _
    | cons hanswer _ ih =>
      exact List.forall_mem_cons.2 ⟨usable_iff_answers.2 ⟨_, hanswer⟩, ih⟩
  · intro hall
    cases hread : answeredItems messages with
    | ok items => exact ⟨items, rfl⟩
    | error fault =>
      obtain ⟨before, message, after, rfl, -, hflawed, -⟩ := answeredItems_eq_error hread
      exact absurd (hall message (by simp)) hflawed

/-! ### Clients -/

/-- What comes of a call for items is what is read of the answer that is heard. -/
lemma fetchItems_of_hears {c : Client} {t : Http.Transport (StateM σ)} {mailbox : String}
    {ids : List ItemId} {s : σ} {document : Element} (hids : ids ≠ [])
    (h : c.Hears t mailbox (.items ids) s document) (hmessages : HasMessages document) :
    (((c.service t).fetchItems mailbox ids s).1).1 =
      (answeredItems (messagesIn document)).mapError .ofFault := by
  obtain ⟨id, others, rfl⟩ := List.exists_cons_of_ne_nil hids
  obtain ⟨reply, body, hpost, hlow, hhigh, htext, hdocument⟩ := h
  have hread : readItems body = answeredItems (messagesIn document) := by
    rw [readItems_of_checked hdocument, itemMessages_eq hmessages]
    rfl
  rw [← hread]
  exact ask_of_reply hpost hlow hhigh htext

/-- A call for items in a world with a client is answered by the client. -/
def AnsweredBy (c : Client) (t : Http.Transport (StateM σ)) : Event → Prop
  | ⟨.fetchItems mailbox ids, reply⟩ =>
    ∃ s, reply = (((c.service t).fetchItems mailbox ids s).1).1
  | _ => True

lemma Client.world_answeredBy (c : Client) (t : Http.Transport (StateM σ)) (others : World σ)
    (call : Call) (s : σ) : AnsweredBy c t ⟨call, ((c.world t others).answer call s).1⟩ := by
  cases call with
  | fetchItems mailbox ids => exact ⟨s, rfl⟩
  | _ => trivial

/-- The calls for items that a program makes are answered by the client. -/
lemma answered_of_mem_fetches {α : Type} (c : Client) (t : Http.Transport (StateM σ))
    (others : World σ) (p : Program α) (s : σ) {f : Fetch}
    (hf : f ∈ fetches (p.trace (c.world t others) s)) :
    ∃ s', f.reply = (((c.service t).fetchItems f.mailbox f.ids s').1).1 := by
  obtain ⟨e, he, hfetch⟩ := List.mem_filterMap.1 hf
  have hanswered : AnsweredBy c t e :=
    Program.forall_mem_trace _ (c.world_answeredBy t others) p s e he
  unfold fetch? at hfetch
  split at hfetch
  · cases hfetch
    exact hanswered
  · cases hfetch

/-! ### The main result -/

/-- An answer about a batch is read if and only if all its response messages are usable, and then it
brings one item for each message that gives an item with an id, in order.  Otherwise it is the error
of the first message that is not usable.  In a crawl of a page over a client, a call with such an
answer fails.  After a call that has failed, no call is made, and the pulls have said the records of
the calls before it, then the failure, and then nothing but the end. -/
theorem batches_all_or_nothing (c : Client) (t : Http.Transport (StateM σ)) (others : World σ)
    (config : Config) (mailbox : String) (folder : FolderId) (ids : List ItemId) (s : σ) :
    (∀ body document, Xml.parse body = .ok document → ¬ HasFault document →
      messagesIn document ≠ [] →
      ((∃ items, readItems body = .ok items) ↔ ∀ message ∈ messagesIn document, Usable message) ∧
      (∀ items, readItems body = .ok items →
        List.Forall₂ (fun message item => Answers message (some item))
          ((messagesIn document).filter (IsNamed ·)) items) ∧
      ((∃ message ∈ messagesIn document, ¬ Usable message) →
        ∃ before message after fault, messagesIn document = before ++ message :: after ∧
          (∀ other ∈ before, Usable other) ∧ ¬ Usable message ∧ Condemns message fault ∧
          (message.attribute? "ResponseClass" = some "Error" ∧
              Classified ((message.childText? "ResponseCode").getD "ErrorUnknown") fault ∨
            message.attribute? "ResponseClass" ≠ some "Error" ∧ ∃ gap, fault = .protocol gap) ∧
          readItems body = .error fault)) ∧
    ∀ count,
      let pulls := PageCrawl.pulls config count (PageCrawl.start mailbox folder ids)
      let calls := fetches (pulls.trace (c.world t others) s)
      (∀ f ∈ calls, ∃ s', f.reply = (((c.service t).fetchItems mailbox f.ids s').1).1 ∧
        ∀ document, c.Hears t mailbox (.items f.ids) s' document →
          (∃ message ∈ messagesIn document, ¬ Usable message) → f.succeeds = false) ∧
      ∀ earlier f later, calls = earlier ++ f :: later → f.succeeds = false →
        later = [] ∧ (∀ e ∈ earlier, e.succeeds = true) ∧
        ∃ (records : List Record) (failure : Failure) (rest : ℕ) (final : PageCrawl),
          earlier.flatMap (·.yields folder) = records.map .ok ∧
          f.yields folder = [.error failure] ∧
          (pulls.run (c.world t others) s).1 =
            .ok (records.map (fun record => some (some (.ok record))) ++
              some (some (.error failure)) :: List.replicate rest (some none), final) := by
  constructor
  · intro body document hparse hfaultless hmessages
    have hdocument : readChecked body = .ok document :=
      readChecked_eq_ok.2 ⟨hparse, soapFault?_eq_none hfaultless⟩
    have hread : readItems body = answeredItems (messagesIn document) := by
      rw [readItems_of_checked hdocument, itemMessages_eq (.inl hmessages)]
      rfl
    rw [hread]
    refine ⟨exists_answeredItems_iff, fun items hitems => ?_, ?_⟩
    · obtain ⟨answers, hanswers, rfl⟩ := answeredItems_eq_ok.1 hitems
      exact forall₂_named hanswers
    · rintro ⟨bad, hbad, hflawed⟩
      cases hresult : answeredItems (messagesIn document) with
      | ok items => exact absurd (exists_answeredItems_iff.1 ⟨items, hresult⟩ bad hbad) hflawed
      | error fault =>
        obtain ⟨before, message, after, hsplit, hbefore, hfirst, hcondemns⟩ :=
          answeredItems_eq_error hresult
        exact ⟨before, message, after, fault, hsplit, hbefore, hfirst, hcondemns,
          hcondemns.kind, rfl⟩
  · intro count pulls calls
    refine ⟨fun f hf => ?_, fun earlier f later hcalls hfails =>
      PageCrawl.pulls_of_failure hfails hcalls⟩
    have hpieces := PageCrawl.pulls_fetchesPieces config mailbox folder ids (c.world t others) s count
    obtain ⟨s', hreply⟩ := answered_of_mem_fetches c t others pulls s hf
    rw [hpieces.mailbox f hf] at hreply
    refine ⟨s', hreply, fun document hhears ⟨bad, hbad, hflawed⟩ => ?_⟩
    have hids : f.ids ≠ [] :=
      ne_nil_of_mem_pieces (hpieces.ids.subset (List.mem_map_of_mem hf))
    have hmessages : HasMessages document := .inl (List.ne_nil_of_mem hbad)
    rw [fetchItems_of_hears hids hhears hmessages] at hreply
    cases hresult : answeredItems (messagesIn document) with
    | ok items => exact absurd (exists_answeredItems_iff.1 ⟨items, hresult⟩ bad hbad) hflawed
    | error fault =>
      rw [hresult] at hreply
      rw [Fetch.succeeds, hreply]
      rfl

/-- An answer about two items, of which the second one cannot be given. -/
def mixedAnswer : String :=
  "<r><GetItemResponseMessage><Items><Message><ItemId Id=\"i\"/></Message></Items>" ++
    "</GetItemResponseMessage><GetItemResponseMessage ResponseClass=\"Error\"/></r>"

/-- Pulls from a page of two items over the sample client, each of them a batch.  The answer to the
first call is about one item, the answer to the second is the mixed one. -/
def mixedPulls : Program (List (Option (Option (Except Failure Record))) × PageCrawl) :=
  PageCrawl.pulls (Config.ofRequested 1 1) 3 (PageCrawl.start "m" .default [⟨"i"⟩, ⟨"j"⟩])

/-- The mixed answer is an error, and the record of the first batch is delivered all the same. -/
theorem batches_all_or_nothing_sample :
    (∃ fault, readItems mixedAnswer = .error fault) ∧
      ∃ (record : Record) (failure : Failure) (rest : ℕ) (final : PageCrawl),
        (mixedPulls.run (sampleClient.world inTurn (sameWorld Roster.sampleWorld))
          [singleAnswer, mixedAnswer]).1 =
            .ok (some (some (.ok record)) :: some (some (.error failure)) ::
              List.replicate rest (some none), final) := by
  obtain ⟨hread, hpulls⟩ := batches_all_or_nothing sampleClient inTurn
    (sameWorld Roster.sampleWorld) (Config.ofRequested 1 1) "m" .default [⟨"i"⟩, ⟨"j"⟩]
    [singleAnswer, mixedAnswer]
  have hmixed : ∃ fault, readItems mixedAnswer = .error fault := by
    have hparts : (Xml.parse mixedAnswer).toOption.map (fun document =>
        ((document.descendant? "Fault").isSome,
          (messagesIn document).map (fun message => decide (Usable message)))) =
            some (false, [true, false]) := by
      have hchars : mixedAnswer.toList = _ :=
        toList_append_of String.toList_ofList String.toList_ofList
      rw [parse_eq_parseChars, hchars]
      set_option maxRecDepth 2000 in
      decide
    cases hdocument : Xml.parse mixedAnswer with
    | error fault =>
      rw [hdocument] at hparts
      cases hparts
    | ok document =>
      rw [hdocument] at hparts
      obtain ⟨hfaultless, hmessages⟩ := Prod.mk.inj (Option.some.inj hparts)
      have hnone : document.descendant? "Fault" = none := by
        rwa [← Option.not_isSome_iff_eq_none, Bool.not_eq_true]
      have hmem : false ∈ (messagesIn document).map fun message => decide (Usable message) := by
        rw [hmessages]
        decide
      obtain ⟨bad, hbad, hflawed⟩ := List.mem_map.1 hmem
      obtain ⟨-, -, herror⟩ := hread _ document hdocument (descendant?_fault_eq_none.1 hnone)
        (List.ne_nil_of_mem hbad)
      obtain ⟨_, _, _, fault, -, -, -, -, -, hfault⟩ :=
        herror ⟨bad, hbad, of_decide_eq_false hflawed⟩
      exact ⟨fault, hfault⟩
  have hcalls : (fetches (mixedPulls.trace
      (sampleClient.world inTurn (sameWorld Roster.sampleWorld))
        [singleAnswer, mixedAnswer])).map
          (fun f => (f.succeeds, (f.yields .default).length)) = [(true, 1), (false, 1)] := by
    obtain ⟨fault, hfault⟩ := hmixed
    rw [trace_inTurn, List.map_cons, List.map_singleton, reading, reading,
      readItems_singleAnswer, hfault]
    rfl
  obtain ⟨e, others, hsplit, he, hothers⟩ := List.map_eq_cons_iff.1 hcalls
  obtain ⟨f, later, rfl, hf, -⟩ := List.map_eq_cons_iff.1 hothers
  obtain ⟨-, -, records, failure, rest, final, hrecords, -, hrun⟩ :=
    (hpulls 3).2 [e] f later hsplit (Prod.mk.inj hf).1
  rw [List.flatMap_singleton] at hrecords
  have hone : records.length = 1 := by
    rw [← List.length_map (f := Except.ok), ← hrecords]
    exact (Prod.mk.inj he).2
  obtain ⟨record, rfl⟩ := List.length_eq_one_iff.1 hone
  exact ⟨hmixed, record, failure, rest, final, hrun⟩

end MailCollector.Ews
