import MailCollector.Proofs.Crawl.Observed
import MailCollector.Proofs.Ews.Dates
import MailCollector.Proofs.Text.ReadBack

/-!
# What an answer about items accounts for

A client that asks for items counts the response messages of the reply, and not the items that it
asked for.  Each message gives its item or says that it is gone, and otherwise the whole reply is
refused; but nobody looks whether there are as many messages as ids (`fetchItems_accounts`).  A
reply with an empty list of messages is read as no items, and the crawl goes on to store its token
(`empty_answer_is_read`).
-/

namespace MailCollector.Ews

open MailCollector.Crawl MailCollector.Mail MailCollector.Text MailCollector.Xml

variable {α σ : Type}

/-! ### Response messages -/

/-- A response message that says that its item is gone. -/
def IsGone (message : Element) : Prop :=
  message.attribute? "ResponseClass" = some "Error" ∧
    message.childText? "ResponseCode" = some goneCode

instance : DecidablePred IsGone := fun _ => inferInstanceAs (Decidable (_ ∧ _))

/-- What a response message says about an item: that it is gone, or what it is. -/
def Answers (message : Element) : Option Item → Prop
  | none => IsGone message
  | some item => message.attribute? "ResponseClass" ≠ some "Error" ∧
      ∃ element, itemElement? message = some element ∧ itemOf element = .ok item

/-- A response message is read if it says something about an item. -/
lemma answeredItem_eq_ok {message : Element} {answer : Option Item} :
    answeredItem message = .ok answer ↔ Answers message answer := by
  unfold answeredItem messageError?
  by_cases herror : message.attribute? "ResponseClass" = some "Error"
  · rw [if_pos herror]
    by_cases hcode : message.childText? "ResponseCode" = some goneCode
    · cases answer <;> simp [Answers, IsGone, herror, hcode]
    · cases answer <;> simp [Answers, IsGone, herror, hcode]
  · rw [if_neg herror]
    constructor
    · intro h
      obtain ⟨element, helement, h⟩ := ok_of_bind h
      obtain ⟨item, hitem, rfl⟩ := map_eq_ok.1 h
      exact ⟨herror, element, required_eq_ok.1 helement, hitem⟩
    · intro h
      cases answer with
      | none => exact absurd h.1 herror
      | some item =>
        obtain ⟨-, element, helement, hitem⟩ := h
        rw [helement]
        exact map_eq_ok.2 ⟨item, hitem, rfl⟩

/-- The items that are read are what the response messages say, in their order. -/
lemma answeredItems_eq_ok {messages : List Element} {items : List Item} :
    answeredItems messages = .ok items ↔
      ∃ answers, List.Forall₂ Answers messages answers ∧ items = answers.reduceOption := by
  have hcons : ∀ (answer : Option Item) (answers : List (Option Item)),
      answer.toList ++ answers.reduceOption = (answer :: answers).reduceOption := by
    rintro (_ | item) answers <;> rfl
  induction messages generalizing items with
  | nil =>
    constructor
    · rintro ⟨⟩
      exact ⟨[], .nil, rfl⟩
    · rintro ⟨answers, ⟨⟩, rfl⟩
      rfl
  | cons message messages ih =>
    constructor
    · intro h
      obtain ⟨answer, hanswer, h⟩ := ok_of_bind h
      obtain ⟨others, hothers, h⟩ := ok_of_bind h
      cases h
      obtain ⟨answers, hanswers, rfl⟩ := ih.1 hothers
      exact ⟨answer :: answers, .cons (answeredItem_eq_ok.1 hanswer) hanswers, hcons _ _⟩
    · rintro ⟨answers, hanswers, rfl⟩
      cases hanswers with
      | cons hanswer hanswers =>
        rw [answeredItems, answeredItem_eq_ok.2 hanswer, ih.2 ⟨_, hanswers, rfl⟩]
        exact congrArg Except.ok (hcons _ _)

/-- Each response message gives an item or says that it is gone. -/
lemma length_of_answers {messages : List Element} {answers : List (Option Item)}
    (h : List.Forall₂ Answers messages answers) :
    answers.reduceOption.length + messages.countP (IsGone ·) = messages.length := by
  induction h with
  | nil => rfl
  | @cons message answer messages answers hanswer _ ih =>
    cases answer with
    | none =>
      have hgone : IsGone message := hanswer
      rw [List.reduceOption_cons_of_none, List.countP_cons_of_pos (by simpa using hgone),
        List.length_cons, ← ih, Nat.add_assoc]
    | some item =>
      have hthere : ¬ IsGone message := fun hgone => hanswer.1 hgone.1
      rw [List.reduceOption_cons_of_some, List.countP_cons_of_neg (by simpa using hthere),
        List.length_cons, List.length_cons, ← ih, Nat.add_right_comm]

/-- The response messages of an answer about items. -/
def messagesIn (document : Element) : List Element :=
  document.descendantsNamed "GetItemResponseMessage"

/-- An answer about items has response messages, or a list for them. -/
def HasMessages (document : Element) : Prop :=
  messagesIn document ≠ [] ∨ (document.descendant? "ResponseMessages").isSome

/-- The document of an answer about items is read for its response messages. -/
lemma readItems_of_checked {body : String} {document : Element}
    (h : readChecked body = .ok document) :
    readItems body = itemMessages document >>= answeredItems := by
  rw [readItems, h]
  rfl

lemma itemMessages_eq {document : Element} (h : HasMessages document) :
    itemMessages document = .ok (messagesIn document) := by
  refine if_neg fun hgap => ?_
  obtain ⟨hnone, hlist⟩ := Bool.and_eq_true_iff.1 hgap
  rcases h with hsome | hsome
  · exact hsome (List.isEmpty_iff.1 hnone)
  · rw [Option.isNone_iff_eq_none.1 hlist] at hsome
    cases hsome

lemma itemMessages_eq_error {document : Element} (h : ¬ HasMessages document) :
    itemMessages document = .error (.protocol "response lacks GetItemResponseMessage") := by
  obtain ⟨hnone, hlist⟩ := not_or.1 h
  refine if_pos (Bool.and_eq_true_iff.2 ⟨List.isEmpty_iff.2 (not_not.1 hnone), ?_⟩)
  rwa [Option.isNone_iff_eq_none, ← Option.not_isSome_iff_eq_none]

/-- What comes of an answer about items. -/
lemma readItems_eq_ok {body : String} {document : Element} {items : List Item}
    (h : readChecked body = .ok document) :
    readItems body = .ok items ↔ HasMessages document ∧
      ∃ answers, List.Forall₂ Answers (messagesIn document) answers ∧
        items = answers.reduceOption := by
  rw [readItems_of_checked h]
  by_cases hmessages : HasMessages document
  · rw [itemMessages_eq hmessages]
    exact answeredItems_eq_ok.trans (and_iff_right hmessages).symm
  · rw [itemMessages_eq_error hmessages]
    refine iff_of_false ?_ fun hread => hmessages hread.1
    rintro ⟨⟩

/-! ### The main result -/

/-- What a client makes of the reply to a question for items.  It reads items if and only if the
reply has response messages, or a list for them, and each message gives its item or says that it is
gone; these are the items, in order.  So the reply accounts for every id if and only if it has as
many messages as there are ids.  Without messages and without a list it is not of the expected form.
-/
theorem fetchItems_accounts (c : Client) (t : Http.Transport (StateM σ)) (mailbox : String)
    (ids : List ItemId) (s : σ) (hids : ids ≠ []) :
    (∀ items, (((c.service t).fetchItems mailbox ids s).1).1 = .ok items ↔
      ∃ document, c.Hears t mailbox (.items ids) s document ∧ HasMessages document ∧
        ∃ answers, List.Forall₂ Answers (messagesIn document) answers ∧
          items = answers.reduceOption) ∧
    ∀ document, c.Hears t mailbox (.items ids) s document →
      (∀ items, (((c.service t).fetchItems mailbox ids s).1).1 = .ok items →
        items.length + (messagesIn document).countP (IsGone ·) = (messagesIn document).length ∧
        (items.length + (messagesIn document).countP (IsGone ·) = ids.length ↔
          (messagesIn document).length = ids.length)) ∧
      (¬ HasMessages document → (((c.service t).fetchItems mailbox ids s).1).1 =
        .error (.ofFault (.protocol "response lacks GetItemResponseMessage"))) := by
  obtain ⟨id, others, rfl⟩ := List.exists_cons_of_ne_nil hids
  -- What is made of a document that is heard.
  have hheard : ∀ document, c.Hears t mailbox (.items (id :: others)) s document →
      ∃ body, readChecked body = .ok document ∧
        (((c.service t).fetchItems mailbox (id :: others) s).1).1 =
          (readItems body).mapError .ofFault := by
    rintro document ⟨reply, body, hpost, hlow, hhigh, htext, hdocument⟩
    exact ⟨body, hdocument, ask_of_reply hpost hlow hhigh htext⟩
  refine ⟨fun items => ⟨fun h => ?_, ?_⟩, fun document hhears => ⟨fun items h => ?_, fun h => ?_⟩⟩
  · obtain ⟨reply, body, hpost, hlow, hhigh, htext, hread⟩ := reply_of_ask h
    obtain ⟨document, hdocument, -⟩ := ok_of_bind hread
    exact ⟨document, ⟨reply, body, hpost, hlow, hhigh, htext, hdocument⟩,
      (readItems_eq_ok hdocument).1 hread⟩
  · rintro ⟨document, hhears, hmessages⟩
    obtain ⟨body, hdocument, hresult⟩ := hheard document hhears
    rw [hresult]
    exact mapError_eq_ok.2 ((readItems_eq_ok hdocument).2 hmessages)
  · obtain ⟨body, hdocument, hresult⟩ := hheard document hhears
    rw [hresult, mapError_eq_ok, readItems_eq_ok hdocument] at h
    obtain ⟨-, answers, hanswers, rfl⟩ := h
    have hcount := length_of_answers hanswers
    exact ⟨hcount, by rw [hcount]⟩
  · obtain ⟨body, hdocument, hresult⟩ := hheard document hhears
    rw [hresult, readItems_of_checked hdocument, itemMessages_eq_error h]
    rfl

/-- A client that acts as the owner of each mailbox. -/
def sampleClient : Client where
  endpoint := "https://localhost/"
  credentials := .bearer "secret"

/-- The reply with this body. -/
def sampleReply (body : String) : Http.Reply where
  status := 200
  body := Utf8.encode body.toList

/-- A transport on which every reply has this body. -/
def replying (body : String) : Http.Transport (StateM Unit) where
  send _ := pure (some (sampleReply body))

/-- A transport by which the requests get these answers, one after the other. -/
def inTurn : Http.Transport (StateM (List String)) where
  send _ answers :=
    match answers with
    | [] => (none, [])
    | answer :: answers => (some (sampleReply answer), answers)

/-- A world that answers the same at all times. -/
def sameWorld (world : World Unit) : World σ where
  answer c s := ((world.answer c ()).1, s)

/-- The text of a reply is its body. -/
lemma text?_sampleReply (body : String) : (sampleReply body).text? = some body := by
  have htext : (sampleReply body).isText = true := by
    change "text/".toList.isPrefixOf "text/xml; charset=utf-8".toList = true
    decide
  rw [Http.Reply.text?, if_neg (by simp [sampleReply]), if_pos htext]
  simp [sampleReply, Utf8.decodeMarking, Utf8.read_encode, Function.comp_def]

/-- The sample client can send a request if it can name the mailbox in a header. -/
lemma isSendable_sampleClient (mailbox : String) (q : Query) :
    (sampleClient.request mailbox q).isSendable = Http.isHeader ("X-AnchorMailbox", mailbox) := by
  have hcredentials :
      Http.isHeader (Http.authorization, sampleClient.credentials.headerValue) = true := by
    decide
  rw [Client.isSendable_request, hcredentials]
  rfl

/-- The sample client gets this reply to a question for an item. -/
lemma replying_post (body : String) :
    ((replying body).post (sampleClient.request "m" (.items [⟨"i"⟩])) ()).1 =
      some (sampleReply body) := by
  rw [Http.Transport.post, isSendable_sampleClient, if_pos (by decide)]
  rfl

/-- An answer about one item. -/
def singleAnswer : String :=
  "<r><GetItemResponseMessage><Items><Message><ItemId Id=\"i\"/></Message></Items>" ++
    "</GetItemResponseMessage></r>"

lemma readItems_singleAnswer : readItems singleAnswer = .ok [{ id := ⟨"i"⟩ }] := by
  have hchars : singleAnswer.toList = _ :=
    toList_append_of String.toList_ofList String.toList_ofList
  rw [readItems, readChecked, parse_eq_parseChars, hchars]
  decide

/-- A reply about the only item that was asked for. -/
theorem fetchItems_accounts_sample :
    ∃ (items : List Item) (document : Element),
      sampleClient.Hears (replying singleAnswer) "m" (.items [⟨"i"⟩]) () document ∧
      items.length = 1 ∧
      items.length + (messagesIn document).countP (IsGone ·) = (messagesIn document).length := by
  have hresult : (((sampleClient.service (replying singleAnswer)).fetchItems "m" [⟨"i"⟩]
      ()).1).1 = .ok [{ id := ⟨"i"⟩ }] := by
    refine (ask_of_reply (replying_post singleAnswer) (by decide) (by decide)
      (text?_sampleReply singleAnswer)).trans ?_
    rw [readItems_singleAnswer]
    rfl
  obtain ⟨hread, hcounts⟩ :=
    fetchItems_accounts sampleClient (replying singleAnswer) "m" [⟨"i"⟩] () (by simp)
  obtain ⟨document, hhears, -⟩ := (hread _).1 hresult
  exact ⟨_, document, hhears, rfl, ((hcounts document hhears).1 _ hresult).1⟩

/-- An answer about items with an empty list of response messages. -/
def emptyAnswer : String := "<r><ResponseMessages/></r>"

lemma readItems_emptyAnswer : readItems emptyAnswer = .ok [] := by
  have hchars : emptyAnswer.toList = _ := String.toList_ofList
  rw [readItems, readChecked, parse_eq_parseChars, hchars]
  decide

/-- The reply about an item does not mention it and is read as no items.  A crawl to which it is the
answer stores its token all the same, without a record. -/
theorem empty_answer_is_read :
    (∃ (items : List Item) (document : Element),
      (((sampleClient.service (replying emptyAnswer)).fetchItems "m" [⟨"i"⟩] ()).1).1 =
        .ok items ∧
      sampleClient.Hears (replying emptyAnswer) "m" (.items [⟨"i"⟩]) () document ∧
      items.length + (messagesIn document).countP (IsGone ·) ≠ 1) ∧
    let pulls := Roster.pulls (Config.ofRequested 10 10) 30 1 (Roster.start ["m"])
    let world := answering ((readItems emptyAnswer).mapError .ofFault)
    (pulls.trace world ()).filterMap yielded? = [] ∧
      storedToken (pulls.trace world ()) "m" .default = some "t" := by
  have htext := text?_sampleReply emptyAnswer
  have hread : (readChecked emptyAnswer).toOption.map (fun document =>
      (messagesIn document).length) = some 0 := by
    have hchars : emptyAnswer.toList = _ := String.toList_ofList
    rw [readChecked, parse_eq_parseChars, hchars]
    decide
  cases hdocument : readChecked emptyAnswer with
  | error fault =>
    rw [hdocument] at hread
    cases hread
  | ok document =>
    rw [hdocument] at hread
    have hmessages : messagesIn document = [] :=
      List.length_eq_zero_iff.1 (Option.some.inj hread)
    refine ⟨⟨[], document, ?_, ?_, ?_⟩, ?_⟩
    · refine (ask_of_reply (replying_post emptyAnswer) (by decide) (by decide) htext).trans ?_
      rw [readItems_emptyAnswer]
      rfl
    · exact ⟨_, _, replying_post emptyAnswer, by decide, by decide, htext, hdocument⟩
    · rw [hmessages]
      decide
    · rw [readItems_emptyAnswer]
      exact ⟨rfl, rfl⟩

end MailCollector.Ews
