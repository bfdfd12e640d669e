import MailCollector.Proofs.Calendar.PlainYear
import MailCollector.Proofs.Crawl.Crashes
import MailCollector.Proofs.Crawl.Lazy
import MailCollector.Proofs.Ews.Replies

/-!
# Dates that bring a crawl over a client down

The instant at which an item was sent is read from the answer of the server, with any date in a year
of four digits and any offset below a day.  The offset may carry it out of these years
(`CarriedOut`), and then it has no date line.  A crawl over a client crashes if and only if it
fetches such an item, whatever else the server answers (`pulls_crash_iff`).
-/

namespace MailCollector.Ews

open MailCollector.Calendar MailCollector.Crawl MailCollector.Log MailCollector.Mail

variable {α β δ ε σ : Type}

/-! ### Items in answers -/

/-- When an item was sent is read from a text of its element. -/
lemma sentAt_of_itemOf {element : Xml.Element} {item : Item} (h : itemOf element = .ok item) :
    item.sentAt = readInstant (element.childText? "DateTimeSent") := by
  unfold itemOf at h
  obtain ⟨reference, -, h⟩ := ok_of_bind h
  obtain ⟨id, -, h⟩ := ok_of_bind h
  cases h
  rfl

/-- When the items in response messages were sent is read from texts. -/
lemma sentAt_of_answeredItems {messages : List Xml.Element} {items : List Item}
    (h : answeredItems messages = .ok items) :
    ∀ item ∈ items, ∃ text, item.sentAt = readInstant text := by
  induction messages generalizing items with
  | nil =>
    cases h
    simp
  | cons message messages ih =>
    obtain ⟨answered, hanswered, h⟩ := ok_of_bind h
    obtain ⟨others, hothers, h⟩ := ok_of_bind h
    cases h
    intro item hitem
    rcases List.mem_append.1 hitem with hitem | hitem
    · rw [Option.mem_toList] at hitem
      subst hitem
      unfold answeredItem at hanswered
      split at hanswered
      · split at hanswered <;> cases hanswered
      · obtain ⟨element, -, hread⟩ := ok_of_bind hanswered
        cases hitemOf : itemOf element with
        | error fault =>
          rw [hitemOf] at hread
          cases hread
        | ok item' =>
          rw [hitemOf] at hread
          cases hread
          exact ⟨_, sentAt_of_itemOf hitemOf⟩
    · exact ih hothers item hitem

/-- When the items in an answer were sent is read from texts. -/
lemma sentAt_of_readItems {body : String} {items : List Item} (h : readItems body = .ok items) :
    ∀ item ∈ items, ∃ text, item.sentAt = readInstant text := by
  obtain ⟨document, -, h⟩ := ok_of_bind h
  obtain ⟨messages, -, h⟩ := ok_of_bind h
  exact sentAt_of_answeredItems h

/-! ### A client as a part of the world -/

/-- A world in which a client over a transport answers for the mail service. -/
def Client.world (c : Client) (t : Http.Transport (StateM σ)) (others : World σ) : World σ where
  answer
    | .listFolders mailbox parent, s =>
      let answered := (c.service t).listFolders mailbox parent s
      (answered.1.1, answered.2)
    | .listItems request, s =>
      let answered := (c.service t).listItems request s
      (answered.1.1, answered.2)
    | .fetchItems mailbox ids, s =>
      let answered := (c.service t).fetchItems mailbox ids s
      (answered.1.1, answered.2)
    | c, s => others.answer c s

/-- The items of a fetch are the reply to it. -/
lemma fetched?_fetchItems {mailbox : String} {ids : List ItemId}
    {reply : Except Failure (List Item)} {items : List Item} :
    fetched? ⟨.fetchItems mailbox ids, reply⟩ = some items ↔ reply = .ok items := by
  cases reply <;> simp [fetched?]

/-- When the items that come back from a client were sent is read from texts. -/
lemma sentAt_of_answer {c : Client} {t : Http.Transport (StateM σ)} {others : World σ}
    {call : Call} {s : σ} {items : List Item}
    (h : fetched? ⟨call, ((c.world t others).answer call s).1⟩ = some items) :
    ∀ item ∈ items, ∃ text, item.sentAt = readInstant text := by
  cases call with
  | fetchItems mailbox ids =>
    have hreply := fetched?_fetchItems.1 h
    cases ids with
    | nil =>
      cases hreply
      simp
    | cons id ids =>
      simp only [Client.world, Client.service] at hreply
      obtain ⟨_, body, -, -, -, -, hbody⟩ := reply_of_ask hreply
      exact sentAt_of_readItems hbody
  | _ => cases h

/-- When the items that were fetched from a client were sent is read from texts. -/
lemma sentAt_of_fetched (c : Client) (t : Http.Transport (StateM σ)) (others : World σ)
    (p : Program α) (s : σ) :
    ∀ items ∈ (p.trace (c.world t others) s).filterMap fetched?, ∀ item ∈ items,
      ∃ text, item.sentAt = readInstant text := by
  intro items hitems
  obtain ⟨e, he, hfetched⟩ := List.mem_filterMap.1 hitems
  exact Program.forall_mem_trace
    (fun e => ∀ items ∈ fetched? e, ∀ item ∈ items, ∃ text, item.sentAt = readInstant text)
    (fun _ _ _ => sentAt_of_answer) p s e he items hfetched

/-! ### The main result -/

/-- Pulling from a crawl over a client crashes if and only if an item was fetched that was sent, as
its text says, in a year of four digits, but whose offset carries it out of these years.  These are
the items that cannot be made into records.  Nothing else that a server replies brings a crawl down.
-/
theorem pulls_crash_iff (c : Client) (t : Http.Transport (StateM σ)) (others : World σ)
    (config : Config) (names : List String) (fuel count : ℕ) (s : σ) :
    let pulls := Roster.pulls config fuel count (Roster.start names)
    let fetched := (pulls.trace (c.world t others) s).filterMap fetched?
    (∀ items ∈ fetched, ∀ item ∈ items, ∀ mailbox folder,
      Record.ofItem? item mailbox folder = none ↔
        ∃ sent, item.sentAt = some sent ∧ sent.CarriedOut) ∧
    ((∃ reason, (pulls.run (c.world t others) s).1 = .error reason) ↔
      ∃ items ∈ fetched, ∃ item ∈ items, ∃ sent, item.sentAt = some sent ∧ sent.CarriedOut) := by
  intro pulls fetched
  have hdatable : ∀ items ∈ fetched, ∀ item ∈ items,
      (datable item = false ↔ ∃ sent, item.sentAt = some sent ∧ sent.CarriedOut) := by
    intro items hitems item hitem
    obtain ⟨text, htext⟩ := sentAt_of_fetched c t others pulls s items hitems item hitem
    unfold datable
    cases hsent : item.sentAt with
    | none => simp
    | some sent =>
      obtain ⟨_, -, hparse⟩ := Option.bind_eq_some_iff.1 (htext.symm.trans hsent)
      simpa using Rfc3339.parse?_hasPlainYear hparse
  refine ⟨fun items hitems item hitem mailbox folder => ?_, ?_⟩
  · rw [ofItem?_eq_none_iff, hdatable items hitems item hitem]
  · rw [(Roster.pulls_sturdy config fuel count (Roster.start names)).crash_iff]
    refine exists_congr fun items => and_congr_right fun hitems => ?_
    exact exists_congr fun item => and_congr_right fun hitem => hdatable items hitems item hitem

/-- An answer about an item that was sent an hour before the year 0 begins. -/
def earlyAnswer : String :=
  "<r><GetItemResponseMessage><Items><Message><ItemId Id=\"i\"/>" ++
    "<DateTimeSent>0000-01-01T00:00:00+01:00</DateTimeSent>" ++
    "</Message></Items></GetItemResponseMessage></r>"

/-- The item in that answer. -/
def earlyItem : Item where
  id := ⟨"i"⟩
  sentAt := Instant.ofClock? ⟨0, 1, 1⟩ 0 0 0 0 60

/-- A world in which every mailbox has an inbox with a single mail, for which these items come back.
-/
def answering (items : Except Failure (List Item)) : World Unit where
  answer
    | .listFolders _ _, s => (.ok [.default], s)
    | .fetchItems _ _, s => (items, s)
    | c, s => Roster.sampleWorld.answer c s

/-- The answer is read, but its item has no record.  A crawl to which it is the answer crashes, and
the mailboxes that come later are not crawled. -/
theorem early_date_crashes :
    (∃ items, readItems earlyAnswer = .ok items ∧
      ∃ item ∈ items, ∀ mailbox folder, Record.ofItem? item mailbox folder = none) ∧
    let pulls := Roster.pulls (Config.ofRequested 10 10) 9 1 (Roster.start ["early", "late"])
    let world := answering ((readItems earlyAnswer).mapError .ofFault)
    (pulls.run world ()).1 = .error (.unwritableDate ⟨"i"⟩) ∧
      ∀ e ∈ pulls.trace world (), e.1.mailbox? ≠ some "late" := by
  have hread : readItems earlyAnswer = .ok [earlyItem] := by
    have hchars : earlyAnswer.toList = _ :=
      toList_append_of (toList_append_of String.toList_ofList String.toList_ofList)
        String.toList_ofList
    rw [readItems, readChecked, Xml.parse_eq_parseChars, hchars]
    set_option maxRecDepth 2000 in
    decide
  have hundatable : datable earlyItem = false := by decide
  refine ⟨⟨_, hread, earlyItem, List.mem_singleton_self _, fun mailbox folder => ?_⟩, ?_⟩
  · exact (ofItem?_eq_none_iff earlyItem mailbox folder).2 hundatable
  · rw [hread]
    exact ⟨rfl, by decide⟩

end MailCollector.Ews
