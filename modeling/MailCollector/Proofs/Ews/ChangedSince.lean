import MailCollector.Ews.Client
import MailCollector.Proofs.Checkpoint.LatestWrite
import MailCollector.Proofs.Crawl.Modes
import MailCollector.Proofs.Delivery.InstantChain
import MailCollector.Proofs.Ews.Envelopes

/-!
# The condition on the last change skips nothing

A crawl by instants asks in each folder for what changed since the instant that is stored for its
mailbox.  On the way to the server this instant becomes text twice, once in the store, if it keeps
rows, and once in the request, where the fraction of its second is cut off.  A pair of stores never
gives back another instant than the one that was stored last (`Recalls`), and until a page is
asked for the visit stores none (`since_of_listItems`).  What the server reads in the request is the
beginning of the second in which the instant lies, so it is not after the instant, and what changed
at the instant or later meets the condition (`condition_skips_nothing`).
-/

namespace MailCollector.Crawl

open MailCollector.Calendar MailCollector.Checkpoint MailCollector.Mail

variable {σ : Type} {initial : String → Option Instant}

/-! ### What a pair of stores gives back -/

/-- The pair keeps instants, and for no mailbox it gives back another one than was stored last. -/
structure Recalls (initial : String → Option Instant) (h : List Event) (p : Pair) : Prop where
  keeps : p.forInstants.Keeps
  eq_stored : ∀ mailbox found, p.readInstant mailbox = .ok found →
    found = storedInstant initial h mailbox

/-- The instants that can be read in a pair of stores. -/
def readable (p : Pair) (mailbox : String) : Option Instant :=
  (p.readInstant mailbox).toOption.join

/-- At first, what can be read was stored. -/
lemma recalls_readable {p : Pair} (hp : p.forInstants.Keeps) : Recalls (readable p) [] p where
  keeps := hp
  eq_stored mailbox found hfound := by
    change found = readable p mailbox
    rw [readable, hfound]
    rfl

/-- A call that stores no instant leaves recalled what was recalled. -/
lemma Recalls.append {h : List Event} {p p' : Pair} (hp : Recalls initial h p) {e : Event}
    (he : ∀ mailbox instant, e ≠ ⟨.writeInstant mailbox instant, .ok ()⟩)
    (hsame : p'.forInstants = p.forInstants) : Recalls initial (h ++ [e]) p' where
  keeps := hsame ▸ hp.keeps
  eq_stored mailbox found hfound := by
    rw [Pair.readInstant, hsame] at hfound
    rw [hp.eq_stored mailbox found hfound, storedInstant_append]
    exact fun instant hmem => he mailbox instant (List.mem_singleton.1 hmem).symm

/-- An instant that is stored is recalled from then on. -/
lemma Recalls.append_write {h : List Event} {p : Pair} (hp : Recalls initial h p)
    (mailbox : String) (t : Instant) :
    Recalls initial (h ++ [⟨.writeInstant mailbox t, .ok ()⟩]) (p.writeInstant mailbox t) where
  keeps := hp.keeps.writeInstant t
  eq_stored mailbox' found hfound := by
    by_cases hmailbox : mailbox' = mailbox
    · subst hmailbox
      rw [storedInstant_append_write]
      exact Store.eq_of_readInstant_writeInstant hp.keeps hfound
    · have hother : p.readInstant mailbox' = .ok found := by
        rw [← hfound]
        exact (Store.readInstant_writeInstant_of_ne hmailbox t).symm
      rw [hp.eq_stored mailbox' found hother, storedInstant_append]
      intro instant hmem
      cases List.mem_singleton.1 hmem
      exact hmailbox rfl

/-- Every answer of such a pair is one of a store that keeps instants. -/
lemma Recalls.keepsInstants {h : List Event} {p : Pair} (hp : Recalls initial h p) (c : Call)
    (reply : c.Reply) : KeepsInstants initial h ⟨c, (p.answer c reply).1⟩ := by
  cases c with
  | readInstant mailbox =>
    cases reply with
    | error failure => trivial
    | ok _ =>
      rw [Pair.answer]
      cases hfound : p.readInstant mailbox with
      | error failure => trivial
      | ok found => exact hp.eq_stored mailbox found hfound
  | _ => trivial

/-- A pair that has answered a call goes on to recall. -/
lemma Recalls.answer {h : List Event} {p : Pair} (hp : Recalls initial h p) (c : Call)
    (reply : c.Reply) :
    Recalls initial (h ++ [⟨c, (p.answer c reply).1⟩]) (p.answer c reply).2 := by
  rcases p.answer_cases c reply with
    ⟨hsame, hquiet⟩ | ⟨mailbox, t, hwrite, hp'⟩ | ⟨mailbox, folder, token, hwrite, hp'⟩
  · exact hp.append hquiet (congrArg Pair.forInstants hsame)
  · rw [hwrite, hp']
    exact hp.append_write mailbox t
  · rw [hwrite, hp']
    exact hp.append (by rintro _ _ ⟨⟩) rfl

/-- Runs over a pair of stores find their instants kept. -/
theorem history_keeping_keepsInstants (outer : World σ) (runs : List Run) {h : List Event} {s : σ}
    {p : Pair} (hp : Recalls initial h p) :
    Admits (KeepsInstants initial) h (history outer.keeping runs (s, p)) := by
  induction runs generalizing h s p with
  | nil => trivial
  | cons run runs ih =>
    have hrun : Admits (KeepsInstants initial) h (run.program.trace outer.keeping (s, p)) ∧
        Recalls initial (h ++ run.program.trace outer.keeping (s, p))
          (run.program.run outer.keeping (s, p)).2.2 :=
      run.program.keeping_admits
        (fun _ c reply _ hp => ⟨hp.keepsInstants c reply, hp.answer c reply⟩) hp
    rw [history, admits_append]
    exact ⟨hrun.1, ih hrun.2⟩

/-! ### From when on a visit asks -/

/-- Before a visit asks for ids it has stored no instant. -/
lemma Visit.Sound.quiet_before {v : Visit} (hv : v.Sound) {first : List Event}
    {request : PageRequest} {reply : Except Failure IdPage}
    (hcalls : v.calls = first ++ [⟨.listItems request, reply⟩]) :
    ∀ e ∈ first, ¬ e.1.WritesInstant := by
  intro e he
  rcases hv.last with hquiet | ⟨before, stored, after, hsplit, hquiet, hnotes, -⟩
  · exact hquiet e (by rw [hcalls]; exact List.mem_append_left _ he)
  -- Only notes follow an instant that is written, and the request is none.
  rw [hcalls] at hsplit
  rcases List.eq_nil_or_concat' after with rfl | ⟨_, _, rfl⟩
  · have hlast := (List.append_inj' hsplit rfl).2
    cases hlast
  · rw [← List.cons_append, ← List.append_assoc] at hsplit
    have hlast := (List.append_inj' hsplit rfl).2
    obtain ⟨note, hnote⟩ := hnotes _ (List.mem_append_right _ (List.mem_singleton_self _))
    rw [hnote] at hlast
    cases hlast

/-- A call for ids is the last one of some visit, up to then. -/
lemma exists_visit_of_listItems {world : World σ} {runs : List Run} {s : σ} {before : List Event}
    {request : PageRequest} {reply : Except Failure IdPage}
    (hmoment : before ++ [⟨.listItems request, reply⟩] <+: history world runs s) :
    ∃ (earlier first : List Event) (v : Visit), before = earlier ++ ⟨.clock, v.startedAt⟩ :: first ∧
      v.program.Makes v.calls ∧ v.calls = first ++ [⟨.listItems request, reply⟩] := by
  obtain ⟨chapters, -, hchapters, hevents⟩ := history_chapters world hmoment
  rcases List.eq_nil_or_concat' (chapters.flatMap Chapter.stretches) with
    hnone | ⟨stretches, stretch, hstretches⟩
  · rw [hnone] at hevents
    simp at hevents
  obtain ⟨c, hc, hstretch⟩ : ∃ c ∈ chapters, stretch ∈ c.stretches :=
    List.mem_flatMap.1 (hstretches ▸ by simp)
  rw [hstretches, List.flatMap_append, List.flatMap_singleton] at hevents
  cases stretch with
  | between e =>
    obtain ⟨-, hlast⟩ := List.append_inj' hevents rfl
    cases hlast
    exact ((hchapters c hc).between _ hstretch).elim
  | visit v =>
    have hmakes := (hchapters c hc).crawls v (List.mem_filterMap.2 ⟨_, hstretch, rfl⟩)
    rcases List.eq_nil_or_concat' v.calls with hnone | ⟨first, e, hcalls⟩
    · rw [Stretch.events, Visit.events, hnone] at hevents
      obtain ⟨-, hlast⟩ := List.append_inj' hevents rfl
      cases hlast
    · rw [Stretch.events, Visit.events, hcalls, ← List.cons_append, ← List.append_assoc] at hevents
      obtain ⟨rfl, hlast⟩ := List.append_inj' hevents rfl
      cases hlast
      exact ⟨_, first, v, rfl, hmakes, hcalls⟩

/-- A crawl that asks for what changed since an instant asks since the one that is stored. -/
theorem since_of_listItems {world : World σ} {runs : List Run} {s : σ}
    (hstore : Admits (KeepsInstants initial) [] (history world runs s)) {before : List Event}
    {request : PageRequest} {reply : Except Failure IdPage}
    (hmoment : before ++ [⟨.listItems request, reply⟩] <+: history world runs s) {offset : ℕ}
    {since : Option Instant} (hcursor : request.cursor = .offset offset since) :
    since = storedInstant initial before request.mailbox := by
  obtain ⟨earlier, first, v, rfl, hmakes, hcalls⟩ := exists_visit_of_listItems hmoment
  have hv := Visit.sound hmakes
  have hlist : ⟨.listItems request, reply⟩ ∈ v.calls := by simp [hcalls]
  have hmode : v.config.mode = .lastSynced := by
    have hfits := (timed_fits v.config v.bound v.mailbox v.startedAt).makes hmakes _ hlist
    rw [← hfits _ rfl, hcursor]
    rfl
  have hmailbox : request.mailbox = v.mailbox := (hv.own _ hlist).2 _ rfl
  -- What the visit asks since was read right after it began, and nothing was stored meanwhile.
  obtain ⟨changedSince, rest, offset', hread, hasked⟩ := hv.since hmode request reply hlist
  obtain ⟨rfl, rfl⟩ : offset = offset' ∧ since = changedSince := by
    rw [hcursor] at hasked
    cases hasked
    exact ⟨rfl, rfl⟩
  have hsince : since = storedInstant initial (earlier ++ [⟨.clock, v.startedAt⟩]) v.mailbox := by
    obtain ⟨later, hlater⟩ := hmoment
    rw [← hlater, List.append_assoc earlier, List.cons_append, ← hcalls, hread, List.append_assoc,
      admits_append, List.cons_append, List.cons_append] at hstore
    exact hstore.2.2.1
  have hquiet : ∀ instant, ⟨.writeInstant v.mailbox instant, .ok ()⟩ ∉ first :=
    fun instant hmem => hv.quiet_before hcalls _ hmem trivial
  rw [hsince, hmailbox, List.append_cons earlier _ first, storedInstant_append hquiet]

end MailCollector.Crawl

namespace MailCollector.Ews

open MailCollector.Calendar MailCollector.Checkpoint MailCollector.Crawl MailCollector.Mail
open MailCollector.Xml

/-! ### The condition in a request -/

/-- A request for a page that looks for an instant has one condition. -/
lemma outline_page_restriction (folder : FolderId) (offset limit : ℕ) (t : Instant) (s : Standing) :
    ((Query.page folder offset limit (some t)).outline s).descendantsNamed "Restriction" =
      [modifiedSinceOutline t] := by
  cases folder <;> cases s <;>
    simp [Query.outline, Query.bodyOutline, Standing.headerOutline, Standing.referenceOutline,
      idsOnlyOutline, modifiedSinceOutline, Outline.descendantsNamed, Outline.allNamed]

/-- The condition has one constant. -/
lemma outline_page_constant (folder : FolderId) (offset limit : ℕ) (t : Instant) (s : Standing) :
    ((Query.page folder offset limit (some t)).outline s).descendantsNamed "Constant" =
      [{ name := "Constant", attributes := [("Value", Rfc3339.format .seconds .letter t)] }] := by
  cases folder <;> cases s <;>
    simp [Query.outline, Query.bodyOutline, Standing.headerOutline, Standing.referenceOutline,
      idsOnlyOutline, modifiedSinceOutline, Outline.descendantsNamed, Outline.allNamed]

/-- A request is read as the arrangement of its operation. -/
lemma exists_parse_text (q : Query) (s : Standing) :
    ∃ document, Xml.parse (q.text s) = .ok document ∧ document.outline = q.outline s := by
  have hread : (Xml.parse (q.text s)).map Element.outline = .ok (q.outline s) :=
    outline_parse_documentText (q.sound_envelope s) (q.outlines_envelope s)
  cases hdocument : Xml.parse (q.text s) with
  | error fault =>
    rw [hdocument] at hread
    cases hread
  | ok document =>
    rw [hdocument] at hread
    exact ⟨document, rfl, Except.ok.inj hread⟩

/-- What a server reads in a request for a page that looks for an instant: one condition, with the
instant in whole seconds as its constant. -/
lemma exists_parse_page (folder : FolderId) (offset limit : ℕ) (t : Instant) (s : Standing) :
    ∃ document, Xml.parse ((Query.page folder offset limit (some t)).text s) = .ok document ∧
      Element.outlines (document.descendantsNamed "Restriction") = [modifiedSinceOutline t] ∧
      (document.descendantsNamed "Constant").map (Element.attribute? · "Value") =
        [some (Rfc3339.format .seconds .letter t)] := by
  obtain ⟨document, hparse, houtline⟩ := exists_parse_text (.page folder offset limit (some t)) s
  refine ⟨document, hparse, ?_, ?_⟩
  · rw [Element.outlines_descendantsNamed, houtline, outline_page_restriction]
  · have hconstant := Element.outlines_descendantsNamed "Constant" document
    rw [houtline, outline_page_constant, Element.outlines_eq_map] at hconstant
    obtain ⟨constant, hfound, hseen⟩ := List.map_eq_singleton_iff.1 hconstant
    have hattributes := constant.attributes_outline
    rw [hseen] at hattributes
    rw [hfound, List.map_singleton, Element.attribute?, ← hattributes]
    rfl

/-! ### The main result -/

/-- Take any runs over any world and over a store that keeps instants, as values or as rows.  An
instant in a year of four digits is read from the store as it was written.  When a page is asked for
by what changed, the condition is on the instant that was stored last for the mailbox.  What any
server reads as the constant of this condition, for any client, lies at this instant or less than
one second before it, leap seconds included.  So whatever changed at the instant or later meets the
condition. -/
theorem condition_skips_nothing {σ : Type} (outer : World σ) (runs : List Run) (s : σ) (p : Pair)
    (hp : p.forInstants.Keeps) {before : List Event} {request : PageRequest}
    {reply : Except Failure IdPage}
    (hmoment : before ++ [⟨.listItems request, reply⟩] <+: history outer.keeping runs (s, p))
    {offset : ℕ} {since : Option Instant} (hcursor : request.cursor = .offset offset since)
    {t : Instant} (hstored : storedInstant (readable p) before request.mailbox = some t)
    (hyear : t.hasPlainYear) (client : Client) :
    (∀ mailbox, (p.writeInstant mailbox t).readInstant mailbox = .ok (some t)) ∧
    since = some t ∧ ∃ document text w,
      Xml.parse (client.request request.mailbox (Client.pageQuery request)).body = .ok document ∧
      Element.outlines (document.descendantsNamed "Restriction") = [modifiedSinceOutline t] ∧
      (document.descendantsNamed "Constant").map (Element.attribute? · "Value") = [some text] ∧
      Rfc3339.parse? text = some w ∧
      w.seconds = t.seconds ∧ w.nanos ≤ t.nanos ∧ t.nanos < w.nanos + nanosPerSecond ∧
      ∀ u : Instant, t.le u → w.le u := by
  have hsince : since = some t :=
    (since_of_listItems (history_keeping_keepsInstants outer runs (recalls_readable hp)) hmoment
      hcursor).trans hstored
  have hquery : Client.pageQuery request =
      .page request.folder offset request.pageSize (some t) := by
    rw [Client.pageQuery, hcursor, hsince]
  obtain ⟨document, hparse, hrestriction, hconstant⟩ := exists_parse_page request.folder offset
    request.pageSize t (client.standing request.mailbox)
  obtain ⟨w, hw, hseconds, hnanos⟩ := Rfc3339.parse?_format_seconds .letter hyear
  have hle : w.nanos ≤ t.nanos := hnanos ▸ Nat.div_mul_le_self t.nanos nanosPerSecond
  have hlt : t.nanos < w.nanos + nanosPerSecond :=
    hnanos ▸ Nat.lt_div_mul_add (by decide : 0 < nanosPerSecond)
  refine ⟨fun mailbox => Store.readInstant_writeInstant hp hyear, hsince, document, _, w, ?_,
    hrestriction, hconstant, hw, hseconds, hle, hlt, ?_⟩
  · rw [hquery]
    exact hparse
  · intro u hu
    simp only [Instant.le, Bool.or_eq_true, Bool.and_eq_true, decide_eq_true_eq, beq_iff_eq] at hu ⊢
    omega

/-- A crawl by instants over one mailbox. -/
def leapRuns : List Run := [⟨(Config.ofRequested 1 1).withMode .lastSynced, 9, ["up"]⟩]

/-- A store of rows that holds the middle of a leap second for this mailbox. -/
def leapPair : Pair := ⟨Store.newRows.writeInstant "up" leapInstant, .newMemory⟩

/-- What the crawl does before it asks for a page. -/
def leapCalls : List Event :=
  [⟨.clock, default⟩, ⟨.readInstant "up", .ok (some leapInstant)⟩,
    ⟨.listFolders "up" (.wellKnown .messageRoot), .ok [.default]⟩,
    ⟨.note (.foldersFound 1 "up"), ()⟩]

/-- The page that it asks for. -/
def leapRequest : PageRequest := ⟨"up", .default, 1, .offset 0 (some leapInstant)⟩

/-- The client that asks for it. -/
def leapClient : Client := ⟨"https://mail/", .bearer "t", true⟩

/-- The constant in the request is read as an instant of the same leap second, and not as a later
one than the stored one. -/
theorem condition_skips_nothing_leap :
    leapCalls ++ [⟨.listItems leapRequest, .ok {}⟩] <+:
      history Roster.sampleWorld.keeping leapRuns ((), leapPair) ∧
    ∃ document text w,
      Xml.parse (leapClient.request "up" (Client.pageQuery leapRequest)).body = .ok document ∧
      (document.descendantsNamed "Constant").map (Element.attribute? · "Value") = [some text] ∧
      Rfc3339.parse? text = some w ∧
      w.seconds = 1483228799 ∧ w.nanos ≤ 1500000000 ∧ 1500000000 < w.nanos + nanosPerSecond := by
  have hmoment : leapCalls ++ [⟨.listItems leapRequest, .ok {}⟩] <+:
      history Roster.sampleWorld.keeping leapRuns ((), leapPair) := ⟨_, rfl⟩
  have hstored : storedInstant (readable leapPair) leapCalls leapRequest.mailbox =
      some leapInstant := rfl
  have hplain : leapInstant.hasPlainYear = true := by decide
  obtain ⟨-, -, document, text, w, hparse, -, hconstant, hw, hseconds, hle, hlt, -⟩ :=
    condition_skips_nothing Roster.sampleWorld leapRuns () leapPair Store.noConfusion hmoment rfl
      hstored hplain leapClient
  exact ⟨hmoment, document, text, w, hparse, hconstant, hw, hseconds, hle, hlt⟩

end MailCollector.Ews
