import MailCollector.Proofs.Crawl.CommitOnce
import MailCollector.Proofs.Crawl.Cursors
import MailCollector.Proofs.Crawl.Isolation
import MailCollector.Proofs.Crawl.Keeping

/-!
# The two modes do not mix

A crawl resumes either from the tokens of the folders or from the instants of the mailboxes, and
both kinds of checkpoint are within its reach all the time.  It reads those of its own mode only
(`mailboxes_fits`), so it cannot tell two pairs of stores apart that agree on them
(`Roster.pulls_agree`).  A crawl by instants stores no token unless some page brings one.

Both modes write the instant of every mailbox that is crawled to its end.  The calls of a crawl are
told as visits for this, all of which but the last one were concluded (`mailboxes_visited`).
-/

namespace MailCollector.Checkpoint

open MailCollector.Calendar MailCollector.Mail MailCollector.Crawl

/-! ### What a mode looks at -/

namespace Store

/-- The same store without its tokens. -/
def withoutTokens : Store → Store
  | forgetful => forgetful
  | memory kept => memory { kept with tokens := {} }
  | rows kept => rows { kept with tokens := {} }

/-- The same store without its instants. -/
def withoutInstants : Store → Store
  | forgetful => forgetful
  | memory kept => memory { kept with instants := {} }
  | rows kept => rows { kept with instants := {} }

variable (s : Store) (mailbox : String) (folder : FolderId)

lemma readInstant_withoutTokens :
    s.withoutTokens.readInstant mailbox = s.readInstant mailbox := by
  cases s <;> rfl

lemma writeInstant_withoutTokens (t : Instant) :
    (s.writeInstant mailbox t).withoutTokens = s.withoutTokens.writeInstant mailbox t := by
  cases s <;> rfl

lemma readToken_withoutInstants :
    s.withoutInstants.readToken mailbox folder = s.readToken mailbox folder := by
  cases s <;> rfl

lemma writeToken_withoutInstants (token : String) :
    (s.writeToken mailbox folder token).withoutInstants =
      s.withoutInstants.writeToken mailbox folder token := by
  cases s <;> rfl

end Store

/-- What a crawl in this mode resumes from. -/
def Pair.lookedAt (p : Pair) : Mode → Store
  | .syncToken => p.forTokens.withoutInstants
  | .lastSynced => p.forInstants.withoutTokens

end MailCollector.Checkpoint

namespace MailCollector.Crawl

open MailCollector.Calendar MailCollector.Checkpoint MailCollector.Mail MailCollector.Log Plain
  Plain.Attempt

variable {σ : Type}

/-! ### The calls of a mode -/

/-- The mode in which a call is made, if it is made in one mode only. -/
def Call.mode? : Call → Option Mode
  | .readInstant _ => some .lastSynced
  | .readToken _ _ => some .syncToken
  | .listItems request => some (cursorMode request.cursor)
  | _ => none

/-- The call is made in the mode of the crawl. -/
def Call.Fits (config : Config) (c : Call) : Prop :=
  ∀ mode, c.mode? = some mode → mode = config.mode

lemma Call.fits_of_none {config : Config} {c : Call} (hc : c.mode? = none) : c.Fits config := by
  intro mode hmode
  rw [hc] at hmode
  cases hmode

lemma Call.fits_of_some {config : Config} {c : Call} {mode : Mode} (hc : c.mode? = some mode)
    (hmode : mode = config.mode) : c.Fits config := by
  intro mode' hmode'
  rw [hc] at hmode'
  cases hmode'
  exact hmode

section Fits

variable (config : Config) (bound : ℕ) (name : String)

lemma folder_fits (changedSince : Option Instant) (f : FolderId) :
    (folder config bound name changedSince f).Within (Call.Fits config) := by
  have hpages : ∀ token, (pages config name f changedSince bound token 0 0).Within
      (Call.Fits config) := by
    refine fun token => (pages_ofPages config name f changedSince bound token 0 0).mono ?_
    intro c hc
    cases c with
    | listItems request => exact Call.fits_of_some rfl hc
    | writeToken m f token => exact Call.fits_of_none rfl
    | fetchItems m ids => exact Call.fits_of_none rfl
    | store record => exact Call.fits_of_none rfl
    | note n => exact Call.fits_of_none rfl
    | _ => exact hc.elim
  unfold folder
  cases hmode : config.mode with
  | syncToken =>
    refine Within.bind (within_tried ⟨?_, fun _ => trivial⟩) fun token => hpages _
    exact Call.fits_of_some rfl hmode.symm
  | lastSynced => exact hpages _

/-- A visit reads the checkpoints of its mode only, and it lists items by cursors of its mode. -/
lemma timed_fits (startedAt : Instant) :
    (timed config bound name startedAt).Within (Call.Fits config) := by
  have hresumption : (resumption config name).Within (Call.Fits config) := by
    unfold resumption
    cases hmode : config.mode with
    | syncToken => trivial
    | lastSynced => exact within_tried ⟨Call.fits_of_some rfl hmode.symm, fun _ => trivial⟩
  refine Within.bind hresumption fun changedSince => ?_
  refine Within.bind (within_tried ⟨Call.fits_of_none rfl, fun _ => trivial⟩) fun folders => ?_
  refine Within.bind (within_noting (Call.fits_of_none rfl)) fun _ => ?_
  refine Within.bind (within_forM fun f _ => folder_fits config bound name changedSince f)
    fun _ => ?_
  refine Within.bind (within_tried ⟨Call.fits_of_none rfl, fun _ => trivial⟩) fun _ => ?_
  exact within_noting (Call.fits_of_none rfl)

/-- The plain loop reads the checkpoints of its mode only. -/
theorem mailboxes_fits (names : List String) :
    (mailboxes config bound names).Within (Call.Fits config) fun _ => True := by
  induction names with
  | nil => trivial
  | cons name names ih =>
    rw [mailboxes, mailbox_run, Program.call_bind]
    refine ⟨Call.fits_of_none rfl, fun startedAt => ?_⟩
    refine Program.Within.bind (timed_fits config bound name startedAt) fun ended _ => ?_
    cases ended with
    | ok _ => exact ih
    | error halt =>
      cases halt with
      | unfinished => trivial
      | failed failure =>
        refine ⟨Call.fits_of_none rfl, fun _ => ?_⟩
        exact Program.Within.bind (p := mailboxes config bound names) ih fun _ _ => trivial

end Fits

/-! ### Two pairs of stores -/

/-- Pairs that agree on what a mode looks at answer its calls alike, and agree afterwards. -/
lemma answer_lookedAt {config : Config} {c : Call} (hc : c.Fits config) (reply : c.Reply)
    {p p' : Pair} (hp : p'.lookedAt config.mode = p.lookedAt config.mode) :
    (p'.answer c reply).1 = (p.answer c reply).1 ∧
      (p'.answer c reply).2.lookedAt config.mode = (p.answer c reply).2.lookedAt config.mode := by
  cases c with
  | readInstant mailbox =>
    have hmode : .lastSynced = config.mode := hc _ rfl
    rw [← hmode] at hp ⊢
    cases reply with
    | error failure => exact ⟨rfl, hp⟩
    | ok _ =>
      refine ⟨?_, hp⟩
      calc p'.readInstant mailbox
          = p'.forInstants.withoutTokens.readInstant mailbox :=
            (Store.readInstant_withoutTokens _ _).symm
        _ = p.forInstants.withoutTokens.readInstant mailbox :=
            congrArg (Store.readInstant · mailbox) hp
        _ = p.readInstant mailbox := Store.readInstant_withoutTokens _ _
  | readToken mailbox folder =>
    have hmode : .syncToken = config.mode := hc _ rfl
    rw [← hmode] at hp ⊢
    cases reply with
    | error failure => exact ⟨rfl, hp⟩
    | ok _ =>
      refine ⟨congrArg Except.ok ?_, hp⟩
      calc p'.readToken mailbox folder
          = p'.forTokens.withoutInstants.readToken mailbox folder :=
            (Store.readToken_withoutInstants _ _ _).symm
        _ = p.forTokens.withoutInstants.readToken mailbox folder :=
            congrArg (Store.readToken · mailbox folder) hp
        _ = p.readToken mailbox folder := Store.readToken_withoutInstants _ _ _
  | writeInstant mailbox t =>
    cases reply with
    | error failure => exact ⟨rfl, hp⟩
    | ok _ =>
      refine ⟨rfl, ?_⟩
      cases hmode : config.mode with
      | syncToken => rwa [hmode] at hp
      | lastSynced =>
        rw [hmode] at hp
        calc (p'.forInstants.writeInstant mailbox t).withoutTokens
            = p'.forInstants.withoutTokens.writeInstant mailbox t :=
              Store.writeInstant_withoutTokens _ _ _
          _ = p.forInstants.withoutTokens.writeInstant mailbox t :=
              congrArg (Store.writeInstant · mailbox t) hp
          _ = (p.forInstants.writeInstant mailbox t).withoutTokens :=
              (Store.writeInstant_withoutTokens _ _ _).symm
  | writeToken mailbox folder token =>
    cases reply with
    | error failure => exact ⟨rfl, hp⟩
    | ok _ =>
      refine ⟨rfl, ?_⟩
      cases hmode : config.mode with
      | lastSynced => rwa [hmode] at hp
      | syncToken =>
        rw [hmode] at hp
        calc (p'.forTokens.writeToken mailbox folder token).withoutInstants
            = p'.forTokens.withoutInstants.writeToken mailbox folder token :=
              Store.writeToken_withoutInstants _ _ _ _
          _ = p.forTokens.withoutInstants.writeToken mailbox folder token :=
              congrArg (Store.writeToken · mailbox folder token) hp
          _ = (p.forTokens.writeToken mailbox folder token).withoutInstants :=
              (Store.writeToken_withoutInstants _ _ _ _).symm
  | _ => exact ⟨rfl, hp⟩

/-! ### Visits that were concluded -/

/-- A visit that was concluded: either its failure was noted, or the time at which it began was
stored as the instant of the mailbox. -/
def IsConcluded (name : String) (part : List Event) : Prop :=
  IsVisit name part ∧
    ((∃ failure, ⟨.note (.mailboxSkipped name failure), ()⟩ ∈ part) ∨
      ∃ startedAt rest, part = ⟨.clock, startedAt⟩ :: rest ∧
        ⟨.writeInstant name startedAt, .ok ()⟩ ∈ rest)

/-- The history consists of visits to the first of the mailboxes, all concluded but possibly the
last one. -/
def Visited (names : List String) (h : List Event) : Prop :=
  ∃ concluded current, h = concluded.flatten ++ current ∧
    List.Forall₂ IsConcluded (names.take concluded.length) concluded ∧
    (current = [] ∨ ∃ name, names[concluded.length]? = some name ∧ IsVisit name current)

/-- The history consists of one concluded visit to each of the mailboxes, in their order. -/
def VisitedAll (names : List String) (h : List Event) : Prop :=
  ∃ concluded, h = concluded.flatten ∧ List.Forall₂ IsConcluded names concluded

section Visits

variable {config : Config} {bound : ℕ} {name : String} {names : List String}

/-- An attempt makes some calls, whatever they are. -/
lemma upholds_something {α : Type} (p : Attempt α) (h : List Event) :
    p.Upholds anything (fun _ => True) (fun _ => True) (fun _ _ => True) h := by
  refine Program.Upholds.mono (Program.upholds_makes p.run h) (fun _ _ => trivial) ?_
  intro ended h _ _
  cases ended <;> trivial

/-- A visit that comes to its end has stored the time at which it began. -/
lemma timed_completes (startedAt : Instant) (h : List Event) :
    (timed config bound name startedAt).Upholds anything (fun _ => True) (fun _ => True)
      (fun _ h => ⟨.writeInstant name startedAt, .ok ()⟩ ∈ h) h := by
  rw [timed, upholds_bind]
  refine (upholds_something _ _).mono fun changedSince h _ _ => ?_
  rw [sweep, upholds_bind]
  refine (upholds_something _ _).mono fun folders h _ _ => upholds_bind.2 ?_
  refine (upholds_something _ _).mono fun _ h _ _ => upholds_bind.2 ?_
  refine (upholds_something _ _).mono fun _ h _ _ => ?_
  rw [completion, upholds_bind, upholds_tried]
  refine ⟨trivial, fun reply _ => ⟨trivial, ?_⟩⟩
  cases reply with
  | error failure => trivial
  | ok _ => exact upholds_noting.2 ⟨trivial, fun _ => ⟨trivial, by simp⟩⟩

/-- The rest of the plain loop concludes the visits that it makes. -/
lemma mailboxes_visited (rest : List String) {before : List String} {concluded : List (List Event)}
    (hconcluded : List.Forall₂ IsConcluded before concluded) (hnames : before ++ rest = names) :
    (mailboxes config bound rest).Upholds anything (Visited names)
      (fun result h => result ≠ none → VisitedAll names h) concluded.flatten := by
  induction rest generalizing before concluded with
  | nil =>
    rw [List.append_nil] at hnames
    subst hnames
    have htake : before.take concluded.length = before :=
      List.take_of_length_le (le_of_eq hconcluded.length_eq)
    refine ⟨⟨concluded, [], (List.append_nil _).symm, ?_, .inl rfl⟩,
      fun _ => ⟨concluded, rfl, hconcluded⟩⟩
    rwa [htake]
  | cons name rest ih =>
    have htake : names.take concluded.length = before := by
      rw [← hnames, ← hconcluded.length_eq, List.take_left]
    have hname : names[concluded.length]? = some name := by
      rw [← hnames, ← hconcluded.length_eq]
      simp
    have hcurrent : ∀ current, current = [] ∨ IsVisit name current →
        Visited names (concluded.flatten ++ current) := fun current hcurrent =>
      ⟨concluded, current, rfl, htake.symm ▸ hconcluded, hcurrent.imp id fun h => ⟨name, hname, h⟩⟩
    -- What remains after this visit was concluded.
    have hnext : ∀ part, IsConcluded name part →
        (mailboxes config bound rest).Upholds anything (Visited names)
          (fun result h => result ≠ none → VisitedAll names h) (concluded.flatten ++ part) := by
      intro part hpart
      have hlonger : List.Forall₂ IsConcluded (before ++ [name]) (concluded ++ [part]) :=
        List.rel_append hconcluded (.cons hpart .nil)
      have hrest := ih hlonger (by rw [List.append_assoc]; exact hnames)
      rwa [List.flatten_append, List.flatten_singleton] at hrest
    rw [mailboxes, mailbox_run, Program.call_bind]
    refine ⟨by simpa using hcurrent [] (.inl rfl), fun startedAt _ => ?_⟩
    have hwithin := timed_concerns config name bound startedAt
    have hvisit : ∀ calls, (timed config bound name startedAt).run.Makes calls →
        IsVisit name (⟨.clock, startedAt⟩ :: calls) := fun calls hcalls =>
      ⟨startedAt, calls, rfl, hwithin.makes hcalls⟩
    rw [Program.upholds_bind]
    refine (Program.upholds_makes _ _).mono ?_ ?_
    · rintro _ ⟨calls, rfl, hcalls⟩
      rw [List.append_assoc]
      exact hcurrent _ (.inr (hvisit calls hcalls))
    · rintro ended _ - ⟨calls, rfl, hcalls⟩
      rw [List.append_assoc, List.singleton_append]
      cases ended with
      | ok _ =>
        have htimed : (timed config bound name startedAt).Upholds anything _ _ _ [] :=
          timed_completes startedAt []
        have hstored : ⟨.writeInstant name startedAt, .ok ()⟩ ∈ calls := htimed.finishes hcalls
        exact hnext _ ⟨hvisit calls hcalls.makes, .inr ⟨startedAt, calls, rfl, hstored⟩⟩
      | error halt =>
        cases halt with
        | unfinished =>
          exact ⟨hcurrent _ (.inr (hvisit calls hcalls.makes)), fun hnone => absurd rfl hnone⟩
        | failed failure =>
          refine ⟨hcurrent _ (.inr (hvisit calls hcalls.makes)), fun _ _ => ?_⟩
          rw [List.append_assoc, List.cons_append]
          refine (Program.upholds_bind (mailboxes config bound rest) _ _).2 ?_
          have hskipped : IsVisit name (⟨.clock, startedAt⟩ ::
              (calls ++ [⟨.note (.mailboxSkipped name failure), ()⟩])) := by
            refine ⟨startedAt, _, rfl, List.forall_mem_append.2 ⟨hwithin.makes hcalls.makes, ?_⟩⟩
            exact skipping_concerns name (.error (.failed failure))
          refine (hnext _ ⟨hskipped, .inl ⟨failure, by simp⟩⟩).mono (fun _ => id) ?_
          intro result h hinv hresult
          refine ⟨hinv, fun hsome => hresult fun hnone => hsome ?_⟩
          rw [hnone]
          rfl

end Visits

namespace Roster

variable (outer : World σ) (config : Config) (names : List String) (fuel count : ℕ) (s : σ)

lemma pulls_fits : (pulls config fuel count (start names)).Upholds anything
    (fun h => ∀ e ∈ h, e.1.Fits config) (fun _ _ => True) [] := by
  have hloop : (mailboxes config (count * fuel) names).Upholds anything
      (fun h => ∀ e ∈ h, e.1.Fits config) (fun _ _ => True) [] :=
    (mailboxes_fits config (count * fuel) names).upholds (by simp) fun _ _ hh he =>
      List.forall_mem_append.2 ⟨hh, List.forall_mem_singleton.2 he⟩
  exact (pulls_upholds fuel count hloop).mono (fun _ => id) fun _ _ _ _ => trivial

/-- A crawl cannot tell two pairs of stores apart that agree on what its mode looks at. -/
theorem pulls_agree {p p' : Pair} (hp : p'.lookedAt config.mode = p.lookedAt config.mode) :
    (pulls config fuel count (start names)).trace outer.keeping (s, p') =
        (pulls config fuel count (start names)).trace outer.keeping (s, p) ∧
      ((pulls config fuel count (start names)).run outer.keeping (s, p')).1 =
        ((pulls config fuel count (start names)).run outer.keeping (s, p)).1 := by
  have hstep : ∀ (h : List Event) c reply (p p' : Pair),
      p'.lookedAt config.mode = p.lookedAt config.mode →
      (∀ e ∈ h ++ [⟨c, (p.answer c reply).1⟩], e.1.Fits config) →
      (p'.answer c reply).1 = (p.answer c reply).1 ∧
        (p'.answer c reply).2.lookedAt config.mode =
          (p.answer c reply).2.lookedAt config.mode := by
    intro h c reply p p' hp hfits
    have hc : c.Fits config := hfits _ (List.mem_append_right _ (List.mem_singleton_self _))
    exact answer_lookedAt hc reply hp
  exact Program.Upholds.keeping_agree hstep (pulls_fits config names fuel count) hp
    (admits_true _ _)

/-- A crawl by instants whose pages bring no token stores none. -/
lemma pulls_storesNoToken {world : World σ} {s : σ} (hmode : config.mode = .lastSynced)
    (hpages : ∀ page ∈ ((pulls config fuel count (start names)).trace world s).filterMap listed?,
      page.token = none) :
    StoresNoToken ((pulls config fuel count (start names)).trace world s) := by
  have hfits := (pulls_fits config names fuel count).trace
    (t := (pulls config fuel count (start names)).trace world s) List.prefix_rfl (admits_true _ _)
  have hkind : ∀ e ∈ (pulls config fuel count (start names)).trace world s, AnswersInKind e := by
    rintro ⟨c, reply⟩ he
    unfold AnswersInKind
    split
    · rename_i request page heq
      cases heq
      have hcursor : cursorMode request.cursor = config.mode := hfits _ he _ rfl
      split
      · rename_i token htoken
        rw [htoken, hmode] at hcursor
        cases hcursor
      · exact hpages page (List.mem_filterMap.2 ⟨_, he, rfl⟩)
    · trivial
  have hloop : (mailboxes config (count * fuel) names).Upholds (fun _ e => AnswersInKind e) _ _
      [] := mailboxes_storesNoToken (fun _ _ hanswer => hanswer) hmode (count * fuel) names
  exact (pulls_upholds fuel count hloop).trace List.prefix_rfl (admits_of_forall_mem [] hkind)

/-! ### The main result -/

/-- The two kinds of checkpoint do not mix.  A crawl in one mode reads the checkpoints of this mode
only.  So over two pairs of stores that agree on them, and differ in whatever else they hold, it
makes the same calls and gets the same answers.  A crawl by instants stores no token if no page
brings one.  In both modes a visit to a mailbox that was not given up is concluded by storing the
time at which it began, and when the crawl is exhausted all its visits were concluded. -/
theorem modes_apart (p : Pair) :
    (∀ e ∈ (pulls config fuel count (start names)).trace outer.keeping (s, p),
      e.1.Fits config) ∧
    (∀ p' : Pair, p'.lookedAt config.mode = p.lookedAt config.mode →
      (pulls config fuel count (start names)).trace outer.keeping (s, p') =
          (pulls config fuel count (start names)).trace outer.keeping (s, p) ∧
        ((pulls config fuel count (start names)).run outer.keeping (s, p')).1 =
          ((pulls config fuel count (start names)).run outer.keeping (s, p)).1) ∧
    (config.mode = .lastSynced →
      (∀ page ∈
        ((pulls config fuel count (start names)).trace outer.keeping (s, p)).filterMap listed?,
        page.token = none) →
      StoresNoToken ((pulls config fuel count (start names)).trace outer.keeping (s, p))) ∧
    Visited names ((pulls config fuel count (start names)).trace outer.keeping (s, p)) ∧
    ∀ r, ((pulls config fuel count (start names)).run outer.keeping (s, p)).1 = .ok r →
      r.phase = .exhausted →
      VisitedAll names ((pulls config fuel count (start names)).trace outer.keeping (s, p)) := by
  have hvisits : (pulls config fuel count (start names)).Upholds anything (Visited names) _ [] :=
    pulls_upholds fuel count (mailboxes_visited names .nil rfl)
  refine ⟨(pulls_fits config names fuel count).trace List.prefix_rfl (admits_true _ _),
    fun p' hp => pulls_agree outer config names fuel count s hp,
    pulls_storesNoToken config names fuel count, hvisits.trace List.prefix_rfl (admits_true _ _),
    fun r hrun hexhausted => ?_⟩
  rcases hvisits.run (admits_true _ _) hrun with hgoing | ⟨result, rfl, hall⟩
  · exact absurd hexhausted hgoing
  · exact hall (by simp)

/-- An instant that cannot be read does not disturb a crawl by tokens, and a token of a folder does
not disturb a crawl by instants, which stores none. -/
theorem modes_apart_sample :
    (pulls (Config.ofRequested 1 1) 9 2 (start ["down", "up"])).trace sampleWorld.keeping
        ((), ⟨Store.newRows.overwriteInstantText "up" "yesterday", .newMemory⟩) =
      (pulls (Config.ofRequested 1 1) 9 2 (start ["down", "up"])).trace sampleWorld.keeping
        ((), ⟨.newMemory, .newMemory⟩) ∧
    StoresNoToken ((pulls ((Config.ofRequested 1 1).withMode .lastSynced) 9 2
      (start ["down", "up"])).trace sampleWorld.keeping
        ((), ⟨.newMemory, Store.newMemory.writeToken "up" .default "t"⟩)) :=
  ⟨((modes_apart sampleWorld _ _ 9 2 () _).2.1 _ rfl).1,
    (modes_apart sampleWorld _ _ 9 2 () _).2.2.1 rfl (by decide)⟩

end Roster

end MailCollector.Crawl
