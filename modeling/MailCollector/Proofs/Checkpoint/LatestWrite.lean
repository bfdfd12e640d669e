import MailCollector.Checkpoint.Store
import MailCollector.Proofs.Calendar.ReadBack

/-!
# Stores answer with the latest write

A store that keeps values and a store that keeps rows of text give the same answers over any history
of uses, namely what was written last under the same key (`answers_eq_latest`).  The key of an
instant is its mailbox, and the key of a token is its mailbox together with the whole folder: a
well-known folder and an opaque id never share one (`storageKey_injective`).  A store of rows has
every instant in a year of four digits back from its text as it was written.
-/

namespace MailCollector.Checkpoint

open MailCollector.Calendar MailCollector.Mail

/-! ### Keys -/

/-- Different kinds have different names. -/
lemma name_injective {k k' : FolderKind} (h : k.name = k'.name) : k = k' := by
  cases k <;> cases k' <;> first | rfl | exact absurd h (by decide)

/-- Different folders are kept under different keys. -/
theorem storageKey_injective {f f' : FolderId} (h : f.storageKey = f'.storageKey) : f = f' := by
  have hapart : ∀ (s s' : String), "wellknown:" ++ s ≠ "id:" ++ s' := by
    intro s s' hsame
    have hhead := congrArg (fun text : String => text.toList.head?) hsame
    simp at hhead
  cases f with
  | wellKnown kind =>
    cases f' with
    | wellKnown kind' =>
      rw [name_injective ((String.append_right_inj _).1 h)]
    | opaqueId id' => exact absurd h (hapart _ _)
  | opaqueId id =>
    cases f' with
    | wellKnown kind' => exact absurd h.symm (hapart _ _)
    | opaqueId id' => rw [(String.append_right_inj _).1 h]

/-! ### Reading after writing -/

namespace Store

variable {s : Store} {mailbox mailbox' : String} {folder folder' : FolderId}

/-- The store keeps something at all. -/
def Keeps (s : Store) : Prop := s ≠ .forgetful

/-- What is kept has the form that it had before. -/
lemma Keeps.writeInstant (hs : s.Keeps) (t : Instant) : (s.writeInstant mailbox t).Keeps := by
  cases s with
  | forgetful => exact absurd rfl hs
  | memory kept => exact Store.noConfusion
  | rows kept => exact Store.noConfusion

lemma Keeps.writeToken (hs : s.Keeps) (token : String) :
    (s.writeToken mailbox folder token).Keeps := by
  cases s with
  | forgetful => exact absurd rfl hs
  | memory kept => exact Store.noConfusion
  | rows kept => exact Store.noConfusion

/-- An instant that was just written is read. -/
lemma readInstant_writeInstant (hs : s.Keeps) {t : Instant} (ht : t.hasPlainYear) :
    (s.writeInstant mailbox t).readInstant mailbox = .ok (some t) := by
  cases s with
  | forgetful => exact absurd rfl hs
  | memory kept => exact congrArg Except.ok (Table.find?_insert_self _ _ _)
  | rows kept =>
    have htext : (kept.enterInstant mailbox t).instants.find? mailbox =
        some (Rows.instantText t) := Table.find?_insert_self _ _ _
    have hback : Rfc3339.parse? (Rows.instantText t) = some t :=
      Rfc3339.parse?_format_shortest .digits ht
    simp only [writeInstant, readInstant, Rows.instant?, htext, hback]

/-- Whatever is read where an instant was just written, it is no other instant.  An instant in a
year without four digits may fail to be read. -/
lemma eq_of_readInstant_writeInstant (hs : s.Keeps) {t : Instant} {found : Option Instant}
    (hfound : (s.writeInstant mailbox t).readInstant mailbox = .ok found) : found = some t := by
  cases s with
  | forgetful => exact absurd rfl hs
  | memory kept =>
    rw [writeInstant, readInstant, Book.withInstant, Table.find?_insert_self] at hfound
    exact (Except.ok.inj hfound).symm
  | rows kept =>
    have htext : (kept.enterInstant mailbox t).instants.find? mailbox =
        some (Rows.instantText t) := Table.find?_insert_self _ _ _
    simp only [writeInstant, readInstant, Rows.instant?, htext] at hfound
    split at hfound
    · rename_i instant hparse
      rw [← Rfc3339.eq_of_parse?_format_shortest hparse]
      exact (Except.ok.inj hfound).symm
    · cases hfound

/-- Other mailboxes keep their instants. -/
lemma readInstant_writeInstant_of_ne (hne : mailbox' ≠ mailbox) (t : Instant) :
    (s.writeInstant mailbox t).readInstant mailbox' = s.readInstant mailbox' := by
  cases s with
  | forgetful => rfl
  | memory kept => exact congrArg Except.ok (Table.find?_insert_of_ne _ _ hne)
  | rows kept =>
    have htext : (kept.enterInstant mailbox t).instants.find? mailbox' =
        kept.instants.find? mailbox' := Table.find?_insert_of_ne _ _ hne
    simp only [writeInstant, readInstant, Rows.instant?, htext]

/-- Instants do not depend on tokens. -/
lemma readInstant_writeToken (token : String) :
    (s.writeToken mailbox folder token).readInstant mailbox' = s.readInstant mailbox' := by
  cases s <;> rfl

/-- A token that was just written is read. -/
lemma readToken_writeToken (hs : s.Keeps) (token : String) :
    (s.writeToken mailbox folder token).readToken mailbox folder = some token := by
  cases s with
  | forgetful => exact absurd rfl hs
  | memory kept => exact Table.find?_insert_self _ _ _
  | rows kept => exact Table.find?_insert_self _ _ _

/-- Other folders, of this mailbox or another, keep their tokens. -/
lemma readToken_writeToken_of_ne (hne : (mailbox', folder') ≠ (mailbox, folder)) (token : String) :
    (s.writeToken mailbox folder token).readToken mailbox' folder' =
      s.readToken mailbox' folder' := by
  have hkey : (mailbox', folder'.storageKey) ≠ (mailbox, folder.storageKey) := by
    intro hsame
    obtain ⟨hmailbox, hfolder⟩ := Prod.mk.inj hsame
    exact hne (by rw [hmailbox, storageKey_injective hfolder])
  cases s with
  | forgetful => rfl
  | memory kept => exact Table.find?_insert_of_ne _ _ hkey
  | rows kept => exact Table.find?_insert_of_ne _ _ hkey

/-- Tokens do not depend on instants. -/
lemma readToken_writeInstant (t : Instant) :
    (s.writeInstant mailbox t).readToken mailbox' folder' = s.readToken mailbox' folder' := by
  cases s <;> rfl

end Store

/-! ### Histories -/

/-- A use of a store. -/
inductive Use where
  | readInstant (mailbox : String)
  | writeInstant (mailbox : String) (t : Instant)
  | readToken (mailbox : String) (folder : FolderId)
  | writeToken (mailbox : String) (folder : FolderId) (token : String)
  /-- The store is closed and opened again. -/
  | reopen

/-- What is read. -/
inductive Answer where
  | instant (found : Except Failure (Option Instant))
  | token (found : Option String)

namespace Use

/-- A use writes no instant that four digits cannot date. -/
def IsPlain : Use → Prop
  | writeInstant _ t => t.hasPlainYear
  | _ => True

/-- The instant that a use writes for a mailbox. -/
def instantFor? (mailbox : String) : Use → Option Instant
  | writeInstant mailbox' t => if mailbox' = mailbox then some t else none
  | _ => none

/-- The token that a use writes for a folder of a mailbox. -/
def tokenFor? (mailbox : String) (folder : FolderId) : Use → Option String
  | writeToken mailbox' folder' token =>
    if mailbox' = mailbox ∧ folder' = folder then some token else none
  | _ => none

end Use

namespace Store

/-- The store after a use. -/
def after (s : Store) : Use → Store
  | .readInstant _ | .readToken _ _ => s
  | .writeInstant mailbox t => s.writeInstant mailbox t
  | .writeToken mailbox folder token => s.writeToken mailbox folder token
  | .reopen => s.reopen

/-- What a use reads. -/
def answer? (s : Store) : Use → Option Answer
  | .readInstant mailbox => some (.instant (s.readInstant mailbox))
  | .readToken mailbox folder => some (.token (s.readToken mailbox folder))
  | _ => none

/-- What is read over a history of uses. -/
def answers (s : Store) : List Use → List Answer
  | [] => []
  | u :: us => (s.answer? u).toList ++ (s.after u).answers us

end Store

/-- The instant that was written last for a mailbox. -/
def latestInstant (past : List Use) (mailbox : String) : Option Instant :=
  (past.filterMap (Use.instantFor? mailbox)).getLast?

/-- The token that was written last for a folder of a mailbox. -/
def latestToken (past : List Use) (mailbox : String) (folder : FolderId) : Option String :=
  (past.filterMap (Use.tokenFor? mailbox folder)).getLast?

/-- What a use is expected to read after the uses in the past. -/
def latest? (past : List Use) : Use → Option Answer
  | .readInstant mailbox => some (.instant (.ok (latestInstant past mailbox)))
  | .readToken mailbox folder => some (.token (latestToken past mailbox folder))
  | _ => none

/-- What is expected to be read over a history of uses after those in the past. -/
def latestAnswers (past : List Use) : List Use → List Answer
  | [] => []
  | u :: us => (latest? past u).toList ++ latestAnswers (past ++ [u]) us

/-! ### One use -/

namespace Store

variable {s : Store} {u : Use} {mailbox : String} {folder : FolderId}

/-- What is kept keeps its form. -/
lemma Keeps.after (hs : s.Keeps) (u : Use) : (s.after u).Keeps := by
  cases u with
  | readInstant mailbox => exact hs
  | writeInstant mailbox t => exact hs.writeInstant t
  | readToken mailbox folder => exact hs
  | writeToken mailbox folder token => exact hs.writeToken token
  | reopen => exact hs

/-- A use that writes no instant for a mailbox leaves the instant that is read there. -/
lemma readInstant_after_of_none (h : u.instantFor? mailbox = none) :
    (s.after u).readInstant mailbox = s.readInstant mailbox := by
  cases u with
  | readInstant mailbox' => rfl
  | writeInstant mailbox' t =>
    refine readInstant_writeInstant_of_ne (fun hsame => ?_) t
    rw [Use.instantFor?, if_pos hsame.symm] at h
    cases h
  | readToken mailbox' folder => rfl
  | writeToken mailbox' folder token => exact readInstant_writeToken token
  | reopen => rfl

/-- An instant that a use writes for a mailbox is read there. -/
lemma readInstant_after_of_some (hs : s.Keeps) (hu : u.IsPlain) {t : Instant}
    (h : u.instantFor? mailbox = some t) : (s.after u).readInstant mailbox = .ok (some t) := by
  cases u with
  | writeInstant mailbox' t' =>
    obtain ⟨rfl, ht⟩ := Option.ite_some_none_eq_some.1 h
    obtain rfl : t' = t := ht
    exact readInstant_writeInstant hs hu
  | readInstant mailbox' => cases h
  | readToken mailbox' folder => cases h
  | writeToken mailbox' folder token => cases h
  | reopen => cases h

/-- A use that writes no token for a folder leaves the token that is read there. -/
lemma readToken_after_of_none (h : u.tokenFor? mailbox folder = none) :
    (s.after u).readToken mailbox folder = s.readToken mailbox folder := by
  cases u with
  | readInstant mailbox' => rfl
  | writeInstant mailbox' t => exact readToken_writeInstant t
  | readToken mailbox' folder' => rfl
  | writeToken mailbox' folder' token =>
    refine readToken_writeToken_of_ne (fun hsame => ?_) token
    obtain ⟨rfl, rfl⟩ := Prod.mk.inj hsame
    rw [Use.tokenFor?, if_pos ⟨rfl, rfl⟩] at h
    cases h
  | reopen => rfl

/-- A token that a use writes for a folder is read there. -/
lemma readToken_after_of_some (hs : s.Keeps) {token : String}
    (h : u.tokenFor? mailbox folder = some token) :
    (s.after u).readToken mailbox folder = some token := by
  cases u with
  | writeToken mailbox' folder' token' =>
    obtain ⟨⟨rfl, rfl⟩, htoken⟩ := Option.ite_some_none_eq_some.1 h
    obtain rfl : token' = token := htoken
    exact readToken_writeToken hs token'
  | readInstant mailbox' => cases h
  | writeInstant mailbox' t => cases h
  | readToken mailbox' folder' => cases h
  | reopen => cases h

end Store

/-! ### Whole histories -/

/-- What a use writes for a mailbox is the latest instant, and otherwise the latest one stays. -/
lemma latestInstant_concat (past : List Use) (mailbox : String) (u : Use) :
    latestInstant (past ++ [u]) mailbox =
      (u.instantFor? mailbox).or (latestInstant past mailbox) := by
  rw [latestInstant, List.filterMap_append]
  cases h : u.instantFor? mailbox <;> simp [h, latestInstant]

/-- What a use writes for a folder is the latest token, and otherwise the latest one stays. -/
lemma latestToken_concat (past : List Use) (mailbox : String) (folder : FolderId) (u : Use) :
    latestToken (past ++ [u]) mailbox folder =
      (u.tokenFor? mailbox folder).or (latestToken past mailbox folder) := by
  rw [latestToken, List.filterMap_append]
  cases h : u.tokenFor? mailbox folder <;> simp [h, latestToken]

/-- The store shows what was written last under each key. -/
structure Store.Shows (s : Store) (past : List Use) : Prop where
  keeps : s.Keeps
  instant : ∀ mailbox, s.readInstant mailbox = .ok (latestInstant past mailbox)
  token : ∀ mailbox folder, s.readToken mailbox folder = latestToken past mailbox folder

namespace Store.Shows

variable {s : Store} {past : List Use}

/-- One more use, and the store still shows what was written last. -/
lemma after (hs : s.Shows past) {u : Use} (hu : u.IsPlain) : (s.after u).Shows (past ++ [u]) := by
  refine ⟨hs.keeps.after u, fun mailbox => ?_, fun mailbox folder => ?_⟩
  · rw [latestInstant_concat]
    cases h : u.instantFor? mailbox with
    | none => rw [readInstant_after_of_none h, hs.instant, Option.none_or]
    | some t => rw [readInstant_after_of_some hs.keeps hu h, Option.some_or]
  · rw [latestToken_concat]
    cases h : u.tokenFor? mailbox folder with
    | none => rw [readToken_after_of_none h, hs.token, Option.none_or]
    | some token => rw [readToken_after_of_some hs.keeps h, Option.some_or]

/-- What such a store answers is what was written last. -/
lemma answers_eq {uses : List Use} (hs : s.Shows past) (huses : ∀ u ∈ uses, u.IsPlain) :
    s.answers uses = latestAnswers past uses := by
  induction uses generalizing s past with
  | nil => rfl
  | cons u us ih =>
    obtain ⟨hu, hus⟩ := List.forall_mem_cons.1 huses
    have hanswer : s.answer? u = latest? past u := by
      cases u with
      | readInstant mailbox => rw [answer?, latest?, hs.instant]
      | readToken mailbox folder => rw [answer?, latest?, hs.token]
      | writeInstant mailbox t => rfl
      | writeToken mailbox folder token => rfl
      | reopen => rfl
    rw [answers, latestAnswers, hanswer, ih (hs.after hu) hus]

end Store.Shows

/-- A new store of rows shows that nothing was written. -/
lemma newRows_shows : Store.newRows.Shows [] :=
  ⟨Store.noConfusion, fun _ => rfl, fun _ _ => rfl⟩

/-- A new store of values shows that nothing was written. -/
lemma newMemory_shows : Store.newMemory.Shows [] :=
  ⟨Store.noConfusion, fun _ => rfl, fun _ _ => rfl⟩

/-! ### The main result -/

/-- A new store of rows and a new store of values give the same answers over any history of uses,
and each answer is what was written last under exactly its key.  So a write under another key
changes nothing that is read, and an instant comes back from its text as it was. -/
theorem answers_eq_latest (uses : List Use) (huses : ∀ u ∈ uses, u.IsPlain) :
    Store.newRows.answers uses = latestAnswers [] uses ∧
    Store.newMemory.answers uses = latestAnswers [] uses ∧
    (∀ mailbox t, .writeInstant mailbox t ∈ uses →
      Rfc3339.parse? (Rows.instantText t) = some t) ∧
    ∀ (s : Store) (u : Use),
      (∀ mailbox, u.instantFor? mailbox = none →
        (s.after u).readInstant mailbox = s.readInstant mailbox) ∧
      ∀ mailbox folder, u.tokenFor? mailbox folder = none →
        (s.after u).readToken mailbox folder = s.readToken mailbox folder :=
  ⟨newRows_shows.answers_eq huses, newMemory_shows.answers_eq huses,
    fun _ _ hwrite => Rfc3339.parse?_format_shortest .digits (huses _ hwrite),
    fun _ _ => ⟨fun _ => Store.readInstant_after_of_none,
      fun _ _ => Store.readToken_after_of_none⟩⟩

/-- The middle of the leap second at the end of 2016. -/
def leapInstant : Instant where
  seconds := 1483228799
  nanos := 1500000000
  nanos_lt := by decide
  leap_at_end := by decide

/-- The inbox and an opaque folder of the same name get tokens, and a mailbox gets an instant. -/
def sampleUses : List Use :=
  [.writeInstant "m" leapInstant, .writeToken "m" .default "a",
    .writeToken "m" (.opaqueId "inbox") "b", .reopen, .readToken "m" .default,
    .readToken "m" (.opaqueId "inbox"), .readToken "other" .default, .readInstant "m"]

/-- The two tokens do not meet, and the instant lies in the leap second again. -/
theorem sampleUses_answered :
    Store.newRows.answers sampleUses =
      [.token (some "a"), .token (some "b"), .token none, .instant (.ok (some leapInstant))] ∧
    Store.newRows.answers sampleUses = Store.newMemory.answers sampleUses := by
  have hplain : leapInstant.hasPlainYear = true := by decide
  obtain ⟨hrows, hmemory, -⟩ := answers_eq_latest sampleUses (by
    simp [sampleUses, Use.IsPlain, hplain])
  exact ⟨hrows.trans rfl, hrows.trans hmemory.symm⟩

end MailCollector.Checkpoint
