import MailCollector.Crawl.Roster
import MailCollector.Text.Blank
import Mathlib.Data.List.Basic
import Mathlib.Tactic.Common

/-!
# What a history shows

A history is a list of calls with their replies.  Here are the things that are read off it: the
records that were handed over, those that the sink accepted, the failures that were recorded, the
pages and items that came back, and the token that is stored for a folder (`storedToken`).
-/

namespace MailCollector.Crawl

open MailCollector.Mail MailCollector.Log

/-! ### Records and failures -/

/-- The record that is handed over, if one is. -/
def yielded? : Event → Option Record
  | ⟨.store record, _⟩ => some record
  | _ => none

/-- The record that the sink accepts, if it accepts one. -/
def accepted? : Event → Option Record
  | ⟨.store record, .ok ()⟩ => some record
  | _ => none

/-- The failure that is recorded, if one is. -/
def skipped? : Event → Option MailboxFailure
  | ⟨.note (.mailboxSkipped mailbox failure), _⟩ => some ⟨mailbox, failure⟩
  | _ => none

/-! ### Pages and items -/

/-- The page that comes back, if one does. -/
def listed? : Event → Option IdPage
  | ⟨.listItems _, .ok page⟩ => some page
  | _ => none

/-- A call that asks for ids. -/
def Call.Lists : Call → Prop
  | .listItems _ => True
  | _ => False

/-- The ids of a call for items, whatever comes of it. -/
def asked? : Event → Option (List ItemId)
  | ⟨.fetchItems _ ids, _⟩ => some ids
  | _ => none

/-- The items that come back, if some do. -/
def fetched? : Event → Option (List Item)
  | ⟨.fetchItems _ _, .ok items⟩ => some items
  | _ => none

/-! ### Tokens -/

/-- The token that is read, if there is one and it is not empty. -/
def seed? : Event → Option String
  | ⟨.readToken _ _, .ok token⟩ => Text.nonEmpty token
  | _ => none

/-- The last token that is not empty among those of the pages, and without such a page the token
that was read before. -/
def lastToken (t : List Event) : Option String :=
  ((t.filterMap listed?).filterMap fun page => Text.nonEmpty page.token).getLast?.or
    (t.findSome? seed?)

/-- The token that a call stores for a folder, if it succeeds in that. -/
def tokenWritten? (mailbox : String) (folder : FolderId) : Event → Option String
  | ⟨.writeToken m f token, .ok ()⟩ => if m = mailbox ∧ f = folder then some token else none
  | _ => none

/-- The token that is stored for a folder, where no token was stored at first. -/
def storedToken (h : List Event) (mailbox : String) (folder : FolderId) : Option String :=
  (h.filterMap (tokenWritten? mailbox folder)).getLast?

/-- A call that stores a token, whether it succeeds or not. -/
def Call.WritesToken : Call → Prop
  | .writeToken _ _ _ => True
  | _ => False

section Tokens

variable {mailbox : String} {folder : FolderId} {h : List Event}

lemma tokenWritten?_eq_none {e : Event} (he : ¬ e.1.WritesToken) :
    tokenWritten? mailbox folder e = none := by
  unfold tokenWritten?
  split
  · exact absurd trivial he
  · rfl

/-- Calls that store no token leave the stored tokens as they are. -/
lemma storedToken_append {t : List Event} (ht : ∀ e ∈ t, ¬ e.1.WritesToken) :
    storedToken (h ++ t) mailbox folder = storedToken h mailbox folder := by
  have hnone : t.filterMap (tokenWritten? mailbox folder) = [] :=
    List.filterMap_eq_nil_iff.2 fun e he => tokenWritten?_eq_none (ht e he)
  rw [storedToken, List.filterMap_append, hnone, List.append_nil, storedToken]

/-- Storing a token replaces the token of its own folder only. -/
lemma storedToken_append_writeToken (m : String) (f : FolderId) (token : String) :
    storedToken (h ++ [⟨.writeToken m f token, .ok ()⟩]) mailbox folder =
      if m = mailbox ∧ f = folder then some token else storedToken h mailbox folder := by
  have hwritten : tokenWritten? mailbox folder ⟨.writeToken m f token, .ok ()⟩ =
      if m = mailbox ∧ f = folder then some token else none := rfl
  split <;> rename_i hsame <;> simp [storedToken, hwritten, hsame]

end Tokens

end MailCollector.Crawl
