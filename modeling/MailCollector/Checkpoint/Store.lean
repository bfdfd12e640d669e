import MailCollector.Checkpoint.Table
import MailCollector.Calendar.Rfc3339
import MailCollector.Failure

/-!
# Stores of checkpoints

A run resumes from two kinds of checkpoint: an instant for each mailbox and a token for each folder
of a mailbox. Both are books with one entry per key, and a folder enters its key by `storageKey`.
Three stores differ in what becomes of an entry. One keeps nothing, one keeps the values themselves,
and one keeps rows of text as a database does, so that an instant is read back from its text and can
be found to be corrupt.
-/

namespace MailCollector.Checkpoint

open MailCollector.Calendar MailCollector.Mail

/-- Entries of both kinds, with instants written as values of `τ`. -/
structure Book (τ : Type) where
  instants : Table String τ := {}
  tokens : Table (String × String) String := {}
deriving DecidableEq

namespace Book

variable {τ : Type}

/-- The token of a folder. -/
def token? (b : Book τ) (mailbox : String) (folder : FolderId) : Option String :=
  b.tokens.find? (mailbox, folder.storageKey)

/-- Enters the token of a folder. -/
def withToken (b : Book τ) (mailbox : String) (folder : FolderId) (token : String) : Book τ :=
  { b with tokens := b.tokens.insert (mailbox, folder.storageKey) token }

/-- Enters what stands for the instant of a mailbox. -/
def withInstant (b : Book τ) (mailbox : String) (instant : τ) : Book τ :=
  { b with instants := b.instants.insert mailbox instant }

end Book

/-- Checkpoints that are kept as values. -/
abbrev Memory := Book Instant

/-- Checkpoints that are kept as rows of text. -/
abbrev Rows := Book String

namespace Rows

/-- The text under which an instant is kept. -/
def instantText (instant : Instant) : String :=
  Rfc3339.format .shortest .digits instant

/-- The instant of a mailbox, read from its text. -/
def instant? (r : Rows) (mailbox : String) : Except Failure (Option Instant) :=
  match r.instants.find? mailbox with
  | none => .ok none
  | some text =>
    match Rfc3339.parse? text with
    | some instant => .ok (some instant)
    | none => .error ⟨[], .corruptInstant mailbox text⟩

/-- Enters the instant of a mailbox by its text. -/
def enterInstant (r : Rows) (mailbox : String) (instant : Instant) : Rows :=
  r.withInstant mailbox (instantText instant)

end Rows

/-- A store of checkpoints. -/
inductive Store where
  /-- Has no checkpoint and forgets what is written. -/
  | forgetful
  | memory (kept : Memory)
  | rows (kept : Rows)
deriving DecidableEq

namespace Store

/-- An empty store that keeps values. -/
def newMemory : Store := .memory {}

/-- An empty store that keeps rows. -/
def newRows : Store := .rows {}

/-- The instant of a mailbox. -/
def readInstant (s : Store) (mailbox : String) : Except Failure (Option Instant) :=
  match s with
  | forgetful => .ok none
  | memory kept => .ok (kept.instants.find? mailbox)
  | rows kept => kept.instant? mailbox

/-- Sets the instant of a mailbox. -/
def writeInstant (s : Store) (mailbox : String) (instant : Instant) : Store :=
  match s with
  | forgetful => forgetful
  | memory kept => memory (kept.withInstant mailbox instant)
  | rows kept => rows (kept.enterInstant mailbox instant)

/-- The token of a folder. -/
def readToken (s : Store) (mailbox : String) (folder : FolderId) : Option String :=
  match s with
  | forgetful => none
  | memory kept => kept.token? mailbox folder
  | rows kept => kept.token? mailbox folder

/-- Sets the token of a folder. -/
def writeToken (s : Store) (mailbox : String) (folder : FolderId) (token : String) : Store :=
  match s with
  | forgetful => forgetful
  | memory kept => memory (kept.withToken mailbox folder token)
  | rows kept => rows (kept.withToken mailbox folder token)

/-- Puts a text in the place of a mailbox's instant, as only a store of rows allows. -/
def overwriteInstantText (s : Store) (mailbox text : String) : Store :=
  match s with
  | rows kept => rows (kept.withInstant mailbox text)
  | other => other

/-- Closes the store and opens it again. Everything that was written is still there. -/
def reopen (s : Store) : Store := s

end Store

end MailCollector.Checkpoint
