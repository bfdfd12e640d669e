import MailCollector.Checkpoint.Store

/-!
# Two stores side by side

A run may keep the instants of its mailboxes in one store and the tokens of its folders in another.
Replacing one of the two leaves the other as it is.
-/

namespace MailCollector.Checkpoint

open MailCollector.Calendar MailCollector.Mail

/-- A store for instants and a store for tokens. -/
structure Pair where
  forInstants : Store := .forgetful
  forTokens : Store := .forgetful
deriving DecidableEq

namespace Pair

/-- Keeps instants in another store. -/
def withInstantStore (p : Pair) (s : Store) : Pair := { p with forInstants := s }

/-- Keeps tokens in another store. -/
def withTokenStore (p : Pair) (s : Store) : Pair := { p with forTokens := s }

/-- The instant of a mailbox. -/
def readInstant (p : Pair) (mailbox : String) : Except Failure (Option Instant) :=
  p.forInstants.readInstant mailbox

/-- Sets the instant of a mailbox. -/
def writeInstant (p : Pair) (mailbox : String) (instant : Instant) : Pair :=
  { p with forInstants := p.forInstants.writeInstant mailbox instant }

/-- The token of a folder. -/
def readToken (p : Pair) (mailbox : String) (folder : FolderId) : Option String :=
  p.forTokens.readToken mailbox folder

/-- Sets the token of a folder. -/
def writeToken (p : Pair) (mailbox : String) (folder : FolderId) (token : String) : Pair :=
  { p with forTokens := p.forTokens.writeToken mailbox folder token }

end Pair

end MailCollector.Checkpoint
