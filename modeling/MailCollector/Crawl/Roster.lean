import MailCollector.Crawl.Mailbox

/-!
# Crawling a list of mailboxes

Mailboxes are crawled one after another in the order given, a mailbox that is listed twice twice. A
failure ends the crawl of its mailbox only: it is noted in the log, kept in the list of failures,
and the next mailbox is started.
-/

namespace MailCollector.Crawl

open MailCollector.Mail MailCollector.Log

/-- A mailbox whose crawl ended early, and why. -/
structure MailboxFailure where
  mailbox : String
  failure : Failure
deriving DecidableEq

/-- Where the crawl of a list of mailboxes stands. -/
inductive RosterPhase where
  | between
  | crawling (mailbox : String) (crawl : MailboxCrawl)
  | exhausted

/-- The crawl of a list of mailboxes. -/
structure Roster where
  waiting : List String
  phase : RosterPhase := .between
  /-- The failures so far, the latest first. -/
  failed : List MailboxFailure := []

namespace Roster

/-- Starts on a list of mailboxes. -/
def start (mailboxes : List String) : Roster := { waiting := mailboxes }

/-- The mailboxes that have not been started yet. -/
def remaining (r : Roster) : Nat := r.waiting.length

/-- The failures so far, in the order in which they happened. -/
def failures (r : Roster) : List MailboxFailure := r.failed.reverse

/-- Gives up on the mailbox that is being crawled. -/
def skip (r : Roster) (mailbox : String) (failure : Failure) : Program Roster := do
  Program.note (.mailboxSkipped mailbox failure)
  pure { r with phase := .between, failed := ⟨mailbox, failure⟩ :: r.failed }

/-- One turn of the crawl. It has no failures of its own. -/
def turn (config : Config) (r : Roster) : Program (Turn Empty Record Roster) :=
  match r.phase with
  | .exhausted => pure (.ended r)
  | .between =>
    match r.waiting with
    | [] => pure (.ended { r with phase := .exhausted })
    | mailbox :: rest => do
      let r := { r with waiting := rest }
      match ← MailboxCrawl.start config mailbox with
      | .error failure => do
        let r ← r.skip mailbox failure
        pure (.working r)
      | .ok crawl => pure (.working { r with phase := .crawling mailbox crawl })
  | .crawling mailbox crawl => do
    match ← crawl.turn config with
    | .value record crawl => pure (.value record { r with phase := .crawling mailbox crawl })
    | .failed failure _ => do
      let r ← r.skip mailbox failure
      pure (.working r)
    | .ended _ => pure (.working { r with phase := .between })
    | .working crawl => pure (.working { r with phase := .crawling mailbox crawl })

end Roster

end MailCollector.Crawl
