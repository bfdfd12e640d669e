import MailCollector.Crawl.Roster

/-!
# Collecting records into a sink

A run pulls records until there are no more, hands each one to the sink as it comes, and flushes the
sink once at the end. Mailboxes that fail are reported in the result. A sink that fails ends the
run at once, since records would be lost otherwise.
-/

namespace MailCollector.Crawl

open MailCollector.Mail MailCollector.Log

/-- What a run achieved. -/
structure Summary where
  mailboxes : Nat
  stored : Nat
  failures : List MailboxFailure

/-- How a run ends. -/
inductive Outcome where
  | finished (summary : Summary)
  | sinkFailed (failure : Failure)
  /-- The bound on the number of turns was met. -/
  | unfinished (stored : Nat) (rest : Roster)

/-- Hands the remaining records to the sink, in at most `fuel` turns. -/
def drain (config : Config) (mailboxes : Nat) : (fuel : Nat) → (stored : Nat) → Roster →
    Program Outcome
  | 0, stored, r => pure (.unfinished stored r)
  | fuel + 1, stored, r => do
    match ← r.turn config with
    | .working r => drain config mailboxes fuel stored r
    | .value record r => do
      match ← Program.ask (.store record) with
      | .error failure => pure (.sinkFailed (failure.during (.storingRecord (stored + 1))))
      | .ok () => drain config mailboxes fuel (stored + 1) r
    | .ended r => do
      match ← Program.ask .flush with
      | .error failure => pure (.sinkFailed (failure.during .flushingSink))
      | .ok () => do
        Program.note (.collected stored mailboxes r.failed.length)
        pure (.finished ⟨mailboxes, stored, r.failures⟩)
    | .failed never _ => nomatch never

/-- Crawls a list of mailboxes into the sink, in at most `fuel` turns. -/
def collect (config : Config) (fuel : Nat) (mailboxes : List String) : Program Outcome :=
  drain config mailboxes.length fuel 0 (Roster.start mailboxes)

end MailCollector.Crawl
