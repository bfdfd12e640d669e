import MailCollector.Checkpoint.Ledger
import MailCollector.CommandLine.Options
import MailCollector.Crawl.Collect
import MailCollector.Ews.Client
import MailCollector.Log.Filter
import MailCollector.Settings.Load
import MailCollector.Sink.Lines
import MailCollector.Url.Endpoint

/-!
# Runs of the program

A run makes sure of its configuration directory, loads the settings and lets the command line
override them, checks everything that can be checked without the server, and opens checkpoints and
output. Only then does it crawl. Whatever stops it before the end of the crawl, or makes the output
fail, is reported and makes the run a failure. Mailboxes that could not be crawled to their end are
reported too, but the run succeeds without them.
-/

namespace MailCollector.CommandLine

open MailCollector.Calendar MailCollector.Checkpoint MailCollector.Crawl MailCollector.Ews
  MailCollector.Log MailCollector.Mail

variable {m : Type → Type} [Monad m]

/-! ### Preparation -/

/-- Settings as far as the command line leaves them alone. -/
def overridden (s : Settings) (o : Options) : Settings :=
  { s with
    mode := o.mode.getD s.mode
    mailboxes := if o.mailboxes.isEmpty then s.mailboxes else o.mailboxes }

/-- The client that settings describe, and the mailboxes that it is for. -/
def clientOf (s : Settings) : Except Failure Client := do
  if s.mailboxes.isEmpty then throw ⟨[], .noMailboxes⟩
  let credentials ← s.credentials
  let endpoint ← (Url.Endpoint.parse s.endpoint).mapError fun cause => ⟨[], cause⟩
  pure { endpoint := endpoint.text, credentials := credentials, impersonates := s.impersonate }

/-- Which notes are wanted. The environment may say so; otherwise details are left out unless the
command line asks for them. -/
def filterOf (machine : Machine m) (o : Options) : m Filter := do
  let usual := if o.verbose then "debug" else "info"
  return Filter.ofText ((← machine.environment "RUST_LOG").getD usual)

/-- Opens the checkpoints of a run. -/
def openLedger (machine : Machine m) (o : Options) (s : Settings) : ExceptT Failure m Ledger := do
  if o.stateless then
    ExceptT.lift (machine.note .stateless)
    pure .forgetful
  else
    let path ← s.checkpointPath machine
    ExceptT.lift (machine.note (.usingCheckpoints path))
    ExceptT.mk (Ledger.openAt machine path)

/-- Opens the output of a run. -/
def openOutput (machine : Machine m) (o : Options) : ExceptT Failure m (Outlet m) := do
  match o.output with
  | none => pure machine.standardOutput
  | some path =>
    match ← machine.create path with
    | some outlet => pure outlet
    | none => throw ⟨[.creatingOutput path], .system⟩

/-- A run that is ready to crawl. -/
structure Prepared (m : Type → Type) where
  settings : Settings
  client : Client
  ledger : Ledger
  outlet : Outlet m

/-- Prepares a run. -/
def prepare (machine : Machine m) (o : Options) : ExceptT Failure m (Prepared m) := do
  let _ ← machine.createConfigDirectory
  let settings := overridden (← Settings.load machine o.settings) o
  let client ← ExceptT.mk (pure (clientOf settings))
  let ledger ← openLedger machine o settings
  ExceptT.lift (machine.note
    (.collecting settings.mailboxes.length settings.endpoint settings.config))
  let outlet ← openOutput machine o
  pure ⟨settings, client, ledger, outlet⟩

/-! ### The crawl -/

namespace Prepared

/-- Passes on the answer of the mail service and reports what it notes. -/
def answered {α : Type} (machine : Machine m) (question : m (Answered α)) :
    StateT Ledger m (Except Failure α) := do
  let (result, notes) ← question
  StateT.lift (notes.forM machine.note)
  pure result

/-- Answers a call of the crawl. -/
def answer (p : Prepared m) (machine : Machine m) :
    (c : Call) → StateT Ledger m c.Reply
  | .clock => machine.now
  | .note n => StateT.lift (machine.note n)
  | .readInstant mailbox => do return (← get).store.readInstant mailbox
  | .writeInstant mailbox instant => fun ledger => ledger.writeInstant machine mailbox instant
  | .readToken mailbox folder => do return .ok ((← get).store.readToken mailbox folder)
  | .writeToken mailbox folder token => fun ledger =>
    ledger.writeToken machine mailbox folder token
  | .listFolders mailbox parent =>
    answered machine ((p.client.service machine.transport).listFolders mailbox parent)
  | .listItems request =>
    answered machine ((p.client.service machine.transport).listItems request)
  | .fetchItems mailbox ids =>
    answered machine ((p.client.service machine.transport).fetchItems mailbox ids)
  | .store record => StateT.lift (Sink.writeLine p.outlet.write record)
  | .flush => do return Sink.flushed (← p.outlet.flush)

end Prepared

/-- More turns than a crawl can take. -/
def patience : Nat := 1152921504606846976

/-- How a run ends. -/
inductive Ending where
  | succeeded
  | failed
  | misused
  | crashed
deriving DecidableEq, Repr

/-- The exit code that says how a run ended. -/
def Ending.code : Ending → Nat
  | succeeded => 0
  | failed => 1
  | misused => 2
  | crashed => 101

/-- Reports why a run stops. -/
def stop (machine : Machine m) (f : Failure) : m Ending := do
  machine.note (.stopped f)
  pure .failed

/-- Reports what a run achieved. -/
def conclude (machine : Machine m) (s : Summary) : m Ending := do
  let complete := s.mailboxes - min s.failures.length s.mailboxes
  machine.note (.finished s.stored complete s.mailboxes)
  s.failures.forM fun f => machine.note (.mailboxIncomplete f.mailbox f.failure)
  pure .succeeded

/-- Crawls. -/
def Prepared.crawl (p : Prepared m) (machine : Machine m) : m Ending := do
  let program := collect p.settings.config patience p.settings.mailboxes
  match ← (program.perform (p.answer machine)).run' p.ledger with
  | .ok (.finished summary) => conclude machine summary
  | .ok (.sinkFailed failure) => stop machine failure
  | .ok (.unfinished ..) | .error _ => pure .crashed

/-- A run with given options. Notes that are not wanted are not written. -/
def run (machine : Machine m) (o : Options) : m Ending := do
  let machine := machine.noting (← filterOf machine o).admits
  match ← (prepare machine o).run with
  | .ok prepared => prepared.crawl machine
  | .error failure => stop machine failure

end MailCollector.CommandLine
