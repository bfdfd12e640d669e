import MailCollector.Checkpoint.Store
import MailCollector.Crawl.Service
import MailCollector.Sink.Basic

/-!
# Rehearsed worlds

A scene answers all calls of a crawl: a mail service, scripted or not, a store of checkpoints some
accesses to which are refused, and a sink that may fail. It writes down every call as it comes,
refused ones too, and keeps the notes for the log apart. A refused call has no other effect.
-/

namespace MailCollector.Rehearsal

open MailCollector.Calendar MailCollector.Mail MailCollector.Checkpoint MailCollector.Crawl
  MailCollector.Log

/-! ### Refusals -/

/-- The four ways to use a store of checkpoints. -/
inductive Access where
  | readInstant
  | writeInstant
  | readToken
  | writeToken
deriving DecidableEq, Repr

/-- An access that is refused, for one mailbox or for all, and with what words. -/
structure Refusal where
  access : Access
  mailbox : Option String
  message : String
deriving DecidableEq, Repr

/-- The failure of an access, if some refusal applies to it. -/
def refusal? (refusals : List Refusal) (access : Access) (mailbox : String) : Option Failure :=
  (refusals.find? fun r => r.access == access && r.mailbox.all (· == mailbox)).map fun r =>
    ⟨[], .other r.message⟩

/-! ### Sinks that fail on cue -/

/-- A sink of which one store call or every flush fails. -/
structure CuedSink where
  sink : Sink
  /-- The number of the store call that fails, counted from one. -/
  failAt : Option Nat := none
  failFlush : Bool := false
  /-- The number of store calls so far. -/
  calls : Nat := 0

namespace CuedSink

/-- Stores a record unless this is the call that fails. -/
def store (s : CuedSink) (r : Record) : Except Failure Unit × CuedSink :=
  let s := { s with calls := s.calls + 1 }
  if s.failAt = some s.calls then (.error ⟨[], .other "disk full"⟩, s)
  else
    let (result, sink) := s.sink.store r
    (result, { s with sink := sink })

/-- Flushes the sink unless flushing fails. -/
def flush (s : CuedSink) : Except Failure Unit × CuedSink :=
  if s.failFlush then (.error ⟨[], .other "flush failed"⟩, s)
  else
    let (result, sink) := s.sink.flush
    (result, { s with sink := sink })

end CuedSink

/-! ### Scenes -/

/-- The state of a rehearsed world with a mail service whose states are in `σ`. -/
structure Scene (σ : Type) where
  now : Instant
  service : σ
  store : Store := .forgetful
  refusals : List Refusal := []
  sink : CuedSink := { sink := .kept {} }
  /-- The calls so far, the latest first. -/
  calls : List Call := []
  /-- The notes so far, the latest first. -/
  notes : List Note := []

namespace Scene

variable {σ α : Type}

/-- Writes a call down. -/
def record (s : Scene σ) (c : Call) : Scene σ := { s with calls := c :: s.calls }

/-- Lets an access to the store through unless it is refused. -/
def guarded (s : Scene σ) (access : Access) (mailbox : String)
    (effect : Scene σ → Except Failure α × Scene σ) : Except Failure α × Scene σ :=
  match refusal? s.refusals access mailbox with
  | some failure => (.error failure, s)
  | none => effect s

/-- Asks the service and takes over what it notes. -/
def served (s : Scene σ) (question : StateM σ (Answered α)) : Except Failure α × Scene σ :=
  let ((result, notes), service) := question s.service
  (result, { s with service := service, notes := notes.reverse ++ s.notes })

/-- Answers a call. -/
def answer (m : MailService (StateM σ)) (c : Call) (s : Scene σ) : c.Reply × Scene σ :=
  match c with
  | .clock => (s.now, s)
  | .note n => ((), { s with notes := n :: s.notes })
  | .readInstant mailbox =>
    (s.record c).guarded .readInstant mailbox fun s => (s.store.readInstant mailbox, s)
  | .writeInstant mailbox instant =>
    (s.record c).guarded .writeInstant mailbox fun s =>
      (.ok (), { s with store := s.store.writeInstant mailbox instant })
  | .readToken mailbox folder =>
    (s.record c).guarded .readToken mailbox fun s => (.ok (s.store.readToken mailbox folder), s)
  | .writeToken mailbox folder token =>
    (s.record c).guarded .writeToken mailbox fun s =>
      (.ok (), { s with store := s.store.writeToken mailbox folder token })
  | .listFolders mailbox parent => (s.record c).served (m.listFolders mailbox parent)
  | .listItems request => (s.record c).served (m.listItems request)
  | .fetchItems mailbox ids => (s.record c).served (m.fetchItems mailbox ids)
  | .store r =>
    let (result, sink) := s.sink.store r
    (result, { s.record c with sink := sink })
  | .flush =>
    let (result, sink) := s.sink.flush
    (result, { s.record c with sink := sink })

/-- The world of a scene. -/
def world (m : MailService (StateM σ)) : World (Scene σ) := ⟨answer m⟩

/-- The calls since they were last asked for, in order, and the scene without them. -/
def takeCalls (s : Scene σ) : List Call × Scene σ :=
  (s.calls.reverse, { s with calls := [] })

end Scene

end MailCollector.Rehearsal
