import MailCollector.Log.Note
import MailCollector.Mail.Listing
import MailCollector.Mail.Record

/-!
# Programs of calls

Crawling talks to three collaborators, a mail service, a store of checkpoints and a sink for
records, and it reads the clock and writes to the log. Each such interaction is a value, a `Call`
with its own type of reply, and a computation that makes calls is a finite tree of them, a
`Program`. A program does nothing by itself. A `World` answers the calls; running a program in a
world gives its result together with the trace of the calls it made. The same program can
therefore be run against a script, against a real server, or be reasoned about for every world.
-/

namespace MailCollector.Crawl

open MailCollector.Calendar MailCollector.Mail MailCollector.Log

/-- One interaction with the outside. -/
inductive Call where
  | clock
  | readInstant (mailbox : String)
  | writeInstant (mailbox : String) (instant : Instant)
  | readToken (mailbox : String) (folder : FolderId)
  | writeToken (mailbox : String) (folder : FolderId) (token : String)
  | listFolders (mailbox : String) (parent : FolderId)
  | listItems (request : PageRequest)
  | fetchItems (mailbox : String) (ids : List ItemId)
  | store (record : Record)
  | flush
  | note (note : Note)
deriving DecidableEq

/-- What a call is answered with. The clock and the log do not fail. -/
abbrev Call.Reply : Call → Type
  | clock => Instant
  | readInstant _ => Except Failure (Option Instant)
  | writeInstant _ _ => Except Failure Unit
  | readToken _ _ => Except Failure (Option String)
  | writeToken _ _ _ => Except Failure Unit
  | listFolders _ _ => Except Failure (List FolderId)
  | listItems _ => Except Failure IdPage
  | fetchItems _ _ => Except Failure (List Item)
  | store _ => Except Failure Unit
  | flush => Except Failure Unit
  | note _ => Unit

/-- The mailbox that a call is about, if it is about one. -/
def Call.mailbox? : Call → Option String
  | readInstant mailbox | writeInstant mailbox _ | readToken mailbox _ | writeToken mailbox _ _
  | listFolders mailbox _ | fetchItems mailbox _ => some mailbox
  | listItems request => some request.mailbox
  | clock | store _ | flush | note _ => none

/-- What brings a whole run down, without any failure to report. -/
inductive Crash where
  /-- The date line of an item cannot be written. -/
  | unwritableDate (item : ItemId)
deriving DecidableEq

/-- A computation that makes calls and ends with a result or a crash. -/
inductive Program (α : Type) where
  | done (result : α)
  | crash (reason : Crash)
  | call (c : Call) (resume : c.Reply → Program α)

namespace Program

/-- Goes on with the result of a program. -/
def bind : Program α → (α → Program β) → Program β
  | done a, f => f a
  | crash reason, _ => crash reason
  | call c resume, f => call c fun reply => (resume reply).bind f

instance : Monad Program where
  pure := done
  bind := bind

/-- The program of a single call. -/
def ask (c : Call) : Program c.Reply := call c done

/-- The program that writes one note to the log. -/
def note (n : Note) : Program Unit := call (.note n) done

end Program

/-- A call together with its reply. -/
abbrev Event := (c : Call) × c.Reply

/-- Something that answers calls, changing its own state as it does. -/
structure World (σ : Type) where
  answer : (c : Call) → σ → c.Reply × σ

namespace Program

/-- Runs a program: its result or crash, and the state of the world afterwards. -/
def run (world : World σ) : Program α → σ → Except Crash α × σ
  | done a, s => (.ok a, s)
  | crash reason, s => (.error reason, s)
  | call c resume, s =>
    let (reply, s) := world.answer c s
    (resume reply).run world s

/-- Runs a program with calls that are answered in a monad. -/
def perform {m : Type → Type} [Monad m] (answer : (c : Call) → m c.Reply) :
    Program α → m (Except Crash α)
  | done a => pure (.ok a)
  | crash reason => pure (.error reason)
  | call c resume => do
    let reply ← answer c
    (resume reply).perform answer

/-- The calls that a program makes, with the replies it gets. -/
def trace (world : World σ) : Program α → σ → List Event
  | done _, _ => []
  | crash _, _ => []
  | call c resume, s =>
    let (reply, s) := world.answer c s
    ⟨c, reply⟩ :: (resume reply).trace world s

end Program

end MailCollector.Crawl
