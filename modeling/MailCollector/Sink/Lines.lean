import MailCollector.Json.Value
import MailCollector.Mail.Record
import MailCollector.Text.Utf8
import MailCollector.Failure

/-!
# Records as lines of JSON

Each record becomes one line, an object of its headers. The lines go to a writer that may run full:
it accepts bytes up to its limit, refuses the first byte beyond it, and accepts nothing afterwards.
A record counts as stored once its whole line, line feed included, has been accepted.
-/

namespace MailCollector.Sink

open MailCollector.Mail MailCollector.Text

/-- Something that accepts bytes. -/
structure Writer where
  accepted : List UInt8 := []
  /-- The number of bytes accepted in all, if it is limited. -/
  limit : Option Nat := none
  refusesFlush : Bool := false
deriving DecidableEq, Repr

namespace Writer

/-- Writes bytes as far as they fit, and tells whether all of them did. -/
def write (w : Writer) (bytes : List UInt8) : Bool × Writer :=
  match w.limit with
  | none => (true, { w with accepted := w.accepted ++ bytes })
  | some limit =>
    let fitting := bytes.take (limit - w.accepted.length)
    (fitting.length == bytes.length, { w with accepted := w.accepted ++ fitting })

end Writer

/-- The line feed that ends a line. -/
def lineFeed : UInt8 := 0x0A

/-- The JSON text of a record. -/
def recordText (r : Record) : List Char :=
  Json.stringMembersText r.headers

/-- The line of a record. -/
def lineOf (r : Record) : List UInt8 :=
  Utf8.encode (recordText r) ++ [lineFeed]

/-- Writes the line of a record. The object and the line feed are written one after the other, and
either of them may be refused. -/
def writeLine {m : Type → Type} [Monad m] (write : List UInt8 → m Bool) (r : Record) :
    m (Except Failure Unit) := do
  if ← write (Utf8.encode (recordText r)) then
    if ← write [lineFeed] then pure (.ok ())
    else pure (.error ⟨[.endingRecord], .system⟩)
  else pure (.error ⟨[.writingRecord], .system⟩)

/-- The result of flushing what was written. -/
def flushed (done : Bool) : Except Failure Unit :=
  if done then .ok () else .error ⟨[.flushingOutput], .system⟩

/-- A sink that writes lines. -/
structure Lines where
  writer : Writer := {}
  /-- The number of records stored. -/
  stored : Nat := 0
deriving DecidableEq, Repr

namespace Lines

/-- Writes the line of a record, which is stored if no part of the line was refused. -/
def store (s : Lines) (r : Record) : Except Failure Unit × Lines :=
  let write : List UInt8 → StateM Writer Bool := fun bytes w => w.write bytes
  match (writeLine write r).run s.writer with
  | (.error failure, w) => (.error failure, { s with writer := w })
  | (.ok (), w) => (.ok (), ⟨w, s.stored + 1⟩)

/-- Makes the lines durable. -/
def flush (s : Lines) : Except Failure Unit := flushed !s.writer.refusesFlush

/-- The accepted bytes up to the end of the last whole line. -/
def wholeLines (s : Lines) : List UInt8 :=
  (s.writer.accepted.reverse.dropWhile (· != lineFeed)).reverse

/-- The whole lines as text. -/
def text (s : Lines) : String :=
  String.ofList (Utf8.decodeMarking '\uFFFD' s.wholeLines)

end Lines

end MailCollector.Sink
