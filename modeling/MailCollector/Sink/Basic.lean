import MailCollector.Sink.Lines

/-!
# Sinks for records

A sink stores records in the order of the crawl and can be told to make them durable. Records are
either kept as they are or written as lines of JSON.
-/

namespace MailCollector

open MailCollector.Mail

namespace Sink

/-- Records that are kept as they are. -/
structure Kept where
  /-- The records, the latest first. -/
  latestFirst : List Record := []
  flushes : Nat := 0
deriving DecidableEq

namespace Kept

/-- The records in the order in which they were stored. -/
def records (k : Kept) : List Record := k.latestFirst.reverse

/-- Keeps one more record. -/
def store (k : Kept) (r : Record) : Kept := { k with latestFirst := r :: k.latestFirst }

/-- Counts one more flush. -/
def flush (k : Kept) : Kept := { k with flushes := k.flushes + 1 }

end Kept

end Sink

/-- A destination for records. -/
inductive Sink where
  | kept (records : Sink.Kept)
  | lines (out : Sink.Lines)

namespace Sink

/-- Stores a record. -/
def store (s : Sink) (r : Record) : Except Failure Unit × Sink :=
  match s with
  | kept k => (.ok (), kept (k.store r))
  | lines out => let (result, out) := out.store r; (result, lines out)

/-- Makes the stored records durable. -/
def flush (s : Sink) : Except Failure Unit × Sink :=
  match s with
  | kept k => (.ok (), kept k.flush)
  | lines out => (out.flush, lines out)

end Sink

end MailCollector
