import MailCollector.Checkpoint.Store
import MailCollector.Json.Value
import MailCollector.Text.Utf8

/-!
# Rows of checkpoints as a file

Rows are kept between runs as one JSON array of two arrays: a pair for each instant, and a triple
for each token. An empty file has no rows.
-/

namespace MailCollector.Checkpoint.Rows

open MailCollector.Json MailCollector.Text

/-- The JSON value of rows. -/
def toJson (r : Rows) : Value :=
  .array
    [ .array (r.instants.entries.map fun e => .array [.string e.1, .string e.2]),
      .array (r.tokens.entries.map fun e =>
        .array [.string e.1.1, .string e.1.2, .string e.2]) ]

/-- The contents of a file of rows. -/
def bytes (r : Rows) : List UInt8 := Utf8.encode r.toJson.chars

/-- Reads the pair of an instant. -/
def instantRow? : Value → Option (String × String)
  | .array [.string mailbox, .string instant] => some (mailbox, instant)
  | _ => none

/-- Reads the triple of a token. -/
def tokenRow? : Value → Option ((String × String) × String)
  | .array [.string mailbox, .string folder, .string token] => some ((mailbox, folder), token)
  | _ => none

/-- Reads the JSON value of rows. -/
def ofJson? : Value → Option Rows
  | .array [.array instants, .array tokens] => do
    let instants ← instants.mapM instantRow?
    let tokens ← tokens.mapM tokenRow?
    pure { instants := ⟨instants⟩, tokens := ⟨tokens⟩ }
  | _ => none

/-- Reads the contents of a file of rows. -/
def ofBytes? : List UInt8 → Option Rows
  | [] => some {}
  | bytes => do
    let text ← Utf8.decode? bytes
    let value ← (Decode.text Value.decode (String.ofList text)).toOption
    ofJson? value

end MailCollector.Checkpoint.Rows
