import MailCollector.Checkpoint.Location
import MailCollector.Checkpoint.Written
import MailCollector.Machine

/-!
# Checkpoints of a run

A run keeps its checkpoints in a file of rows, or forgets them. The file is written anew with every
checkpoint, and a checkpoint that could not be written is taken back.
-/

namespace MailCollector.Checkpoint

open MailCollector.Calendar MailCollector.Mail

/-- The checkpoints of a run and their file, if they have one. -/
structure Ledger where
  store : Store
  /-- The absolute path of the file. -/
  file : Option String := none
  /-- Whether the file stays as it is. -/
  isUnchanged : Bool := false
deriving DecidableEq

namespace Ledger

variable {m : Type → Type} [Monad m]

/-- A ledger that forgets everything. -/
def forgetful : Ledger := { store := .forgetful }

/-- A ledger that ends with the run. -/
def passing : Ledger := { store := .newRows }

/-- Begins a file of rows. -/
def begun? (machine : Machine m) (file : String) : m (Option (List UInt8)) := do
  let bytes := Rows.bytes {}
  if ← machine.replace file bytes then pure (some bytes) else pure none

/-- The contents of a file. One that is empty or not there is begun, as far as it may be changed. -/
def contents? (machine : Machine m) (location : Location) (file : String) :
    m (Option (List UInt8)) := do
  match ← machine.read file with
  | some [] => if location.isUnchanged then pure (some []) else begun? machine file
  | some bytes => pure (some bytes)
  | none =>
    if location.opening ≠ .created then pure none
    else if location.isFixed then
      pure (if ← machine.replace file [] then some [] else none)
    else begun? machine file

/-- The ledger of some contents. Rows cannot be begun in an empty file that stays as it is. -/
def ofContents (location : Location) (file : String) (bytes : List UInt8) :
    Except Failure Ledger :=
  match Rows.ofBytes? bytes with
  | none => .error ⟨[], .damagedCheckpoints⟩
  | some rows =>
    if !bytes.isEmpty then
      .ok { store := .rows rows, file := some file, isUnchanged := location.isUnchanged }
    else if location.isFixed then .error ⟨[.preparingCheckpoints], .unchangeableCheckpoints⟩
    else .error ⟨[], .unchangeableCheckpoints⟩

/-- Opens the ledger at a place. -/
def openAt (machine : Machine m) (place : String) : m (Except Failure Ledger) := do
  let refused : Except Failure Ledger := .error ⟨[.openingCheckpoints place], .system⟩
  match Location.parse? place with
  | none => pure refused
  | some location =>
    if location.isPassing then
      pure (if location.isUnchanged then
          .error ⟨[.preparingCheckpoints], .unchangeableCheckpoints⟩
        else .ok passing)
    else
      match location.file? (← machine.workingDirectory) with
      | none => pure refused
      | some file =>
        match ← contents? machine location file with
        | none => pure refused
        | some bytes => pure (ofContents location file bytes)

/-- Goes over to a changed store if its rows can be kept. -/
def update (l : Ledger) (machine : Machine m) (s : Store) : m (Except Failure Unit × Ledger) := do
  match l.file, s with
  | some file, .rows kept => do
    if l.isUnchanged then pure (.error ⟨[], .unchangeableCheckpoints⟩, l)
    else if ← machine.replace file kept.bytes then pure (.ok (), { l with store := s })
    else pure (.error ⟨[], .system⟩, l)
  | _, _ => pure (.ok (), { l with store := s })

/-- Sets the instant of a mailbox. -/
def writeInstant (l : Ledger) (machine : Machine m) (mailbox : String) (instant : Instant) :
    m (Except Failure Unit × Ledger) :=
  l.update machine (l.store.writeInstant mailbox instant)

/-- Sets the token of a folder. -/
def writeToken (l : Ledger) (machine : Machine m) (mailbox : String) (folder : FolderId)
    (token : String) : m (Except Failure Unit × Ledger) :=
  l.update machine (l.store.writeToken mailbox folder token)

end Ledger

end MailCollector.Checkpoint
