import MailCollector.Files.Path
import MailCollector.Text.Utf8
import MailCollector.Url.Percent

/-!
# Where checkpoints are kept

The place of checkpoints is given by the path of a file, or by an address that begins with `file:`.
An address may name the machine itself as its host, has percent-encoded characters, and may have
options that say how the file is to be opened. Checkpoints without a path, or with the path
`:memory:`, end with the run.
-/

namespace MailCollector.Checkpoint

open MailCollector.Files MailCollector.Text MailCollector.Url

/-- How a file of checkpoints is opened. -/
inductive Opening where
  /-- It is there already and may only be read. -/
  | read
  /-- It is there already. -/
  | existing
  /-- It is begun if it is not there. -/
  | created
deriving DecidableEq, Repr

namespace Opening

/-- The names of the ways to open a file. -/
def ofName? (name : String) : Option Opening :=
  [("ro", read), ("rw", existing), ("rwc", created)].lookup name

/-- The rank of a way to open a file. An option may ask for no higher one than was asked for
before. -/
def rank : Opening → Nat
  | read => 0
  | existing => 1
  | created => 2

end Opening

/-- The place of checkpoints. -/
structure Location where
  path : String
  opening : Opening := .created
  /-- Whether there is no file, whatever the path. -/
  isHeld : Bool := false
  /-- Whether nothing changes the file, which then stays as it is. -/
  isFixed : Bool := false
deriving DecidableEq, Repr

namespace Location

/-- The longest path of a file of checkpoints, in bytes. -/
def maxSize : Nat := 504

/-- Whether the checkpoints at a place end with the run. -/
def isPassing (l : Location) : Bool :=
  l.isHeld || l.path ∈ ["", ":memory:"]

/-- Whether the checkpoints at a place stay as they are. -/
def isUnchanged (l : Location) : Bool :=
  l.opening == .read || (l.isFixed && !l.isPassing)

/-- The shortest absolute path of the file, given the directory from which relative paths begin. -/
def file? (l : Location) (workingDirectory : String) : Option String :=
  let path := simplified (join workingDirectory l.path)
  if maxSize < path.utf8ByteSize then none else some path

/-! ### Addresses -/

/-- What percent-encoded characters stand for, up to a character zero. -/
def decoded (cs : List Char) : String :=
  String.ofList (Utf8.decodeMarking '\uFFFD' ((percentDecode cs).takeWhile (· != 0)))

/-- Drops the host of an address, which may only be the machine itself. -/
def withoutHost? : List Char → Option (List Char)
  | '/' :: '/' :: cs =>
    let host := String.ofList (cs.takeWhile (· != '/'))
    if host ∈ ["", "localhost"] then some (cs.dropWhile (· != '/')) else none
  | cs => some cs

/-- The name and the value of an option. -/
def option (cs : List Char) : String × String :=
  let (name, value) := splitOff '=' cs
  (decoded name, decoded (value.getD []))

/-- The value of the last option of a name. -/
def last? (name : String) (options : List (String × String)) : Option String :=
  (options.filter (·.1 = name)).getLast?.map (·.2)

/-- The ways to deal with files that can be asked for by name, and whether one does without a
file. -/
def fileSystem? (name : String) : Option Bool :=
  [ ("unix", false), ("unix-dotfile", false), ("unix-excl", false), ("unix-none", false),
    ("memdb", true) ].lookup name

/-- Whether the value of an option means that it is on. -/
def isOn (value : String) : Bool :=
  let digits := value.toList.takeWhile Char.isDigit
  if digits.isEmpty then String.ofList (value.toList.map Char.toLower) ∈ ["on", "yes", "true"]
  else digits.any (· != '0')

/-- Follows an option about the way to open a file. After doing without a file any way may be asked
for. -/
def follow (l : Location) (option : String × String) : Option Location :=
  match option with
  | ("mode", "memory") => some { l with opening := .created, isHeld := true }
  | ("mode", name) => do
    let opening ← Opening.ofName? name
    if l.isHeld ∨ opening.rank ≤ l.opening.rank then
      some { l with opening := opening, isHeld := false }
    else none
  | ("cache", value) => if value ∈ ["shared", "private"] then some l else none
  | _ => some l

/-- Reads what follows `file:` in an address. Unknown options and those without a name mean
nothing. -/
def ofAddress? (cs : List Char) : Option Location := do
  let rest ← withoutHost? cs
  let (path, options) := splitOff '?' (splitOff '#' rest).1
  let options := ((options.map (splitAt '&')).getD []).map option
  let location ← options.foldlM follow { path := decoded path }
  let isHeld ← fileSystem? ((last? "vfs" options).getD "unix")
  some { location with
    isHeld := location.isHeld || isHeld
    isFixed := ((options.lookup "immutable").map isOn).getD false }

/-- Reads the place of checkpoints. The character zero stands in no place. -/
def parse? (text : String) : Option Location :=
  if text.toList.contains '\x00' then none
  else
    match text.toList with
    | 'f' :: 'i' :: 'l' :: 'e' :: ':' :: address => ofAddress? address
    | _ => some { path := text }

end Location

end MailCollector.Checkpoint
