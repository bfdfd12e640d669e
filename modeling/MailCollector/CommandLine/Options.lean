import MailCollector.Crawl.Config

/-!
# Options of the command line

A command line is read from left to right. An option has a long name after two dashes, and a few
have a letter after one dash, where several letters may share the dash. The value of an option
follows an equals sign or is the next argument, which must then not look like an option itself. Only
the option for mailboxes may be given more than once. A demand for help or for the version is
granted as soon as it is met, and nothing after it is looked at.
-/

namespace MailCollector.CommandLine

open MailCollector.Crawl

/-- What the command line says about a run. -/
structure Options where
  /-- The path of the settings, if not the usual one. -/
  settings : Option String := none
  /-- The path to write records to, if not to standard output. -/
  output : Option String := none
  /-- The mailboxes to crawl. If there are any, those of the settings do not count. -/
  mailboxes : List String := []
  stateless : Bool := false
  mode : Option Mode := none
  verbose : Bool := false
deriving DecidableEq, Repr

/-- What is wrong with a command line. -/
inductive Misuse where
  | unknownOption (name : String)
  | unexpectedArgument (argument : String)
  | repeated (name : String)
  | missingValue (name : String)
  | unexpectedValue (name : String)
  | invalidValue (name value : String)
deriving DecidableEq, Repr

/-- The text of a misuse. -/
def Misuse.message : Misuse → String
  | unknownOption name => "unknown option " ++ name
  | unexpectedArgument argument => "unexpected argument " ++ argument
  | repeated name => name ++ " can be given only once"
  | missingValue name => name ++ " needs a value"
  | unexpectedValue name => name ++ " takes no value"
  | invalidValue name value => name ++ " cannot be " ++ value

/-- What a command line asks for. -/
inductive Demand where
  | collect (options : Options)
  | help
  | version
deriving DecidableEq, Repr

/-! ### Arguments -/

/-- What an argument looks like. -/
inductive Shape where
  /-- Two dashes alone, after which there are no options. -/
  | separator
  | long (name : String) (value : Option String)
  | short (letters : List Char)
  | plain
deriving DecidableEq, Repr

/-- Tells what an argument looks like. A dash alone is nothing special. -/
def Shape.of (argument : String) : Shape :=
  match argument.toList with
  | ['-', '-'] => separator
  | '-' :: '-' :: name =>
    let value :=
      match name.dropWhile (· != '=') with
      | [] => none
      | _ :: value => some (String.ofList value)
    long (String.ofList (name.takeWhile (· != '='))) value
  | '-' :: c :: letters => short (c :: letters)
  | _ => plain

/-! ### Single options -/

/-- An option without a value. -/
inductive Switch where
  | stateless
  | verbose
  | help
  | version
deriving DecidableEq, Repr

/-- An option with a value. -/
inductive Parameter where
  | config
  | output
  | mailbox
  | mode
deriving DecidableEq, Repr

/-- The options without a value by their long names. -/
def switchNames : List (String × Switch) :=
  [("stateless", .stateless), ("verbose", .verbose), ("help", .help), ("version", .version)]

/-- The options without a value by their letters. -/
def switchLetters : List (Char × Switch) :=
  [('v', .verbose), ('h', .help), ('V', .version)]

/-- The options with a value by their names. -/
def parameterNames : List (String × Parameter) :=
  [("config", .config), ("output", .output), ("mailbox", .mailbox), ("mode", .mode)]

/-- Turns a switch, which either changes the options or grants a demand at once. -/
def Options.turn (o : Options) (name : String) :
    Switch → Except Misuse (Options ⊕ Demand)
  | .stateless =>
    if o.stateless then .error (.repeated name) else .ok (.inl { o with stateless := true })
  | .verbose =>
    if o.verbose then .error (.repeated name) else .ok (.inl { o with verbose := true })
  | .help => .ok (.inr .help)
  | .version => .ok (.inr .version)

/-- A path that is given once. -/
def path (name : String) (earlier : Option String) (value : String) : Except Misuse String :=
  if earlier.isSome then .error (.repeated name)
  else if value.isEmpty then .error (.missingValue name)
  else .ok value

/-- Sets an option to a value. -/
def Options.set (o : Options) (name : String) (p : Parameter) (value : String) :
    Except Misuse Options :=
  match p with
  | .config => (path name o.settings value).map fun value => { o with settings := some value }
  | .output => (path name o.output value).map fun value => { o with output := some value }
  | .mailbox => .ok { o with mailboxes := o.mailboxes ++ [value] }
  | .mode =>
    if o.mode.isSome then .error (.repeated name)
    else
      match Mode.all.find? fun m => m.name == value with
      | some mode => .ok { o with mode := some mode }
      | none => .error (.invalidValue name value)

/-- Turns the switches of several letters. -/
def Options.turnLetters (o : Options) : List Char → Except Misuse (Options ⊕ Demand)
  | [] => .ok (.inl o)
  | c :: cs =>
    let name := "-" ++ c.toString
    match switchLetters.lookup c with
    | none => .error (.unknownOption name)
    | some switch => do
      match ← o.turn name switch with
      | .inl o => o.turnLetters cs
      | .inr demand => .ok (.inr demand)

/-! ### Whole command lines -/

/-- Reads the arguments that follow others. Those have led to the given options, and the last of
them may be waiting for its value. -/
def Options.read (o : Options) (waiting : Option (String × Parameter)) :
    List String → Except Misuse Demand
  | [] =>
    match waiting with
    | none => .ok (.collect o)
    | some (name, _) => .error (.missingValue name)
  | argument :: rest =>
    match waiting, Shape.of argument with
    | some (name, p), .plain => do
      let o ← o.set name p argument
      o.read none rest
    | some (name, _), _ => .error (.missingValue name)
    | none, .plain => .error (.unexpectedArgument argument)
    | none, .separator =>
      match rest with
      | [] => .ok (.collect o)
      | extra :: _ => .error (.unexpectedArgument extra)
    | none, .short letters => do
      match ← o.turnLetters letters with
      | .inl o => o.read none rest
      | .inr demand => .ok demand
    | none, .long name value =>
      let shown := "--" ++ name
      match switchNames.lookup name, parameterNames.lookup name, value with
      | some _, _, some _ => .error (.unexpectedValue shown)
      | some switch, _, none => do
        match ← o.turn shown switch with
        | .inl o => o.read none rest
        | .inr demand => .ok demand
      | none, some p, some value => do
        let o ← o.set shown p value
        o.read none rest
      | none, some p, none => o.read (some (shown, p)) rest
      | none, none, _ => .error (.unknownOption shown)

/-- Reads a command line. -/
def parse (arguments : List String) : Except Misuse Demand :=
  ({} : Options).read none arguments

end MailCollector.CommandLine
