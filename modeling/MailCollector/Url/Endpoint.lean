import MailCollector.Failure
import MailCollector.Text.Blank
import MailCollector.Url.Host

/-!
# Endpoints

An endpoint is the absolute address of a web server. An address is read generously: blanks around
it, tabs and line breaks in it, the number of slashes, the direction of slashes and the case of
scheme and host do not count. What remains has to have a scheme, a sound host and a sound port. Only
then is the scheme held against the two that web servers have.
-/

namespace MailCollector.Url

open MailCollector.Text

/-- The address of a web server. Its parts are kept as they are written in requests. -/
structure Endpoint where
  secure : Bool
  username : List Char := []
  password : List Char := []
  host : Host
  /-- The port, if it is not the usual one. -/
  port : Option Nat := none
  /-- The path, which begins with a slash. -/
  path : List Char
  query : Option (List Char) := none
deriving DecidableEq, Repr

/-! ### Schemes -/

/-- How the rest of an address is read, given its scheme. -/
inductive Kind where
  /-- The address of a web server. -/
  | web (secure : Bool)
  /-- An address with a host that is read in the same way. -/
  | similar
  | file
  | other
deriving DecidableEq

/-- The kind of a scheme in lower case. -/
def Kind.ofScheme (scheme : String) : Kind :=
  match scheme with
  | "http" => .web false
  | "https" => .web true
  | "ws" | "wss" | "ftp" => .similar
  | "file" => .file
  | _ => .other

/-- The text without blanks and control characters around it and without tabs and line breaks in
it. -/
def tidy (cs : List Char) : List Char :=
  (trim (fun c => c.toNat ≤ 0x20) cs).filter fun c => !(c ∈ ['\t', '\n', '\r'])

/-- Whether a character is an ASCII letter. -/
def isLetter (c : Char) : Bool :=
  let n := c.toLower.toNat
  97 ≤ n && n ≤ 122

/-- Whether a character may stand in a scheme after its first one. -/
def isSchemeChar (c : Char) : Bool :=
  isLetter c || (digitValue? c).isSome || c ∈ ['+', '-', '.']

/-- Splits the scheme off, in lower case. -/
def splitScheme? : List Char → Option (String × List Char)
  | [] => none
  | c :: cs =>
    if isLetter c then
      match cs.dropWhile isSchemeChar with
      | ':' :: rest =>
        some (String.ofList ((c :: cs.takeWhile isSchemeChar).map Char.toLower), rest)
      | _ => none
    else none

/-! ### User, host and port -/

/-- Whether a character ends the part of an address that names the host. -/
def endsAuthority (backslash : Bool) (c : Char) : Bool :=
  c == '/' || c == '?' || c == '#' || (backslash && c == '\\')

/-- Splits the port off a host. A colon between brackets belongs to the host. -/
def splitPort (inBrackets : Bool) : List Char → List Char × Option (List Char)
  | [] => ([], none)
  | c :: cs =>
    if c = ':' ∧ !inBrackets then ([], some cs)
    else
      let (host, port) :=
        splitPort (if c = '[' then true else if c = ']' then false else inBrackets) cs
      (c :: host, port)

/-- Reads a port, which a backslash ends. Nothing after the colon is no port. -/
def port? (cs : List Char) : Option (Option Nat) :=
  let digits := cs.takeWhile (· != '\\')
  if digits.isEmpty then some none
  else ((readDigits 0 digits).filter (· ≤ 65535)).map some

/-- The parts that name a host. -/
structure Authority where
  username : List Char := []
  password : List Char := []
  host : List Char
  port : Option Nat := none

/-- Reads user, host and port. Without a host there is neither a user nor a port; the sign that ends
a user may stand there all the same, but if it stands alone then nothing may follow it, not even
a path. -/
def authority? (cs : List Char) (pathFollows : Bool) : Option Authority := do
  let (user, rest) := match splitAtLast? '@' cs with
    | some (user, rest) => (some user, rest)
    | none => (none, cs)
  let (host, digits) := splitPort false rest
  let port ← port? (digits.getD [])
  let username := (user.getD []).takeWhile (· != ':')
  let password := ((user.getD []).dropWhile (· != ':')).drop 1
  let isBare := username.isEmpty && password.isEmpty && digits.isNone
  if host.isEmpty && (!isBare || (user == some [] && pathFollows)) then none
  else some { username := username, password := password, host := host, port := port }

/-- Reads user, host and port up to where they end. -/
def leadingAuthority? (backslash : Bool) (cs : List Char) : Option Authority :=
  let ends := endsAuthority backslash
  authority? (cs.takeWhile fun c => !ends c) (cs.any ends)

/-! ### Path and query -/

/-- Whether a segment of a path means the place itself. -/
def isHere (segment : List Char) : Bool :=
  String.ofList (segment.map Char.toLower) ∈ [".", "%2e"]

/-- Whether a segment of a path means the place above. -/
def isAbove (segment : List Char) : Bool :=
  String.ofList (segment.map Char.toLower) ∈ ["..", ".%2e", "%2e.", "%2e%2e"]

/-- Follows the segments of a path from the place reached so far, whose segments are given with the
last one first. -/
def follow (reached : List (List Char)) : List (List Char) → List (List Char)
  | [] => reached.reverse
  | [last] =>
    if isAbove last then ([] :: reached.drop 1).reverse
    else if isHere last then ([] :: reached).reverse
    else (last :: reached).reverse
  | segment :: segments =>
    if isAbove segment then follow (reached.drop 1) segments
    else if isHere segment then follow reached segments
    else follow (segment :: reached) segments

/-- The path of a web address as written, given what follows the host. -/
def webPath (cs : List Char) : List Char :=
  let slashed := cs.map fun c => if c = '\\' then '/' else c
  let segments := splitAt '/' (match slashed with
    | '/' :: rest => rest
    | rest => rest)
  (follow [] segments).flatMap fun s => '/' :: percentEncode inPathSet s

/-! ### Addresses -/

/-- The port of a web server that is not written. -/
def usualPort (secure : Bool) : Nat := if secure then 443 else 80

/-- Reads what follows the scheme of a web server. -/
def readWeb? (secure : Bool) (cs : List Char) : Option Endpoint := do
  let rest := cs.dropWhile fun c => c == '/' || c == '\\'
  let parts ← leadingAuthority? true rest
  let host ← host? parts.host
  let (beforeFragment, _) := splitOff '#' (rest.dropWhile fun c => !endsAuthority true c)
  let (path, query) := splitOff '?' beforeFragment
  some
    { secure := secure
      username := percentEncode inUserSet parts.username
      password := percentEncode inUserSet parts.password
      host := host
      port := parts.port.filter (· != usualPort secure)
      path := webPath path
      query := query.map (percentEncode inQuerySet) }

/-- Whether what follows the scheme of a file is sound. A drive letter is no host. -/
def isFileAddress (cs : List Char) : Bool :=
  match cs with
  | a :: b :: rest =>
    let isSlash := fun c => c == '/' || c == '\\'
    if isSlash a && isSlash b then
      let host := rest.takeWhile fun c => !endsAuthority true c
      match host with
      | [] => true
      | [letter, mark] =>
        (isLetter letter && (mark == ':' || mark == '|')) || (host? host).isSome
      | _ => (host? host).isSome
    else true
  | _ => true

/-- Whether what follows a scheme that is not that of a web server is sound. -/
def isSound (kind : Kind) (cs : List Char) : Bool :=
  match kind with
  | .web secure => (readWeb? secure cs).isSome
  | .similar =>
    match leadingAuthority? true (cs.dropWhile fun c => c == '/' || c == '\\') with
    | some parts => (host? parts.host).isSome
    | none => false
  | .file => isFileAddress cs
  | .other =>
    match cs with
    | '/' :: '/' :: rest =>
      match leadingAuthority? false rest with
      | some parts => isOpaqueHost parts.host
      | none => false
    | _ => true

namespace Endpoint

/-- Reads the address of a web server. -/
def parse (text : String) : Except Cause Endpoint :=
  match splitScheme? (tidy text.toList) with
  | none => .error (.invalidEndpoint text)
  | some (scheme, rest) =>
    match Kind.ofScheme scheme with
    | .web secure =>
      match readWeb? secure rest with
      | some endpoint => .ok endpoint
      | none => .error (.invalidEndpoint text)
    | kind =>
      if isSound kind rest then .error (.endpointNotHttp text)
      else .error (.invalidEndpoint text)

/-- The user part as written. -/
def userText (e : Endpoint) : List Char :=
  if e.username.isEmpty ∧ e.password.isEmpty then []
  else
    e.username ++ (if e.password.isEmpty then [] else ':' :: e.password) ++ ['@']

/-- The address as written. -/
def text (e : Endpoint) : String :=
  String.ofList <|
    (if e.secure then "https://".toList else "http://".toList) ++ e.userText ++ e.host.text ++
    (match e.port with
      | some port => ':' :: decimal port
      | none => []) ++
    e.path ++
    (match e.query with
      | some query => '?' :: query
      | none => [])

end Endpoint

end MailCollector.Url
