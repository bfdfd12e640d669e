import MailCollector.Crawl.Config
import MailCollector.Ews.Client
import MailCollector.Json.Decode

/-!
# Settings

Settings name the server, how to identify oneself to it, which mailboxes to crawl and how.
Everything but the server has a default. They are stored as a JSON object, where members that mean
nothing are passed over, or as an array of the values in their order. A member that is given twice
is refused as soon as its second name is met.
-/

namespace MailCollector

open MailCollector.Crawl MailCollector.Ews MailCollector.Json MailCollector.Text

/-- The settings of a run. -/
structure Settings where
  endpoint : String
  username : Option String := none
  password : Option String := none
  /-- A token that stands in for user name and password. -/
  accessToken : Option String := none
  impersonate : Bool := true
  mailboxes : List String := []
  idPageSize : Int := 100
  detailPageSize : Int := 50
  mode : Mode := .syncToken
  /-- The path of the checkpoint store, if it is not the usual one. -/
  checkpoints : Option String := none
  timeoutSeconds : Nat := 60
deriving DecidableEq

namespace Settings

/-! ### Stored settings -/

/-- Settings of which some members have been read. -/
structure Draft where
  endpoint : Option String := none
  username : Option (Option String) := none
  password : Option (Option String) := none
  accessToken : Option (Option String) := none
  impersonate : Option Bool := none
  mailboxes : Option (List String) := none
  idPageSize : Option Int := none
  detailPageSize : Option Int := none
  mode : Option Mode := none
  checkpoints : Option (Option String) := none
  timeoutSeconds : Option Nat := none

/-- The settings of a draft, unless it lacks the server. What else is missing has its default. -/
def Draft.finish (d : Draft) (lacking : Error) : Except Error Settings :=
  match d.endpoint with
  | none => .error lacking
  | some endpoint =>
    .ok
      { endpoint := endpoint
        username := d.username.join
        password := d.password.join
        accessToken := d.accessToken.join
        impersonate := d.impersonate.getD true
        mailboxes := d.mailboxes.getD []
        idPageSize := d.idPageSize.getD 100
        detailPageSize := d.detailPageSize.getD 50
        mode := d.mode.getD .syncToken
        checkpoints := d.checkpoints.join
        timeoutSeconds := d.timeoutSeconds.getD 60 }

/-- One member of stored settings. -/
structure Field where
  name : String
  isSet : Draft → Bool
  read : Document → Draft → Except Error Draft

/-- A member from where its value is kept and how it is read. -/
def field {α : Type} (name : String) (decode : Decoder α) (get : Draft → Option α)
    (set : Draft → α → Draft) : Field where
  name := name
  isSet d := (get d).isSome
  read document d := (decode document).map (set d)

/-- The members of stored settings, in their order. -/
def fields : List Field :=
  [ field "endpoint" Decode.string (·.endpoint) fun d a => { d with endpoint := some a },
    field "username" (Decode.optional Decode.string) (·.username)
      fun d a => { d with username := some a },
    field "password" (Decode.optional Decode.string) (·.password)
      fun d a => { d with password := some a },
    field "access_token" (Decode.optional Decode.string) (·.accessToken)
      fun d a => { d with accessToken := some a },
    field "impersonate" Decode.boolean (·.impersonate) fun d a => { d with impersonate := some a },
    field "mailboxes" (Decode.listOf Decode.string) (·.mailboxes)
      fun d a => { d with mailboxes := some a },
    field "folder_id_page_size" Decode.signedWord (·.idPageSize)
      fun d a => { d with idPageSize := some a },
    field "item_detail_page_size" Decode.signedWord (·.detailPageSize)
      fun d a => { d with detailPageSize := some a },
    field "sync_mode" Mode.decode (·.mode) fun d a => { d with mode := some a },
    field "checkpoint_db" (Decode.optional (Decode.stringAs "path string")) (·.checkpoints)
      fun d a => { d with checkpoints := some a },
    field "timeout_secs" Decode.unsignedWord (·.timeoutSeconds)
      fun d a => { d with timeoutSeconds := some a } ]

/-- Reads members by their names. -/
def readMembers (d : Draft) : List (Document × Document) → Except Error Draft
  | [] => .ok d
  | (name, value) :: rest => do
    let name ← Decode.key name
    match fields.find? fun f => f.name == name with
    | some f =>
      if f.isSet d then .error (.duplicateField name)
      else do
        let d ← f.read value d
        readMembers d rest
    | none => do
      Decode.ignored value
      readMembers d rest

/-- Reads values by their places. -/
def readPlaces (d : Draft) : List Field → List Document → Except Error Draft
  | _, [] => .ok d
  | [], _ :: _ => .error .malformed
  | f :: fs, value :: rest => do
    let d ← f.read value d
    readPlaces d fs rest

/-- What settings are called in errors. -/
def described : String := "struct HarvestSettings"

/-- Reads stored settings. -/
def decode : Decoder Settings
  | .object members => do
    let d ← readMembers {} members
    d.finish (.missingField "endpoint")
  | .array values => do
    let d ← readPlaces {} fields values
    d.finish (.wrongLength 0 (described ++ " with 11 elements"))
  | d => d.refuse described

/-- Reads the text of settings. -/
def parse (text : String) : Except Failure Settings :=
  (Decode.text decode text).mapError fun e => ⟨[.parsingSettings], .json e⟩

/-! ### What settings mean -/

/-- Replaces the secrets by others that are not empty. -/
def withSecrets (s : Settings) (password accessToken : Option String) : Settings :=
  { s with
    password := (nonEmpty password).or s.password
    accessToken := (nonEmpty accessToken).or s.accessToken }

/-- What to identify oneself with. A token that is not empty wins over a user name. -/
def credentials (s : Settings) : Except Failure Credentials :=
  match nonEmpty s.accessToken with
  | some token => .ok (.bearer token)
  | none =>
    match s.username, s.password with
    | none, _ => .error ⟨[], .noCredentials⟩
    | some username, none => .error ⟨[], .noPassword username⟩
    | some username, some password => .ok (.basic username password)

/-- How a crawl pages. -/
def config (s : Settings) : Config :=
  (Config.ofRequested s.idPageSize s.detailPageSize).withMode s.mode

/-- A summary of settings without their secrets. -/
def summary (s : Settings) : String :=
  partialSummary "HarvestSettings"
    [ ("endpoint", quoted s.endpoint),
      ("username", quotedOption s.username),
      ("impersonate", if s.impersonate then "true" else "false"),
      ("mailboxes", quotedList s.mailboxes),
      ("folder_id_page_size", intText s.idPageSize),
      ("item_detail_page_size", intText s.detailPageSize),
      ("sync_mode", s.mode.title),
      ("checkpoint_db", quotedOption s.checkpoints),
      ("timeout_secs", natText s.timeoutSeconds) ]

end Settings

end MailCollector
