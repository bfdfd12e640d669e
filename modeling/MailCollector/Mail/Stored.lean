import MailCollector.Json.Decode
import MailCollector.Json.Value
import MailCollector.Mail.Listing
import MailCollector.Mail.Record

/-!
# Stored forms of folders, items and records

Folders, item ids and records are kept in files as JSON. A folder is an object whose one member says
whether it is well known or named by an id; an item id is a string; a record is an object of
strings.
-/

namespace MailCollector.Mail

open MailCollector.Json

/-- Reads the kind of a folder by its name. -/
def FolderKind.decode : Decoder FolderKind :=
  Decode.oneOf (FolderKind.all.map fun k => (k.name, k))

namespace FolderId

/-- The names of the two kinds of folder. -/
def caseNames : List String := ["WellKnown", "Id"]

/-- Reads a folder. -/
def decode : Decoder FolderId :=
  Decode.cases caseNames (fun _ => .error (.wrongType .bareCase "newtype variant")) fun name d =>
    if name = "WellKnown" then (FolderKind.decode d).map wellKnown
    else (Decode.string d).map opaqueId

/-- The stored form of a folder. -/
def toJson : FolderId → Value
  | wellKnown kind => .object [("WellKnown", .string kind.name)]
  | opaqueId id => .object [("Id", .string id)]

end FolderId

/-- Reads an item id. -/
def ItemId.decode : Decoder ItemId := fun d =>
  (Decode.string d).map ItemId.mk

namespace Record

/-- Reads a record. Of two values for one name the later one counts, and an empty value is kept. -/
def decode : Decoder Record := fun d =>
  (Decode.members Decode.string d).map fun headers =>
    headers.foldl (fun r h => r.insert h.1 h.2) empty

/-- The stored form of a record. -/
def toJson (r : Record) : Value :=
  .object (r.headers.map fun h => (h.1, .string h.2))

end Record

end MailCollector.Mail
