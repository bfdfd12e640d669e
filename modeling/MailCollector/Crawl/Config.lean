import MailCollector.Json.Decode

/-!
# How a crawl pages

A crawl asks for ids and for items in pages of at least one entry, and resumes either from a token
per folder or from an instant per mailbox.
-/

namespace MailCollector.Crawl

open MailCollector.Text

/-- Which checkpoint a crawl resumes from. -/
inductive Mode where
  /-- A token of the server for each folder. -/
  | syncToken
  /-- The instant at which the last complete crawl of the mailbox began. -/
  | lastSynced
deriving DecidableEq, Repr

/-- The name of a mode in settings and on the command line. -/
def Mode.name : Mode → String
  | syncToken => "sync_token"
  | lastSynced => "last_synced"

/-- The name of a mode in summaries. -/
def Mode.title : Mode → String
  | syncToken => "SyncToken"
  | lastSynced => "LastSynced"

/-- All modes, the default one first. -/
def Mode.all : List Mode := [syncToken, lastSynced]

/-- Reads a mode by its name. -/
def Mode.decode : Json.Decoder Mode :=
  Json.Decode.oneOf (Mode.all.map fun m => (m.name, m))

/-- The paging of a crawl. Both page sizes are positive. -/
structure Config where
  idPageSize : Nat
  detailPageSize : Nat
  mode : Mode := .syncToken
  idPageSize_pos : 0 < idPageSize
  detailPageSize_pos : 0 < detailPageSize
deriving DecidableEq

namespace Config

/-- A requested page size, where anything below one means one. -/
def clamp (requested : Int) : Nat := (max requested 1).toNat

theorem clamp_pos (requested : Int) : 0 < clamp requested := by
  unfold clamp
  omega

/-- The paging for two requested page sizes. -/
def ofRequested (idPage detailPage : Int) : Config :=
  { idPageSize := clamp idPage
    detailPageSize := clamp detailPage
    idPageSize_pos := clamp_pos idPage
    detailPageSize_pos := clamp_pos detailPage }

/-- The same page sizes in another mode. -/
def withMode (c : Config) (mode : Mode) : Config := { c with mode := mode }

/-- A summary of the paging for logs. -/
def summary (c : Config) : String :=
  partialSummary "RunConfig"
    [ ("folder_id_page_size", natText c.idPageSize),
      ("item_detail_page_size", natText c.detailPageSize),
      ("mode", c.mode.title) ]

end Config

end MailCollector.Crawl
