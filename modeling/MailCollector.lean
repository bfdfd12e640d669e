import MailCollector.Calendar.Date
import MailCollector.Calendar.Instant
import MailCollector.Calendar.Rfc2822
import MailCollector.Calendar.Rfc3339
import MailCollector.Checkpoint.Ledger
import MailCollector.Checkpoint.Location
import MailCollector.Checkpoint.Pair
import MailCollector.Checkpoint.Store
import MailCollector.Checkpoint.Table
import MailCollector.Checkpoint.Written
import MailCollector.CommandLine.Options
import MailCollector.CommandLine.Run
import MailCollector.Crawl.Collect
import MailCollector.Crawl.Config
import MailCollector.Crawl.Folder
import MailCollector.Crawl.Mailbox
import MailCollector.Crawl.Plain
import MailCollector.Crawl.Program
import MailCollector.Crawl.Roster
import MailCollector.Crawl.Scripted
import MailCollector.Crawl.Sequence
import MailCollector.Crawl.Service
import MailCollector.Domain.Label
import MailCollector.Domain.Mapping
import MailCollector.Domain.Name
import MailCollector.Domain.Punycode
import MailCollector.Ews.Client
import MailCollector.Ews.Request
import MailCollector.Ews.Response
import MailCollector.Failure
import MailCollector.Files.Path
import MailCollector.Files.Tree
import MailCollector.Http
import MailCollector.Json.Binary64
import MailCollector.Json.Decode
import MailCollector.Json.Document
import MailCollector.Json.Error
import MailCollector.Json.Value
import MailCollector.Log.Filter
import MailCollector.Log.Note
import MailCollector.Machine
import MailCollector.Mail.Folder
import MailCollector.Mail.Item
import MailCollector.Mail.Listing
import MailCollector.Mail.Record
import MailCollector.Mail.Record.OfItem
import MailCollector.Mail.Stored
import MailCollector.Main
import MailCollector.Proofs.Crawl.Calls
import MailCollector.Proofs.Crawl.Collecting
import MailCollector.Proofs.Crawl.CommitOnce
import MailCollector.Proofs.Crawl.Lazy
import MailCollector.Proofs.Crawl.Observed
import MailCollector.Proofs.Crawl.PlainSafety
import MailCollector.Proofs.Crawl.Unfolding
import MailCollector.Proofs.Delivery.AtLeastOnce
import MailCollector.Proofs.Delivery.FlushOrder
import MailCollector.Proofs.Delivery.LogServer
import MailCollector.Proofs.Program.Laws
import MailCollector.Proofs.Program.Safety
import MailCollector.Rehearsal.Desk
import MailCollector.Rehearsal.Scene
import MailCollector.Rehearsal.Service
import MailCollector.Settings.Basic
import MailCollector.Settings.Load
import MailCollector.Sink.Basic
import MailCollector.Sink.Lines
import MailCollector.Text.Base64
import MailCollector.Text.Blank
import MailCollector.Text.CharSet
import MailCollector.Text.Decimal
import MailCollector.Text.Pattern
import MailCollector.Text.Pattern.Reading
import MailCollector.Text.Printable
import MailCollector.Text.Quoted
import MailCollector.Text.Split
import MailCollector.Text.Utf8
import MailCollector.Unicode.CombiningClass
import MailCollector.Unicode.Composed
import MailCollector.Unicode.Composites
import MailCollector.Unicode.Direction
import MailCollector.Unicode.Joining
import MailCollector.Unicode.Mark
import MailCollector.Unicode.Ranges
import MailCollector.Url.Endpoint
import MailCollector.Url.Host
import MailCollector.Url.Percent
import MailCollector.Xml.Document
import MailCollector.Xml.Element
import MailCollector.Xml.Markup
import MailCollector.Xml.Reference
import MailCollector.Xml.Token
import MailCollector.Proofs.Crawl.Lockstep
import MailCollector.Proofs.Crawl.Isolation
import MailCollector.Proofs.Calendar.PlainYear
import MailCollector.Proofs.Crawl.Crashes
import MailCollector.Proofs.Ews.Replies
import MailCollector.Proofs.Ews.Dates
import MailCollector.Proofs.Crawl.Completion
import MailCollector.Proofs.Delivery.InstantChain
import MailCollector.Proofs.Crawl.Turns
import MailCollector.Proofs.Delivery.TokenServer
import MailCollector.Proofs.Delivery.ExactlyOnce
import MailCollector.Proofs.Crawl.FailFast
import MailCollector.Proofs.Crawl.FailureLog
import MailCollector.Proofs.Delivery.SinkAccount
import MailCollector.Proofs.Ews.ItemAnswers
import MailCollector.Proofs.Ews.Changes
import MailCollector.Proofs.Xml.Search
import MailCollector.Proofs.Xml.DocumentOrder
import MailCollector.Proofs.Ews.Outcomes
import MailCollector.Proofs.Calendar.ReadBack
import MailCollector.Proofs.Checkpoint.LatestWrite
import MailCollector.Proofs.Delivery.ExactPaging
import MailCollector.Proofs.Ews.Envelopes
import MailCollector.Proofs.Crawl.Flattening
import MailCollector.Proofs.Crawl.Batching
import MailCollector.Proofs.Xml.Truncation
import MailCollector.Proofs.Ews.Truncation
import MailCollector.Proofs.Crawl.Cursors
import MailCollector.Proofs.Crawl.Offsets
import MailCollector.Proofs.Ews.Pages
import MailCollector.Proofs.Text.ReadBack
import MailCollector.Proofs.Json.ReadBack
import MailCollector.Proofs.Sink.StoredLines
import MailCollector.Proofs.Crawl.Keeping
import MailCollector.Proofs.Crawl.FirstRun
import MailCollector.Proofs.Crawl.Modes
import MailCollector.Proofs.Ews.ChangedSince
import MailCollector.Proofs.Ews.Offsets
import MailCollector.Proofs.Ews.Batches
import MailCollector.Proofs.Xml.Placing
import MailCollector.Proofs.Xml.CharacterData
import MailCollector.Proofs.Mail.Empties
