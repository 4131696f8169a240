import JobNotice.Calendar.Date
import JobNotice.Calendar.Instant
import JobNotice.Calendar.Phrase
import JobNotice.Calendar.Rfc3339
import JobNotice.Command.Invocation
import JobNotice.Command.Run
import JobNotice.Command.Usage
import JobNotice.Decimal.Binary64
import JobNotice.Decimal.Shortest
import JobNotice.Files.Path
import JobNotice.Files.Tree
import JobNotice.Idna.ClassTable
import JobNotice.Idna.Domain
import JobNotice.Idna.Label
import JobNotice.Idna.Mapping
import JobNotice.Idna.MappingTable
import JobNotice.Idna.Punycode
import JobNotice.Job.Attributes
import JobNotice.Job.Record
import JobNotice.Json.Decode
import JobNotice.Json.Node
import JobNotice.Json.Number
import JobNotice.Json.Printer
import JobNotice.Json.Value
import JobNotice.Layout.BuiltIn
import JobNotice.Layout.Eval
import JobNotice.Layout.Expr
import JobNotice.Layout.Failure
import JobNotice.Layout.Filter
import JobNotice.Layout.Grammar
import JobNotice.Layout.Node
import JobNotice.Layout.Scope
import JobNotice.Layout.Source
import JobNotice.Layout.Straight
import JobNotice.Layout.Template
import JobNotice.Layout.Value
import JobNotice.Mail.Address
import JobNotice.Mail.Base64
import JobNotice.Mail.Delivery
import JobNotice.Mail.Header
import JobNotice.Mail.Mailbox
import JobNotice.Mail.Message
import JobNotice.Mail.Transfer
import JobNotice.Main
import JobNotice.Notice.Context
import JobNotice.Notice.Document
import JobNotice.Notice.Problem
import JobNotice.Notice.Service
import JobNotice.Settings.Basic
import JobNotice.Settings.Reading
import JobNotice.Text.Alphanumeric
import JobNotice.Text.Blank
import JobNotice.Text.Casing
import JobNotice.Text.CasingTable
import JobNotice.Text.CodePoints
import JobNotice.Text.Digits
import JobNotice.Text.Composition
import JobNotice.Text.CompositionTable
import JobNotice.Text.Grapheme
import JobNotice.Text.GraphemeTable
import JobNotice.Text.Html
import JobNotice.Text.Quoted
import JobNotice.Text.Search
import JobNotice.Text.Unprintable
import JobNotice.Text.Utf8
import JobNotice.Toml.Document
import JobNotice.Toml.Scalar
import JobNotice.Toml.Statement
import JobNotice.Toml.Value
import JobNotice.Url.Address
import JobNotice.Url.Basic
import JobNotice.Url.Domain
import JobNotice.Proofs.Layout.Name
import JobNotice.Proofs.Layout.TruthWord
import JobNotice.Proofs.Layout.Straight
import JobNotice.Proofs.Layout.Substitution
import JobNotice.Proofs.Layout.SlotCheck
import JobNotice.Proofs.Notice.Rendering
import JobNotice.Proofs.Notice.Checked
import JobNotice.Proofs.Notice.Requirements
import JobNotice.Proofs.Text.Escape
import JobNotice.Proofs.Text.Entities
import JobNotice.Proofs.Text.Gathering
import JobNotice.Proofs.Notice.Acceptance
import JobNotice.Proofs.Decimal.Numeral
import JobNotice.Proofs.Notice.Markup
import JobNotice.Proofs.Notice.Validation
import JobNotice.Proofs.Calendar.DayNumber
import JobNotice.Proofs.Calendar.Timestamp
import JobNotice.Proofs.Calendar.Timeline
import JobNotice.Proofs.Calendar.Succession
import JobNotice.Proofs.Calendar.Display
import JobNotice.Proofs.Calendar.Duration
import JobNotice.Proofs.Json.RoundTrip
import JobNotice.Proofs.Json.Records
import JobNotice.Proofs.Json.Forms
import JobNotice.Proofs.Job.Serialization
import JobNotice.Proofs.Job.ExecutionTime
import JobNotice.Proofs.Job.Forms
import JobNotice.Proofs.Notice.Preparation
import JobNotice.Proofs.Notice.Faithful
import JobNotice.Proofs.Notice.Deliveries
import JobNotice.Proofs.Text.Occurrences
import JobNotice.Proofs.Notice.Sections
import JobNotice.Proofs.Text.Utf8
import JobNotice.Proofs.Text.Words
import JobNotice.Proofs.Mail.Base64
import JobNotice.Proofs.Mail.Lines
import JobNotice.Proofs.Mail.Transfer
import JobNotice.Proofs.Mail.Parts
import JobNotice.Proofs.Mail.Folding
import JobNotice.Proofs.Mail.EncodedWords
import JobNotice.Proofs.Mail.Decoding
import JobNotice.Proofs.Mail.Readers
import JobNotice.Proofs.Mail.Mailboxes
import JobNotice.Proofs.Mail.Headers
import JobNotice.Proofs.Mail.Phrases
import JobNotice.Proofs.Mail.Addresses
import JobNotice.Proofs.Mail.Senders
import JobNotice.Proofs.Command.Agreement
import JobNotice.Proofs.Settings.DisplayOffset
import JobNotice.Proofs.Notice.Equivalence
import JobNotice.Proofs.Notice.Normalization
import JobNotice.Proofs.Notice.Links
import JobNotice.Proofs.Calendar.Canonical
import JobNotice.Proofs.Notice.PlainText
import JobNotice.Proofs.Files.Places
import JobNotice.Proofs.Command.Rendering
import JobNotice.Proofs.Toml.Distinct
import JobNotice.Proofs.Settings.Sections
import JobNotice.Proofs.Settings.Groups
import JobNotice.Proofs.Settings.Overlay
