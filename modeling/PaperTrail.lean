import PaperTrail.Archive.Basic
import PaperTrail.Archive.Command
import PaperTrail.Booking.Basic
import PaperTrail.Booking.Column
import PaperTrail.Booking.Number
import PaperTrail.Booking.Row
import PaperTrail.Cabinet
import PaperTrail.Date.Basic
import PaperTrail.Date.Text
import PaperTrail.Decimal.Basic
import PaperTrail.Decimal.Text
import PaperTrail.Document.Basic
import PaperTrail.Document.Flaw
import PaperTrail.Document.Policy
import PaperTrail.Document.Search
import PaperTrail.Event
import PaperTrail.Export.Damage
import PaperTrail.Export.Import
import PaperTrail.Export.Record
import PaperTrail.Export.Source
import PaperTrail.Fault
import PaperTrail.Logged
import PaperTrail.Numeral
import PaperTrail.Proofs.Archive.Conservation
import PaperTrail.Proofs.Archive.Description
import PaperTrail.Proofs.Archive.Evidence
import PaperTrail.Proofs.Archive.Guarantee
import PaperTrail.Proofs.Archive.History
import PaperTrail.Proofs.Archive.Kept
import PaperTrail.Proofs.Archive.Lookup
import PaperTrail.Proofs.Archive.Number
import PaperTrail.Proofs.Booking.Amount
import PaperTrail.Proofs.Booking.Row
import PaperTrail.Proofs.Booking.Shape
import PaperTrail.Proofs.Booking.Spacing
import PaperTrail.Proofs.Cabinet.Journal
import PaperTrail.Proofs.Date.Bytes
import PaperTrail.Proofs.Date.Compact
import PaperTrail.Proofs.Date.Delimited
import PaperTrail.Proofs.Date.Language
import PaperTrail.Proofs.Document.Append
import PaperTrail.Proofs.Document.Policy
import PaperTrail.Proofs.Document.Queries
import PaperTrail.Proofs.Document.Repeats
import PaperTrail.Proofs.Document.Statements
import PaperTrail.Proofs.Export.Import
import PaperTrail.Proofs.Export.Joined
import PaperTrail.Proofs.Export.Lines
import PaperTrail.Proofs.Export.Rendering
import PaperTrail.Proofs.Export.Rows
import PaperTrail.Proofs.Export.Scan
import PaperTrail.Proofs.Export.Steps
import PaperTrail.Proofs.Numeral
import PaperTrail.Proofs.Reconciliation.Accounts
import PaperTrail.Proofs.Reconciliation.Growth
import PaperTrail.Proofs.Reconciliation.Log
import PaperTrail.Proofs.Reconciliation.Order
import PaperTrail.Proofs.Reconciliation.Outcome
import PaperTrail.Proofs.Reconciliation.Verdict
import PaperTrail.Proofs.Reconciliation.Worksheet
import PaperTrail.Proofs.Tag.Kinds
import PaperTrail.Proofs.Tag.Reading
import PaperTrail.Proofs.Tag.RoundTrip
import PaperTrail.Reconciliation
import PaperTrail.Settings
import PaperTrail.Tag.Basic
import PaperTrail.Tag.Spelling
import PaperTrail.Text.Blank
import PaperTrail.Text.Graphic
import PaperTrail.Text.Quoted
import PaperTrail.Text.Slice
import PaperTrail.Text.Split
import PaperTrail.Text.Utf8
