import ProofLedger.Calendar.Date
import ProofLedger.Calendar.Moment
import ProofLedger.Calendar.Reader
import ProofLedger.Calendar.Span
import ProofLedger.Capture
import ProofLedger.CommandLine.Arguments
import ProofLedger.CommandLine.Execute
import ProofLedger.CommandLine.Request
import ProofLedger.Comparison
import ProofLedger.Config.Basic
import ProofLedger.Config.Fault
import ProofLedger.Config.Sources
import ProofLedger.Data.Basic
import ProofLedger.Data.KeyOrder
import ProofLedger.Digest.Canonical
import ProofLedger.Digest.File
import ProofLedger.Digest.ProofHash
import ProofLedger.Digest.Sha256
import ProofLedger.Disk.Fault
import ProofLedger.Disk.Path
import ProofLedger.Disk.Placement
import ProofLedger.Disk.Tree
import ProofLedger.Factory
import ProofLedger.Factory.Catalogue
import ProofLedger.Factory.Make
import ProofLedger.Failure
import ProofLedger.Intake.Fields
import ProofLedger.Intake.Issue
import ProofLedger.Intake.Scalar
import ProofLedger.Json.Basic
import ProofLedger.Json.Encoding
import ProofLedger.Json.Printer
import ProofLedger.Json.Reader
import ProofLedger.Log
import ProofLedger.Number.Decimal
import ProofLedger.Number.Double
import ProofLedger.Number.Quantity
import ProofLedger.Number.Reading
import ProofLedger.Prover
import ProofLedger.Record.Basic
import ProofLedger.Record.Document
import ProofLedger.Record.Identity
import ProofLedger.Record.Input
import ProofLedger.Record.Object
import ProofLedger.Reference
import ProofLedger.Report
import ProofLedger.Run.Basic
import ProofLedger.Run.Pipeline
import ProofLedger.Run.State
import ProofLedger.Shape
import ProofLedger.Store.Directory
import ProofLedger.Store.Read
import ProofLedger.Store.Write
import ProofLedger.Text.Basic
import ProofLedger.Text.Blank
import ProofLedger.Text.Hex
import ProofLedger.Text.Normal.Basic
import ProofLedger.Text.Normal.Table
import ProofLedger.Text.Numeral
import ProofLedger.Text.Printable
import ProofLedger.Text.Quoted
import ProofLedger.Text.Utf8
import ProofLedger.Text.Wide
import ProofLedger.Toml.Document
import ProofLedger.Toml.Lexeme
import ProofLedger.Verification.Result
import ProofLedger.Verification.Runner
import ProofLedger.Workflow
import ProofLedger.World
import ProofLedger.Main
import ProofLedger.Proofs.Text.Utf8
import ProofLedger.Proofs.Text.Numeral
import ProofLedger.Proofs.Number.Rank
import ProofLedger.Proofs.Json.Scalar
import ProofLedger.Proofs.Json.ReadBack
import ProofLedger.Proofs.Json.Documents
import ProofLedger.Proofs.Record.Accepted
import ProofLedger.Proofs.Record.RoundTrip
import ProofLedger.Proofs.Json.CodePoints
import ProofLedger.Proofs.Store.Effects
import ProofLedger.Proofs.Store.Names
import ProofLedger.Proofs.Store.Files
import ProofLedger.Proofs.Store.Ledger
import ProofLedger.Proofs.Store.LedgerPut
import ProofLedger.Proofs.Store.LedgerPrune
import ProofLedger.Proofs.Store.Acts
import ProofLedger.Proofs.Store.Refinement
import ProofLedger.Proofs.Store.Calls
import ProofLedger.Proofs.Store.Pointer
import ProofLedger.Proofs.Store.Expiry
import ProofLedger.Proofs.Store.Whole
import ProofLedger.Proofs.Store.Repeats
import ProofLedger.Proofs.Store.Readers
import ProofLedger.Proofs.Run.Quiet
import ProofLedger.Proofs.Run.Storing
import ProofLedger.Proofs.Run.Endings
import ProofLedger.Proofs.Run.Account
import ProofLedger.Proofs.Run.Derived
import ProofLedger.Proofs.Run.Lineage
import ProofLedger.Proofs.Text.Normal
import ProofLedger.Proofs.Data.Reordered
import ProofLedger.Proofs.Digest.Canonical
import ProofLedger.Proofs.Digest.ProofHash
import ProofLedger.Proofs.Shape
import ProofLedger.Proofs.Reference.Layout
import ProofLedger.Proofs.Reference.Verdict
import ProofLedger.Proofs.Json.Newlines
import ProofLedger.Proofs.Run.Answer
import ProofLedger.Proofs.Store.Puts
import ProofLedger.Proofs.Run.Kept
import ProofLedger.Proofs.Calendar.Dates
import ProofLedger.Proofs.Calendar.Reading
import ProofLedger.Proofs.Calendar.Stamps
import ProofLedger.Proofs.Reference.Capturing
import ProofLedger.Proofs.Run.Success
import ProofLedger.Proofs.Reference.Tended
import ProofLedger.Proofs.Reference.Job
import ProofLedger.Proofs.Reference.Runs
import ProofLedger.Proofs.Store.Deposits
import ProofLedger.Proofs.Run.Batch
import ProofLedger.Proofs.Json.Bounds
import ProofLedger.Proofs.Record.Rewriting
import ProofLedger.Proofs.Intake.Told
import ProofLedger.Proofs.Record.Refusals
import ProofLedger.Proofs.Data.Entries
import ProofLedger.Proofs.Toml.Distinct
import ProofLedger.Proofs.Config.Precedence
import ProofLedger.Proofs.Run.Printing
import ProofLedger.Proofs.Run.Adoption
import ProofLedger.Proofs.CommandLine.Reporting
import ProofLedger.Proofs.CommandLine.BaselineStatus
import ProofLedger.Proofs.Verification.Fit
import ProofLedger.Proofs.Verification.Steps
import ProofLedger.Proofs.Verification.Decision
import ProofLedger.Proofs.Reference.Binding
import ProofLedger.Proofs.Store.Newest
import ProofLedger.Proofs.Comparison.Order
import ProofLedger.Proofs.Comparison.Neutral
import ProofLedger.Proofs.CommandLine.Comparing
import ProofLedger.Proofs.Digest.Positions
import ProofLedger.Proofs.Record.Timestamps
import ProofLedger.Proofs.Record.Names
import ProofLedger.Proofs.Digest.Files
import ProofLedger.Proofs.Config.Escapes
import ProofLedger.Proofs.CommandLine.Configuring
import ProofLedger.Proofs.Intake.Integers
import ProofLedger.Proofs.Record.Octets
import ProofLedger.Proofs.Record.Words
import ProofLedger.Proofs.Run.Summary
