import SocketWatch.Filter.Live
import SocketWatch.Tracking.TrackedSet
import SocketWatch.Tracking.Visible
import SocketWatch.Connection.Order
import SocketWatch.Snapshot.KernelTable
import SocketWatch.Snapshot.Services
import SocketWatch.Snapshot.Record
import SocketWatch.Traffic.Meter
import SocketWatch.Display.Line
import SocketWatch.Display.Table
import SocketWatch.Polling.Poller
import SocketWatch.Toml.Document
import SocketWatch.Settings
import SocketWatch.CommandLine.Arguments
import SocketWatch.CommandLine.Run
import SocketWatch.Main
import SocketWatch.Proofs.Filter.Grammar
import SocketWatch.Proofs.Filter.Scanning
import SocketWatch.Proofs.Filter.Passes
import SocketWatch.Proofs.Filter.Derivation
import SocketWatch.Proofs.Filter.RoundTrip
import SocketWatch.Proofs.Filter.Evaluation
import SocketWatch.Proofs.Filter.Narrowing
import SocketWatch.Proofs.Filter.Edits
import SocketWatch.Proofs.Filter.ColumnValues
import SocketWatch.Proofs.Filter.History
import SocketWatch.Proofs.Filter.Scans
import SocketWatch.Proofs.Text.CaseFold
import SocketWatch.Proofs.Filter.FoldedText
import SocketWatch.Proofs.Filter.Literals
import SocketWatch.Proofs.Filter.CaseFolding
import SocketWatch.Proofs.Filter.Placed
import SocketWatch.Proofs.Filter.WellFormed
import SocketWatch.Proofs.Filter.Shown
import SocketWatch.Proofs.Filter.Occurrence
import SocketWatch.Proofs.Filter.LeftToRight
import SocketWatch.Proofs.Filter.CaseModes
import SocketWatch.Proofs.Filter.SmallLetters
import SocketWatch.Proofs.Filter.PlainText
import SocketWatch.Proofs.Filter.WordMode
import SocketWatch.Proofs.Text.Runs
import SocketWatch.Proofs.Text.Columns
import SocketWatch.Proofs.Filter.Anchoring
import SocketWatch.Proofs.Tracking.Slots
import SocketWatch.Proofs.Tracking.LiveView
import SocketWatch.Proofs.Tracking.FirstFit
import SocketWatch.Proofs.Tracking.Partners
import SocketWatch.Proofs.Tracking.FirstInFirstOut
import SocketWatch.Proofs.Tracking.Assignment
import SocketWatch.Proofs.Tracking.Bookkeeping
import SocketWatch.Proofs.Tracking.Settling
import SocketWatch.Proofs.Tracking.Roster
import SocketWatch.Proofs.Tracking.ClosedRows
import SocketWatch.Proofs.Tracking.Eviction
import SocketWatch.Proofs.Text.Numeral
import SocketWatch.Proofs.Json.Tokens
import SocketWatch.Proofs.Json.Scanning
import SocketWatch.Proofs.Snapshot.RoundTrip
import SocketWatch.Proofs.Address.RoundTrip
import SocketWatch.Proofs.Snapshot.KernelAddress
import SocketWatch.Proofs.Snapshot.KernelLine
import SocketWatch.Proofs.Address.Order
import SocketWatch.Proofs.Connection.Order
import SocketWatch.Proofs.Tracking.Knowledge
import SocketWatch.Proofs.Polling.Interleaving
import SocketWatch.Proofs.Polling.Handoff
import SocketWatch.Proofs.Address.Domains
import SocketWatch.Proofs.Snapshot.AddressOrder
import SocketWatch.Proofs.Traffic.Totals
import SocketWatch.Proofs.Snapshot.Services
import SocketWatch.Proofs.Polling.Loop
import SocketWatch.Proofs.Polling.Requests
import SocketWatch.Proofs.Traffic.ByteCount
