import QueryTelemetry.Assoc
import QueryTelemetry.CacheControl
import QueryTelemetry.Decimal.Layout
import QueryTelemetry.Decimal.Rounding
import QueryTelemetry.Decimal.Shortest
import QueryTelemetry.Export.Data
import QueryTelemetry.Export.Exporter
import QueryTelemetry.Export.Resource
import QueryTelemetry.Export.Setup
import QueryTelemetry.Export.Source
import QueryTelemetry.Fault
import QueryTelemetry.Fault.Data
import QueryTelemetry.Json.Printer
import QueryTelemetry.Json.Reader
import QueryTelemetry.Json.Text
import QueryTelemetry.Log.Context
import QueryTelemetry.Log.Data
import QueryTelemetry.Log.Format
import QueryTelemetry.Log.Handler
import QueryTelemetry.Log.Host
import QueryTelemetry.Log.Level
import QueryTelemetry.Log.Masker
import QueryTelemetry.Log.Record
import QueryTelemetry.Log.Registry
import QueryTelemetry.Pattern.Basic
import QueryTelemetry.Pattern.Malformed
import QueryTelemetry.Pattern.Progress
import QueryTelemetry.Pattern.Reader
import QueryTelemetry.Pattern.Replace
import QueryTelemetry.Pattern.Search
import QueryTelemetry.Pattern.Sign
import QueryTelemetry.Pattern.Template
import QueryTelemetry.Propagation.Baggage
import QueryTelemetry.Propagation.Bridge
import QueryTelemetry.Propagation.Header
import QueryTelemetry.Propagation.TraceParent
import QueryTelemetry.Propagation.TraceState
import QueryTelemetry.Request.AsData
import QueryTelemetry.Request.Data
import QueryTelemetry.Request.Event
import QueryTelemetry.Request.Lifecycle
import QueryTelemetry.Request.Participant
import QueryTelemetry.Request.Reading
import QueryTelemetry.Request.Recorder
import QueryTelemetry.Request.Reporter
import QueryTelemetry.Request.Runner
import QueryTelemetry.Settings.Data
import QueryTelemetry.Settings.Environment
import QueryTelemetry.Settings.Load
import QueryTelemetry.Settings.Seconds
import QueryTelemetry.Settings.Tracing
import QueryTelemetry.Signature
import QueryTelemetry.Sorting
import QueryTelemetry.Tagged
import QueryTelemetry.Telemetry
import QueryTelemetry.Text.Blank
import QueryTelemetry.Text.Capital
import QueryTelemetry.Text.Case
import QueryTelemetry.Text.Digit
import QueryTelemetry.Text.Hexadecimal
import QueryTelemetry.Text.Identifier
import QueryTelemetry.Text.Letter
import QueryTelemetry.Text.Name
import QueryTelemetry.Text.Name.Alphabets
import QueryTelemetry.Text.Name.Ancient
import QueryTelemetry.Text.Name.Frequent
import QueryTelemetry.Text.Name.Other
import QueryTelemetry.Text.Name.Pictures
import QueryTelemetry.Text.Name.Run
import QueryTelemetry.Text.Name.Signs
import QueryTelemetry.Text.Name.Syllables
import QueryTelemetry.Text.Numeral
import QueryTelemetry.Text.Percent
import QueryTelemetry.Text.Printable
import QueryTelemetry.Text.Quoted
import QueryTelemetry.Text.Ranges
import QueryTelemetry.Text.Sigma
import QueryTelemetry.Text.Split
import QueryTelemetry.Text.Utf8
import QueryTelemetry.Text.Word
import QueryTelemetry.Trace.Attributes
import QueryTelemetry.Trace.Collected
import QueryTelemetry.Trace.Context
import QueryTelemetry.Trace.Data
import QueryTelemetry.Trace.Journal
import QueryTelemetry.Trace.Observer
import QueryTelemetry.Trace.Slot
import QueryTelemetry.Trace.SlotTree
import QueryTelemetry.Value.Access
import QueryTelemetry.Value.Basic
import QueryTelemetry.Value.Choice
import QueryTelemetry.Value.Keys
import QueryTelemetry.Value.Mapping
import QueryTelemetry.Value.Marked
import QueryTelemetry.Value.Same
import QueryTelemetry.Value.Sorted
import QueryTelemetry.Value.Text
import QueryTelemetry.Proofs.Tracing.Session
import QueryTelemetry.Proofs.Tracing.Entry
import QueryTelemetry.Proofs.Tracing.Move
import QueryTelemetry.Proofs.Tracing.Passage
import QueryTelemetry.Proofs.Tracing.Conservation
import QueryTelemetry.Proofs.Tracing.Ownership
import QueryTelemetry.Proofs.Request.Report
import QueryTelemetry.Proofs.Request.Runs
import QueryTelemetry.Proofs.Request.Containment
import QueryTelemetry.Proofs.Tracing.Forest
import QueryTelemetry.Proofs.Tracing.Ledger
import QueryTelemetry.Proofs.Tracing.SpanTree
import QueryTelemetry.Proofs.Tracing.Writes
import QueryTelemetry.Proofs.Tracing.Mirror
import QueryTelemetry.Proofs.Tracing.Twin
import QueryTelemetry.Proofs.Tracing.Ambient
import QueryTelemetry.Proofs.Tracing.OuterSpan
import QueryTelemetry.Proofs.Tracing.Rejection
import QueryTelemetry.Proofs.Request.Service
import QueryTelemetry.Proofs.Request.Isolation
import QueryTelemetry.Proofs.Log.PlainText
import QueryTelemetry.Proofs.Tracing.Annotation
import QueryTelemetry.Proofs.CacheControl.Strictest
import QueryTelemetry.Proofs.Export.Changes
import QueryTelemetry.Proofs.Export.Configured
import QueryTelemetry.Proofs.Export.GlobalSource
import QueryTelemetry.Proofs.Request.Remarks
import QueryTelemetry.Proofs.Request.Ending
import QueryTelemetry.Proofs.Request.Order
import QueryTelemetry.Proofs.Request.Discretion
import QueryTelemetry.Proofs.Request.Conduct
import QueryTelemetry.Proofs.Propagation.Headers
import QueryTelemetry.Proofs.Propagation.Joining
import QueryTelemetry.Proofs.Log.Outputs
import QueryTelemetry.Proofs.Request.Labels
import QueryTelemetry.Proofs.Export.Loaded
import QueryTelemetry.Proofs.Text.Casing
import QueryTelemetry.Proofs.Text.Hexadecimal
import QueryTelemetry.Proofs.Propagation.RoundTrip
import QueryTelemetry.Proofs.Fault.Steps
import QueryTelemetry.Proofs.Value.Sorting
import QueryTelemetry.Proofs.Value.Refusals
import QueryTelemetry.Proofs.Tracing.Variables
import QueryTelemetry.Proofs.Value.Places
import QueryTelemetry.Proofs.Log.Masking
import QueryTelemetry.Proofs.Text.Marks
import QueryTelemetry.Proofs.Pattern.Reading
import QueryTelemetry.Proofs.Pattern.Rewriting
import QueryTelemetry.Proofs.Log.Rules
import QueryTelemetry.Proofs.Log.Credentials
import QueryTelemetry.Proofs.Log.Scopes
import QueryTelemetry.Proofs.Tracing.EntryOrder
import QueryTelemetry.Proofs.Tracing.ClosingOrder
import QueryTelemetry.Proofs.Tracing.Aftermath
import QueryTelemetry.Proofs.Text.Decimals
import QueryTelemetry.Proofs.Json.Trees
import QueryTelemetry.Proofs.Json.Literals
import QueryTelemetry.Proofs.Json.RoundTrip
import QueryTelemetry.Proofs.Json.Canonical
import QueryTelemetry.Proofs.Text.Lines
import QueryTelemetry.Proofs.Log.JsonLines
import QueryTelemetry.Proofs.Log.TextLines
import QueryTelemetry.Proofs.Log.OwnFields
import QueryTelemetry.Proofs.Text.Numerals
import QueryTelemetry.Proofs.Settings.Variables
import QueryTelemetry.Proofs.Settings.Misset
import QueryTelemetry.Proofs.Log.Offering
import QueryTelemetry.Proofs.Log.Acceptance
import QueryTelemetry.Proofs.Log.Buffers
import QueryTelemetry.Proofs.Log.Configuring
import QueryTelemetry.Proofs.Request.Reporting
import QueryTelemetry.Proofs.Propagation.Extracting
import QueryTelemetry.Proofs.Pattern.Hiding
import QueryTelemetry.Proofs.Log.Hidden
import QueryTelemetry.Proofs.Log.Settling
import QueryTelemetry.Proofs.Log.MaskedTexts
import QueryTelemetry.Proofs.Log.MaskedTwice
