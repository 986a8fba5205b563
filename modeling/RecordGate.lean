import RecordGate.Main
import RecordGate.Proofs.Expr.Grammar
import RecordGate.Proofs.Expr.Readers
import RecordGate.Warehouse.Memory
import RecordGate.Proofs.Expr.Parsing
import RecordGate.Proofs.Expr.Reading
import RecordGate.Proofs.Expr.Tokens
import RecordGate.Proofs.Expr.Language
import RecordGate.Proofs.Except
import RecordGate.Proofs.Expr.TypeRules
import RecordGate.Proofs.Record
import RecordGate.Proofs.Schema.Values
import RecordGate.Proofs.Expr.Safety
import RecordGate.Proofs.Rule.Soundness
import RecordGate.Proofs.Rule.Shards
import RecordGate.Proofs.Rule.Lru
import RecordGate.Proofs.Rule.Recency
import RecordGate.Proofs.Rule.CacheRefinement
import RecordGate.Proofs.Rule.Transparency
import RecordGate.Proofs.Value
import RecordGate.Proofs.File.Streaming
import RecordGate.Proofs.FileState
import RecordGate.Proofs.Expr.Calls
import RecordGate.Proofs.Expr.Recording
import RecordGate.Proofs.Expr.Equality
import RecordGate.Proofs.Rule.Duplicates
import RecordGate.Proofs.Rule.Isolation
import RecordGate.Proofs.Rule.Plans
import RecordGate.Proofs.Batch.Judging
import RecordGate.Proofs.Batch.Driving
import RecordGate.Proofs.Response.Tally
import RecordGate.Proofs.Warehouse.Memory
import RecordGate.Proofs.Gate.Settling
import RecordGate.Proofs.Gate.AllOrNothing
import RecordGate.Proofs.Gate.Batching
import RecordGate.Proofs.Response.Additivity
import RecordGate.File.Stream
import RecordGate.Proofs.File.Protocol
import RecordGate.Proofs.Gate.FileErrors
import RecordGate.Proofs.Json.Grammar
import RecordGate.Proofs.Json.Numbers
import RecordGate.Proofs.Json.Reading
import RecordGate.Proofs.File.Splitting
import RecordGate.Proofs.Csv.Writing
import RecordGate.Proofs.Text.Blank
import RecordGate.Proofs.Text.Utf8
import RecordGate.Proofs.Calendar.Reading
import RecordGate.Proofs.Decimal.Reading
import RecordGate.Proofs.Schema.Rereading
import RecordGate.Proofs.File.Tables
import RecordGate.Proofs.Warehouse.Files
import RecordGate.Proofs.Warehouse.Export
import RecordGate.Proofs.Sorting
import RecordGate.Proofs.Rule.Planning
import RecordGate.Proofs.Batch.AnyOrder
import RecordGate.Proofs.Batch.Runs
import RecordGate.Proofs.Gate.Steps
import RecordGate.Proofs.Gate.Events
import RecordGate.Proofs.Gate.Calls
import RecordGate.Proofs.Gate.Answers
import RecordGate.Proofs.Rule.FastFail
import RecordGate.Proofs.Warehouse.History
import RecordGate.Proofs.Warehouse.Mirroring
import RecordGate.Proofs.Warehouse.Simulation
import RecordGate.Proofs.Json.Numerals
import RecordGate.Proofs.Json.Written
import RecordGate.Proofs.Json.RoundTrip
import RecordGate.Proofs.File.Agreement
import RecordGate.Proofs.Text.Lowercase
import RecordGate.Proofs.Schema.Conditions
import RecordGate.Proofs.Schema.Checking
import RecordGate.Proofs.Schema.Resolving
import RecordGate.Proofs.Json.Arranging
import RecordGate.Proofs.Schema.Documents
import RecordGate.Proofs.Json.Documents
import RecordGate.Proofs.Rule.Findings
import RecordGate.Proofs.Rule.Documents
import RecordGate.Proofs.Rule.Execution
import RecordGate.Proofs.Schema.Consistency
import RecordGate.Proofs.Batch.Partition
import RecordGate.Proofs.Batch.Gating
import RecordGate.Proofs.Rule.Dependencies
import RecordGate.Proofs.Rule.Preflight
import RecordGate.Proofs.Response.Arrival
import RecordGate.Proofs.Rule.Fingerprint
import RecordGate.Proofs.Calendar.Taking
import RecordGate.Proofs.Rule.DateLiterals
import RecordGate.Proofs.Schema.Tokens
import RecordGate.Proofs.Decimal.Signs
import RecordGate.Proofs.File.Records
import RecordGate.Proofs.File.Tokens
import RecordGate.Proofs.File.Integers
import RecordGate.Proofs.Warehouse.Leftovers
import RecordGate.Proofs.Rule.Opening
import RecordGate.Proofs.Rule.Messages
import RecordGate.Proofs.Expr.Words
import RecordGate.Proofs.Expr.Slices
import RecordGate.Proofs.Expr.Bounds
