import DocSource.Command.LogLevel
import DocSource.Main
import DocSource.Proofs.Host.Batch
import DocSource.Proofs.Pipeline.Argument
import DocSource.Proofs.Pipeline.Compilation
import DocSource.Proofs.Host.Session
import DocSource.Proofs.Settings
import DocSource.Proofs.Host.Release
import DocSource.Proofs.Host.Response
import DocSource.Proofs.Answer.Table
import DocSource.Proofs.Answer.Series
import DocSource.Proofs.Pipeline.Call
import DocSource.Proofs.Host.Trace
import DocSource.Proofs.Json.Locality
import DocSource.Proofs.Json.Record
import DocSource.Proofs.Host.Wire
import DocSource.Proofs.Pipeline.Grammar
import DocSource.Proofs.Pipeline.Order
import DocSource.Proofs.Answer.Wire
import DocSource.Proofs.Host.Readable
import DocSource.Proofs.Answer.Progress
import DocSource.Proofs.Pipeline.Failure
import DocSource.Proofs.Pipeline.Placeholder
import DocSource.Proofs.Store.Client
import DocSource.Proofs.Store.Counters
import DocSource.Proofs.Text.Utf8
import DocSource.Proofs.Store.Collections
import DocSource.Proofs.Store.Snapshot
import DocSource.Proofs.Files.Documents
import DocSource.Proofs.Command.Output
