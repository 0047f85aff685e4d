import MetricRelay.Main
import MetricRelay.Proofs.Batch.Cases
import MetricRelay.Proofs.Batch.Protocol
import MetricRelay.Proofs.Report.Cycle
import MetricRelay.Proofs.Batch.Blocks
import MetricRelay.Proofs.Batch.Grouping
import MetricRelay.Proofs.Disk.Growth
import MetricRelay.Proofs.Sink.Books
import MetricRelay.Proofs.Sink.Durable
import MetricRelay.Proofs.Disk.LineCount
import MetricRelay.Proofs.Batch.Journaled
import MetricRelay.Proofs.Batch.Cadence
import MetricRelay.Proofs.Report.Isolation
import MetricRelay.Proofs.Disk.Tree
import MetricRelay.Proofs.Report.Lines
import MetricRelay.Proofs.Report.Replayed
import MetricRelay.Proofs.Sink.Healthy
import MetricRelay.Proofs.Batch.Lag
import MetricRelay.Proofs.Batch.Tally
import MetricRelay.Proofs.Report.Account
import MetricRelay.Proofs.Sink.Scripted
import MetricRelay.Proofs.Batch.Twins
import MetricRelay.Proofs.Report.Values
import MetricRelay.Proofs.Disk.Join
import MetricRelay.Proofs.Text.Numeral
import MetricRelay.Proofs.Stream.Identity
import MetricRelay.Proofs.Stream.Names
import MetricRelay.Proofs.Sink.LogPath
import MetricRelay.Proofs.Sink.LogSharing
import MetricRelay.Proofs.Json.Scan
import MetricRelay.Proofs.Json.ReadBack
import MetricRelay.Proofs.Row.ReadBack
import MetricRelay.Proofs.Row.PrefixFree
import MetricRelay.Proofs.Row.Commuting
import MetricRelay.Proofs.Batch.Order
import MetricRelay.Proofs.Batch.Answers
import MetricRelay.Proofs.Batch.Course
import MetricRelay.Proofs.Report.OneBatch
import MetricRelay.Proofs.Batch.Published
import MetricRelay.Proofs.Report.Front
import MetricRelay.Proofs.Report.Growing
import MetricRelay.Proofs.Command.Delivery
import MetricRelay.Proofs.Command.Outcome
import MetricRelay.Proofs.Sink.ClientId
import MetricRelay.Proofs.Settings.Usable
import MetricRelay.Proofs.Settings.Precedence
import MetricRelay.Proofs.Report.Building
import MetricRelay.Proofs.Json.Pretty
import MetricRelay.Proofs.Json.Records
import MetricRelay.Proofs.Settings.ReadBack
import MetricRelay.Proofs.Json.Doubles
import MetricRelay.Proofs.Metric.ReadBack
import MetricRelay.Proofs.Report.FrameLines
import MetricRelay.Proofs.Batch.Phases
import MetricRelay.Proofs.Report.Writers
