import IndexTrial.Binary64.Spelling
import IndexTrial.Text.Blank
import IndexTrial.Text.Case
import IndexTrial.Text.Search
import IndexTrial.Json.Reader
import IndexTrial.Json.Record
import IndexTrial.Moment
import IndexTrial.Run.Id
import IndexTrial.Environment
import IndexTrial.Measure.Latency
import IndexTrial.Measure.Query
import IndexTrial.Regression.Baseline
import IndexTrial.Advice.Classify
import IndexTrial.Run.Artifact
import IndexTrial.Regression.Document
import IndexTrial.Random.Keystream
import IndexTrial.Client.Catalog
import IndexTrial.Workload.Suite
import IndexTrial.Trial.Runner
import IndexTrial.Rehearsal.Client
import IndexTrial.Files.Tree
import IndexTrial.Report.Markdown
import IndexTrial.Report.Table
import IndexTrial.Regression.File
import IndexTrial.Report.Files
import IndexTrial.Settings.Check
import IndexTrial.Settings.Document
import IndexTrial.Settings.Toml
import IndexTrial.Benchmark
import IndexTrial.Layers.KeyPath
import IndexTrial.Layers.Variables
import IndexTrial.Layers.Lenient
import IndexTrial.Server.MemorySetting
import IndexTrial.Toml.Reader
import IndexTrial.Yaml.Reader
import IndexTrial.Layers.Source
import IndexTrial.Settings.Raw
import IndexTrial.Settings.Load
import IndexTrial.Server.SegmentFiles
import IndexTrial.Server.Program
import IndexTrial.Server.ConnectionText
import IndexTrial.Server.Connect
import IndexTrial.Server.Client
import IndexTrial.Rehearsal.Server
import IndexTrial.CommandLine.Options
import IndexTrial.CommandLine.Help
import IndexTrial.CommandLine.Command
import IndexTrial.Json.Loose
import IndexTrial.Rehearsal.Script
import IndexTrial.Server.Transcript
import IndexTrial.Server.Wire
import IndexTrial.Main
import IndexTrial.Proofs.Run.Completeness
import IndexTrial.Proofs.Run.Abort
import IndexTrial.Proofs.Trial.Shape
import IndexTrial.Proofs.Store.OwnIndex
import IndexTrial.Proofs.Store.Lifecycle
import IndexTrial.Proofs.Store.HalfLoaded
import IndexTrial.Proofs.Run.Budget
import IndexTrial.Proofs.Run.Tally
import IndexTrial.Proofs.Document.Saved
import IndexTrial.Proofs.Store.Filling
import IndexTrial.Proofs.Regression.Replacement
import IndexTrial.Proofs.Regression.SelfComparison
import IndexTrial.Proofs.Regression.Lifetime
import IndexTrial.Proofs.Run.Verdicts
import IndexTrial.Proofs.Measure.Robustness
import IndexTrial.Proofs.Run.Advice
import IndexTrial.Proofs.Advice.DecisivePair
import IndexTrial.Proofs.Measure.Order
import IndexTrial.Proofs.Run.Samples
import IndexTrial.Proofs.Trial.Degradation
import IndexTrial.Proofs.Settings.Engines
import IndexTrial.Proofs.Workload.Expansion
import IndexTrial.Proofs.Workload.Lookups
import IndexTrial.Proofs.Workload.NarrowKeys
import IndexTrial.Proofs.Advice.Favour
import IndexTrial.Proofs.Server.MemorySetting
import IndexTrial.Proofs.Trial.Executions
import IndexTrial.Proofs.Report.Markdown
import IndexTrial.Proofs.Report.Table
import IndexTrial.Proofs.Server.SegmentFiles
import IndexTrial.Proofs.Measure.Rank
import IndexTrial.Proofs.Workload.ListedKeys
