import WorkerSettings.FileTree
import WorkerSettings.Identity.Json
import WorkerSettings.Main
import WorkerSettings.Registry
import WorkerSettings.Proofs.Json.Grammar
import WorkerSettings.Proofs.Json.Strings
import WorkerSettings.Proofs.Json.Numbers
import WorkerSettings.Proofs.Json.Skipping
import WorkerSettings.Proofs.Json.Records
import WorkerSettings.Proofs.Json.Accepted
import WorkerSettings.Proofs.Json.Writing
import WorkerSettings.Proofs.Json.Rearranged
import WorkerSettings.Proofs.Settings.Json
import WorkerSettings.Proofs.EnvFile.Progress
import WorkerSettings.Proofs.EnvFile.Search
import WorkerSettings.Proofs.FileTree
import WorkerSettings.Proofs.EnvFile.Loading
import WorkerSettings.Proofs.CommandLine.Run
import WorkerSettings.Proofs.Numeral
import WorkerSettings.Proofs.Snapshot
import WorkerSettings.Proofs.Layers.Environment
import WorkerSettings.Proofs.Layers.Building
import WorkerSettings.Proofs.Layers.Runs
import WorkerSettings.Proofs.Settings.Agreement
import WorkerSettings.Proofs.Layers.Resolution
import WorkerSettings.Proofs.EnvFile.Lines
import WorkerSettings.Proofs.EnvFile.Quoted
import WorkerSettings.Proofs.LastEntry
import WorkerSettings.Proofs.Registry
import WorkerSettings.Proofs.EnvFile.InPlace
import WorkerSettings.Proofs.EnvFile.TwoLoads
import WorkerSettings.Proofs.Layers.Composition
import WorkerSettings.Proofs.Json.Lists
import WorkerSettings.Proofs.Settings.Positional
import WorkerSettings.Proofs.Json.Persistence
import WorkerSettings.Proofs.Json.PersistentValues
import WorkerSettings.Proofs.Json.Framing
import WorkerSettings.Proofs.Settings.Framing
import WorkerSettings.Proofs.Layers.Expressed
import WorkerSettings.Proofs.Settings.Table
import WorkerSettings.Proofs.CommandLine.Options
import WorkerSettings.Proofs.CommandLine.Placement
import WorkerSettings.Proofs.Snapshot.Counts
