import PlaceholderScripts.Bindings
import PlaceholderScripts.Cache.Policy
import PlaceholderScripts.Cache.Results
import PlaceholderScripts.Cleanup
import PlaceholderScripts.Clock
import PlaceholderScripts.CommandLine.Arguments
import PlaceholderScripts.CommandLine.Invocation
import PlaceholderScripts.CommandLine.Run
import PlaceholderScripts.Configuration
import PlaceholderScripts.Console
import PlaceholderScripts.Datum
import PlaceholderScripts.Definition
import PlaceholderScripts.Dialogue
import PlaceholderScripts.Dict
import PlaceholderScripts.Digest
import PlaceholderScripts.Evaluation
import PlaceholderScripts.Expansion.Command
import PlaceholderScripts.Expansion.CommandTable
import PlaceholderScripts.Expansion.Router
import PlaceholderScripts.Files.FileSystem
import PlaceholderScripts.Files.Path
import PlaceholderScripts.Host
import PlaceholderScripts.Identity
import PlaceholderScripts.Identity.PlayerId
import PlaceholderScripts.Inspect
import PlaceholderScripts.Library.Basic
import PlaceholderScripts.Library.Embedded
import PlaceholderScripts.Library.Manifest
import PlaceholderScripts.Loader
import PlaceholderScripts.Main
import PlaceholderScripts.Number.Decimal
import PlaceholderScripts.Number.Double
import PlaceholderScripts.Number.Power
import PlaceholderScripts.Number.Shortest
import PlaceholderScripts.Number.Word
import PlaceholderScripts.Pool
import PlaceholderScripts.Proofs.Cache.Agreement
import PlaceholderScripts.Proofs.Cache.Memo
import PlaceholderScripts.Proofs.Cache.Refinement
import PlaceholderScripts.Proofs.Evaluation.Agreement
import PlaceholderScripts.Proofs.Evaluation.ArgumentKeys
import PlaceholderScripts.Proofs.Evaluation.Failure
import PlaceholderScripts.Proofs.Evaluation.Frame
import PlaceholderScripts.Proofs.Evaluation.Session
import PlaceholderScripts.Proofs.Files.Writing
import PlaceholderScripts.Proofs.Loading.Load
import PlaceholderScripts.Proofs.Loading.Reload
import PlaceholderScripts.Proofs.Loading.ReloadFailure
import PlaceholderScripts.Proofs.Surroundings.Clock
import PlaceholderScripts.Proofs.Surroundings.Files
import PlaceholderScripts.Proofs.Template.Comments
import PlaceholderScripts.Proofs.Template.Tokenisation
import PlaceholderScripts.Registry
import PlaceholderScripts.Script.Builtin
import PlaceholderScripts.Script.Builtin.Basic
import PlaceholderScripts.Script.Builtin.Collection
import PlaceholderScripts.Script.Builtin.Number
import PlaceholderScripts.Script.Builtin.Text
import PlaceholderScripts.Script.Error
import PlaceholderScripts.Script.Evaluate
import PlaceholderScripts.Script.Frame
import PlaceholderScripts.Script.HigherOrder
import PlaceholderScripts.Script.HostFunction
import PlaceholderScripts.Script.Operator
import PlaceholderScripts.Script.Parser
import PlaceholderScripts.Script.Part
import PlaceholderScripts.Script.Run
import PlaceholderScripts.Script.Syntax
import PlaceholderScripts.Script.Token
import PlaceholderScripts.Script.Value
import PlaceholderScripts.Settings
import PlaceholderScripts.Store
import PlaceholderScripts.Substitution
import PlaceholderScripts.Surroundings
import PlaceholderScripts.Template
import PlaceholderScripts.Text.Blank
import PlaceholderScripts.Text.Casing
import PlaceholderScripts.Text.Casing.Table
import PlaceholderScripts.Text.Quoted
import PlaceholderScripts.Text.Quoted.Table
import PlaceholderScripts.Yaml.Decode
import PlaceholderScripts.Yaml.Mark
import PlaceholderScripts.Yaml.Node
import PlaceholderScripts.Yaml.Printer
import PlaceholderScripts.Yaml.Scalar
import PlaceholderScripts.Yaml.Token
import PlaceholderScripts.Yaml.Token.Scalar
import PlaceholderScripts.Yaml.Token.Scan
import PlaceholderScripts.Proofs.Cleanup.Runtime
import PlaceholderScripts.Proofs.Evaluation.Reproduction
import PlaceholderScripts.Proofs.Files.Rewriting
import PlaceholderScripts.Proofs.Loading.DataDirectory
import PlaceholderScripts.Proofs.Loading.Persistence
import PlaceholderScripts.Proofs.CommandLine.Restarts
import PlaceholderScripts.Proofs.Expansion.Ownership
import PlaceholderScripts.Proofs.Evaluation.Overlap
import PlaceholderScripts.Proofs.Pool.Workers
import PlaceholderScripts.Proofs.Cache.PolicyGrammar
import PlaceholderScripts.Proofs.Template.Filling
import PlaceholderScripts.Proofs.Library.Verification
import PlaceholderScripts.Proofs.Expansion.Commands
import PlaceholderScripts.Proofs.Substitution.OnePass
import PlaceholderScripts.Proofs.Template.Scanning
import PlaceholderScripts.Proofs.Evaluation.Preparation
import PlaceholderScripts.Proofs.Evaluation.ArgumentErrors
import PlaceholderScripts.Proofs.Cache.Durations
import PlaceholderScripts.Proofs.Cache.PolicyText
import PlaceholderScripts.Proofs.Cleanup.Purging
import PlaceholderScripts.Proofs.Substitution.OfflineView
import PlaceholderScripts.Proofs.Evaluation.ServiceCalls
import PlaceholderScripts.Proofs.Store.Flushing
import PlaceholderScripts.Proofs.Store.Rereading
import PlaceholderScripts.Proofs.Loading.DataFiles
import PlaceholderScripts.Proofs.Library.ManifestReading
import PlaceholderScripts.Proofs.Library.Thousands
import PlaceholderScripts.Proofs.Console.Transcript
import PlaceholderScripts.Proofs.Console.TypedCode
import PlaceholderScripts.Proofs.Library.Padding
import PlaceholderScripts.Proofs.Library.Injection
import PlaceholderScripts.Proofs.Evaluation.StoredValues
import PlaceholderScripts.Proofs.Evaluation.Snapshot
import PlaceholderScripts.Proofs.Loading.Registrations
import PlaceholderScripts.Proofs.Library.Joining
import PlaceholderScripts.Proofs.Pool.Layers
import PlaceholderScripts.Proofs.Configuration.RoundTrip
