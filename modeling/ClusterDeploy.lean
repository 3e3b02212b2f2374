import ClusterDeploy.Application
import ClusterDeploy.Artifact
import ClusterDeploy.Attempt
import ClusterDeploy.Cluster
import ClusterDeploy.CommandLine.Arguments
import ClusterDeploy.CommandLine.Help
import ClusterDeploy.CommandLine.Program
import ClusterDeploy.CommandLine.Settings
import ClusterDeploy.Config
import ClusterDeploy.Counter
import ClusterDeploy.Decimal.Binary64
import ClusterDeploy.Decimal.Paired
import ClusterDeploy.Decimal.Shortest
import ClusterDeploy.Deployment
import ClusterDeploy.Dialogue
import ClusterDeploy.Digest.Sha256
import ClusterDeploy.Duration
import ClusterDeploy.Error
import ClusterDeploy.Failure
import ClusterDeploy.Files.Fault
import ClusterDeploy.Files.LedgerFile
import ClusterDeploy.Files.System
import ClusterDeploy.Http.Exchange
import ClusterDeploy.Http.Host
import ClusterDeploy.Http.Url
import ClusterDeploy.Http.Wire
import ClusterDeploy.Job
import ClusterDeploy.Json.Record
import ClusterDeploy.Json.Syntax
import ClusterDeploy.Json.Value
import ClusterDeploy.Launch
import ClusterDeploy.Ledger.Call
import ClusterDeploy.Ledger.Cell
import ClusterDeploy.Ledger.Document
import ClusterDeploy.Ledger.Fault
import ClusterDeploy.Ledger.Location
import ClusterDeploy.Ledger.Record
import ClusterDeploy.Ledger.Schema
import ClusterDeploy.Ledger.Store
import ClusterDeploy.Ledger.Table
import ClusterDeploy.Live.Files
import ClusterDeploy.Live.Network
import ClusterDeploy.Live.Play
import ClusterDeploy.Main
import ClusterDeploy.MemorySize
import ClusterDeploy.Platform.Call
import ClusterDeploy.Platform.JobResult
import ClusterDeploy.Platform.ResourceManager
import ClusterDeploy.Platform.Simulated
import ClusterDeploy.Proofs.Application
import ClusterDeploy.Proofs.Classpath
import ClusterDeploy.Proofs.CommandLine.Deploying
import ClusterDeploy.Proofs.CommandLine.Layering
import ClusterDeploy.Proofs.CommandLine.Verdicts
import ClusterDeploy.Proofs.Config
import ClusterDeploy.Proofs.Deployment.Attribution
import ClusterDeploy.Proofs.Deployment.Calls
import ClusterDeploy.Proofs.Deployment.Cancelling
import ClusterDeploy.Proofs.Deployment.Cleaning
import ClusterDeploy.Proofs.Deployment.Course
import ClusterDeploy.Proofs.Deployment.Expiring
import ClusterDeploy.Proofs.Deployment.Indifference
import ClusterDeploy.Proofs.Deployment.Inspecting
import ClusterDeploy.Proofs.Deployment.Orphans
import ClusterDeploy.Proofs.Deployment.Provisioning
import ClusterDeploy.Proofs.Deployment.Recording
import ClusterDeploy.Proofs.Deployment.Reporting
import ClusterDeploy.Proofs.Deployment.Stores
import ClusterDeploy.Proofs.Deployment.Teardown
import ClusterDeploy.Proofs.Dialogue.Hiding
import ClusterDeploy.Proofs.Dialogue.Questions
import ClusterDeploy.Proofs.Dialogue.Runs
import ClusterDeploy.Proofs.Duration
import ClusterDeploy.Proofs.Failure
import ClusterDeploy.Proofs.Http.Parts
import ClusterDeploy.Proofs.Http.Paths
import ClusterDeploy.Proofs.Http.Requests
import ClusterDeploy.Proofs.Http.Segments
import ClusterDeploy.Proofs.Http.Urls
import ClusterDeploy.Proofs.Json.Documents
import ClusterDeploy.Proofs.Json.Doubles
import ClusterDeploy.Proofs.Json.Numbers
import ClusterDeploy.Proofs.Json.Rewriting
import ClusterDeploy.Proofs.Json.Strings
import ClusterDeploy.Proofs.Json.Values
import ClusterDeploy.Proofs.Launch
import ClusterDeploy.Proofs.Ledger.Actions
import ClusterDeploy.Proofs.Ledger.Artifacts
import ClusterDeploy.Proofs.Ledger.Atomicity
import ClusterDeploy.Proofs.Ledger.Inspection
import ClusterDeploy.Proofs.Ledger.Layout
import ClusterDeploy.Proofs.Ledger.Listing
import ClusterDeploy.Proofs.Ledger.Manifests
import ClusterDeploy.Proofs.Ledger.Memory
import ClusterDeploy.Proofs.Ledger.Migrations
import ClusterDeploy.Proofs.Ledger.Operations
import ClusterDeploy.Proofs.Ledger.Refinement
import ClusterDeploy.Proofs.Ledger.Repairs
import ClusterDeploy.Proofs.Ledger.Requests
import ClusterDeploy.Proofs.Ledger.Restarts
import ClusterDeploy.Proofs.Ledger.Rows
import ClusterDeploy.Proofs.Ledger.Strays
import ClusterDeploy.Proofs.MemorySize
import ClusterDeploy.Proofs.Platform.Completion
import ClusterDeploy.Proofs.Platform.Conversations
import ClusterDeploy.Proofs.Platform.Environment
import ClusterDeploy.Proofs.Platform.FailureCauses
import ClusterDeploy.Proofs.Platform.Looks
import ClusterDeploy.Proofs.Platform.Polling
import ClusterDeploy.Proofs.Platform.ResultUrls
import ClusterDeploy.Proofs.Platform.Simulation
import ClusterDeploy.Proofs.Platform.Startup
import ClusterDeploy.Proofs.Platform.Submission
import ClusterDeploy.Proofs.Quantity
import ClusterDeploy.Proofs.Race
import ClusterDeploy.Proofs.Schedule
import ClusterDeploy.Proofs.Staging.Copying
import ClusterDeploy.Proofs.Staging.Failing
import ClusterDeploy.Proofs.Staging.Guarantees
import ClusterDeploy.Proofs.Staging.Isolation
import ClusterDeploy.Proofs.Staging.Observing
import ClusterDeploy.Proofs.Staging.Protocol
import ClusterDeploy.Proofs.Staging.Restaging
import ClusterDeploy.Proofs.Staging.Traces
import ClusterDeploy.Proofs.Storage.Addressing
import ClusterDeploy.Proofs.Storage.Files
import ClusterDeploy.Proofs.Storage.NameNode
import ClusterDeploy.Proofs.Storage.Paths
import ClusterDeploy.Proofs.Storage.Serving
import ClusterDeploy.Proofs.Storage.Times
import ClusterDeploy.Proofs.Storage.Uploading
import ClusterDeploy.Proofs.Supervision
import ClusterDeploy.Proofs.Task.Course
import ClusterDeploy.Proofs.Task.Leaving
import ClusterDeploy.Proofs.Task.Serving
import ClusterDeploy.Proofs.Task.Timing
import ClusterDeploy.Proofs.Text.Blanks
import ClusterDeploy.Proofs.Text.ByteOrder
import ClusterDeploy.Proofs.Text.Numerals
import ClusterDeploy.Proofs.Text.Percent
import ClusterDeploy.Proofs.Text.Splitting
import ClusterDeploy.Proofs.Text.Utf8
import ClusterDeploy.Proofs.Usability
import ClusterDeploy.Proofs.Watching
import ClusterDeploy.Quantity
import ClusterDeploy.Rehearsal.Call
import ClusterDeploy.Rehearsal.Play
import ClusterDeploy.Rehearsal.Session
import ClusterDeploy.Rehearsal.Tamper
import ClusterDeploy.Rehearsal.Terminal
import ClusterDeploy.Rehearsal.Thread
import ClusterDeploy.Rehearsal.World
import ClusterDeploy.Report
import ClusterDeploy.Rollout
import ClusterDeploy.Staging
import ClusterDeploy.Storage.Call
import ClusterDeploy.Storage.Memory
import ClusterDeploy.Storage.WebHdfs
import ClusterDeploy.Supervisor
import ClusterDeploy.Task
import ClusterDeploy.Text.Blank
import ClusterDeploy.Text.FileName
import ClusterDeploy.Text.Numeral
import ClusterDeploy.Text.Percent
import ClusterDeploy.Text.Punycode
import ClusterDeploy.Text.Terminal
import ClusterDeploy.Text.Utf8
import ClusterDeploy.Time.Calendar
import ClusterDeploy.Watcher
import ClusterDeploy.Work
