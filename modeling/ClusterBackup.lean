import ClusterBackup.Text.Blank
import ClusterBackup.Text.Lowercase
import ClusterBackup.Text.Utf8
import ClusterBackup.Json.Draft
import ClusterBackup.Json.Writer
import ClusterBackup.Json.Reader
import ClusterBackup.Backup
import ClusterBackup.Restore
import ClusterBackup.Snapshot
import ClusterBackup.Config
import ClusterBackup.Simulated.Client
import ClusterBackup.Invocation.Json
import ClusterBackup.Admin.Json
import ClusterBackup.Config.Json
import ClusterBackup.Metrics
import ClusterBackup.Watch
import ClusterBackup.Url
import ClusterBackup.Snapshot.Directory
import ClusterBackup.Http.Client
import ClusterBackup.Registry
import ClusterBackup.Rest
import ClusterBackup.Service
import ClusterBackup.Yaml.Token
import ClusterBackup.Yaml.Node
import ClusterBackup.Config.Yaml
import ClusterBackup.CommandLine.Arguments
import ClusterBackup.Http.SocketAddress
import ClusterBackup.CommandLine
import ClusterBackup.Main
import ClusterBackup.Proofs.Restore.MissingBackup
import ClusterBackup.Proofs.InvalidArgument
import ClusterBackup.Proofs.Simulated.PollSchedule
import ClusterBackup.Proofs.Outcome.WellFormed
import ClusterBackup.Proofs.Simulated.JobLedger
import ClusterBackup.Proofs.Simulated.Findings
import ClusterBackup.Proofs.Simulated.Collections
import ClusterBackup.Proofs.Simulated.Modes
import ClusterBackup.Proofs.Pool
import ClusterBackup.Proofs.Pool.Unforced
import ClusterBackup.Proofs.Simulated.Backups
import ClusterBackup.Proofs.Simulated.RoundTrip
import ClusterBackup.Proofs.Failures
import ClusterBackup.Proofs.Http.Call
import ClusterBackup.Proofs.Http.Failures
import ClusterBackup.Proofs.Http.Requests
import ClusterBackup.Proofs.Http.SettledName
import ClusterBackup.Proofs.Http.RequestIds
import ClusterBackup.Proofs.Pollable
import ClusterBackup.Proofs.Simulated.Frame
import ClusterBackup.Proofs.Reports
import ClusterBackup.Proofs.Rest.Conservation
import ClusterBackup.Proofs.Rest.Refinement
import ClusterBackup.Proofs.Simulated.AtOnce
import ClusterBackup.Proofs.Http.Classification
import ClusterBackup.Proofs.Snapshot.Order
import ClusterBackup.Proofs.Watch.Retry
import ClusterBackup.Proofs.Watch.Verdict
import ClusterBackup.Proofs.BlankName
import ClusterBackup.Proofs.Snapshot.Directory
import ClusterBackup.Proofs.Snapshot.Scheme
import ClusterBackup.Proofs.Status.Spelling
import ClusterBackup.Proofs.Json.RoundTrip
import ClusterBackup.Proofs.Url.Path
import ClusterBackup.Proofs.Url.Base
import ClusterBackup.Proofs.Http.Meaning
import ClusterBackup.Proofs.Http.Optimize
import ClusterBackup.Proofs.BlankLocation
import ClusterBackup.Proofs.CommandLine.Follow
import ClusterBackup.Proofs.CommandLine.Exit
import ClusterBackup.Proofs.Registry
import ClusterBackup.Proofs.Simulated.FaultQueues
import ClusterBackup.Proofs.Simulated.CallLog
