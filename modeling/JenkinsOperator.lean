import JenkinsOperator.Api.Client
import JenkinsOperator.Api.Event
import JenkinsOperator.Api.Exchange
import JenkinsOperator.Api.Recorder
import JenkinsOperator.Api.Session
import JenkinsOperator.Api.Url
import JenkinsOperator.Cluster.Rehearsal
import JenkinsOperator.Cluster.Store
import JenkinsOperator.Completion
import JenkinsOperator.Data.Bounds
import JenkinsOperator.Data.OrderedMap
import JenkinsOperator.DeployKey
import JenkinsOperator.DeployKey.Base64
import JenkinsOperator.DeployKey.Der
import JenkinsOperator.DeployKey.Pem
import JenkinsOperator.DeployKey.Rsa
import JenkinsOperator.Failure
import JenkinsOperator.Image
import JenkinsOperator.Json.Basic
import JenkinsOperator.Json.Fields
import JenkinsOperator.Json.Legible
import JenkinsOperator.Json.Printer
import JenkinsOperator.Json.Reader
import JenkinsOperator.Json.Shape
import JenkinsOperator.Json.Shortest
import JenkinsOperator.Notification
import JenkinsOperator.Pass.Program
import JenkinsOperator.Pass.Reconcile
import JenkinsOperator.Plugin.Basic
import JenkinsOperator.Plugin.Conflict
import JenkinsOperator.Plugin.Graph
import JenkinsOperator.Proofs.Api.Conflict
import JenkinsOperator.Proofs.Api.Target
import JenkinsOperator.Proofs.Cluster.Announcement
import JenkinsOperator.Proofs.Cluster.Change
import JenkinsOperator.Proofs.Cluster.Halt
import JenkinsOperator.Proofs.Cluster.Ledger
import JenkinsOperator.Proofs.Cluster.Rest
import JenkinsOperator.Proofs.Cluster.Schedule
import JenkinsOperator.Proofs.Cluster.Snapshot
import JenkinsOperator.Proofs.Cluster.Story
import JenkinsOperator.Proofs.Cluster.Updates
import JenkinsOperator.Proofs.Cluster.World
import JenkinsOperator.Proofs.Completion
import JenkinsOperator.Proofs.Data.OrderedMap
import JenkinsOperator.Proofs.DeployKey.Base64
import JenkinsOperator.Proofs.DeployKey.Der
import JenkinsOperator.Proofs.DeployKey.Key
import JenkinsOperator.Proofs.DeployKey.Marker
import JenkinsOperator.Proofs.DeployKey.Pem
import JenkinsOperator.Proofs.DeployKey.Rsa
import JenkinsOperator.Proofs.Image.Grammar
import JenkinsOperator.Proofs.Image.Pattern
import JenkinsOperator.Proofs.Image.Reference
import JenkinsOperator.Proofs.Image.Split
import JenkinsOperator.Proofs.Isolation.Scene
import JenkinsOperator.Proofs.Json.Fields
import JenkinsOperator.Proofs.Json.Legible
import JenkinsOperator.Proofs.Pass.Candour
import JenkinsOperator.Proofs.Pass.Conduct
import JenkinsOperator.Proofs.Pass.Halted
import JenkinsOperator.Proofs.Pass.Lawful
import JenkinsOperator.Proofs.Pass.Past
import JenkinsOperator.Proofs.Pass.Protocol
import JenkinsOperator.Proofs.Pass.Steps
import JenkinsOperator.Proofs.Patch.Equivalence
import JenkinsOperator.Proofs.Patch.Merge
import JenkinsOperator.Proofs.Patch.Server
import JenkinsOperator.Proofs.Plugin.Ingestion
import JenkinsOperator.Proofs.Plugin.Pins
import JenkinsOperator.Proofs.Plugin.Token
import JenkinsOperator.Proofs.Plugin.Verdict
import JenkinsOperator.Proofs.Resource.Defaults
import JenkinsOperator.Proofs.Resource.Document
import JenkinsOperator.Proofs.Resource.Metadata
import JenkinsOperator.Proofs.Route.Attempt
import JenkinsOperator.Proofs.Route.Balance
import JenkinsOperator.Proofs.Route.Basic
import JenkinsOperator.Proofs.Route.Fixpoint
import JenkinsOperator.Proofs.Route.Forecast
import JenkinsOperator.Proofs.Route.Gist
import JenkinsOperator.Proofs.Route.Interruption
import JenkinsOperator.Proofs.Route.Order
import JenkinsOperator.Proofs.Route.Outcome
import JenkinsOperator.Proofs.Route.Resumption
import JenkinsOperator.Proofs.Route.Standing
import JenkinsOperator.Proofs.Route.Travel
import JenkinsOperator.Proofs.Route.Visit
import JenkinsOperator.Proofs.Text.Bytes
import JenkinsOperator.Proofs.Text.Class
import JenkinsOperator.Proofs.Text.Cut
import JenkinsOperator.Proofs.Text.Digits
import JenkinsOperator.Proofs.Text.Joined
import JenkinsOperator.Proofs.Time.Order
import JenkinsOperator.Proofs.Time.Rfc3339
import JenkinsOperator.Proofs.Validation.Base
import JenkinsOperator.Proofs.Validation.SeedJobs
import JenkinsOperator.Proofs.Validation.User
import JenkinsOperator.Resource.Basic
import JenkinsOperator.Resource.Defaults
import JenkinsOperator.Resource.Definition
import JenkinsOperator.Resource.Document
import JenkinsOperator.Resource.Metadata
import JenkinsOperator.SeedJobs
import JenkinsOperator.Settings.Arguments
import JenkinsOperator.Settings.Basic
import JenkinsOperator.Settings.Logging
import JenkinsOperator.Text.Blank
import JenkinsOperator.Text.Cut
import JenkinsOperator.Text.Digits
import JenkinsOperator.Text.Printable
import JenkinsOperator.Text.Quoted
import JenkinsOperator.Time.Basic
import JenkinsOperator.Time.Rfc3339
import JenkinsOperator.Time.Span
import JenkinsOperator.Validation.Base
import JenkinsOperator.Validation.Report
import JenkinsOperator.Validation.User
import JenkinsOperator.Watch.Intake
import JenkinsOperator.Watch.Listing
import JenkinsOperator.Watch.Round
import JenkinsOperator.Watch.Subscription
import JenkinsOperator.Watch.Trigger
