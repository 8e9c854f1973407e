import MultiCluster.Api.Effect
import MultiCluster.Api.ErrorBody
import MultiCluster.Api.Script
import MultiCluster.Api.Store
import MultiCluster.App
import MultiCluster.Clock
import MultiCluster.CommandLine.Arguments
import MultiCluster.CommandLine.FileTree
import MultiCluster.CommandLine.Help
import MultiCluster.CommandLine.Job
import MultiCluster.Dict
import MultiCluster.Duration
import MultiCluster.HostName.Label
import MultiCluster.HostName.Spelling
import MultiCluster.Http.Client
import MultiCluster.Http.Exchange
import MultiCluster.Http.Host
import MultiCluster.Http.Message
import MultiCluster.Http.Path
import MultiCluster.Http.Proxy
import MultiCluster.Http.Url
import MultiCluster.Target
import MultiCluster.Json.Binary64
import MultiCluster.Json.Codec
import MultiCluster.Json.Document
import MultiCluster.Json.Misfit
import MultiCluster.Json.Number
import MultiCluster.Json.Record
import MultiCluster.Json.Tagged
import MultiCluster.Json.Token
import MultiCluster.Json.Value
import MultiCluster.Lifecycle.Changes
import MultiCluster.Lifecycle.Plan
import MultiCluster.Lifecycle.Operations
import MultiCluster.Main
import MultiCluster.Polling.Config
import MultiCluster.Polling.Source
import MultiCluster.Polling.Wait
import MultiCluster.Proofs.Delete.Cancellation
import MultiCluster.Proofs.Delete.Children
import MultiCluster.Proofs.Plan.Calls
import MultiCluster.Proofs.Plan.Course
import MultiCluster.Proofs.Plan.Steps
import MultiCluster.Proofs.Plan.Turns
import MultiCluster.Proofs.Plan.Writes
import MultiCluster.Proofs.Polling.Cancellation
import MultiCluster.Proofs.Polling.Timetable
import MultiCluster.Proofs.Store.Deployment
import MultiCluster.Proofs.Store.Frame
import MultiCluster.Proofs.Store.Publication
import MultiCluster.Proofs.Store.Replay
import MultiCluster.Proofs.Store.Unfailing
import MultiCluster.Proofs.Target.Order
import MultiCluster.Proofs.Template.Reference
import MultiCluster.Proofs.Update.Answers
import MultiCluster.Proofs.Update.Convergence
import MultiCluster.Proofs.Update.Refresh
import MultiCluster.Proofs.Update.Resolution
import MultiCluster.Proofs.Update.Retry
import MultiCluster.Proofs.Update.Targets
import MultiCluster.Target.Delta
import MultiCluster.Target.Set
import MultiCluster.Template.CatalogRef
import MultiCluster.Template.Latest
import MultiCluster.Template.Version
import MultiCluster.Terminal
import MultiCluster.Text.Split
import MultiCluster.Text.Composition
import MultiCluster.Text.Digits
import MultiCluster.Text.Quoted
import MultiCluster.Text.Mark
import MultiCluster.Text.Punycode
import MultiCluster.Text.Octets
import MultiCluster.Wire.App
import MultiCluster.Wire.Effect
import MultiCluster.Wire.Spec
import MultiCluster.Proofs.Lifecycle.Conclusion
import MultiCluster.Proofs.Lifecycle.Creation
import MultiCluster.Proofs.Lifecycle.Success
import MultiCluster.Proofs.Lifecycle.Errors
import MultiCluster.Proofs.Lifecycle.Cancellation
import MultiCluster.Proofs.Lifecycle.Declared
import MultiCluster.Proofs.Lifecycle.Reading
import MultiCluster.Proofs.Json.Lexing
import MultiCluster.Proofs.Json.Spelling
import MultiCluster.Proofs.Json.Faithful
import MultiCluster.Proofs.Json.Tags
import MultiCluster.Proofs.Wire.RoundTrip
import MultiCluster.Proofs.Update.Saved
import MultiCluster.Proofs.Store.Ownership
import MultiCluster.Proofs.Store.Session
import MultiCluster.Proofs.Http.Address
import MultiCluster.Proofs.Http.Requests
import MultiCluster.Proofs.Http.Answers
import MultiCluster.Proofs.Lifecycle.Kinds
import MultiCluster.Proofs.Lifecycle.Listing
import MultiCluster.Proofs.Plan.Kinds
import MultiCluster.Proofs.Target.Delta
import MultiCluster.Proofs.Polling.Bound
import MultiCluster.Proofs.Update.Version
import MultiCluster.Proofs.Text.Octets
import MultiCluster.Proofs.Template.Precedence
import MultiCluster.Proofs.Template.Newest
import MultiCluster.Proofs.Template.Grammar
import MultiCluster.Proofs.Polling.Backoff
import MultiCluster.Proofs.Polling.Misses
import MultiCluster.Proofs.Lifecycle.Namespace
import MultiCluster.Proofs.Json.Members
import MultiCluster.Proofs.Json.Contents
import MultiCluster.Proofs.Json.Growth
import MultiCluster.Proofs.Json.Tolerance
import MultiCluster.Proofs.Wire.Growth
import MultiCluster.Proofs.Target.Validity
import MultiCluster.Proofs.Text.Trim
import MultiCluster.Proofs.Template.Rank
import MultiCluster.Proofs.Http.Octets
import MultiCluster.Proofs.Http.Endings
import MultiCluster.Proofs.Http.Targets
