import Aggregation.Discovery
import Aggregation.Json.Printer
import Aggregation.Json.Reader
import Aggregation.Serving
import Aggregation.Transport
import Aggregation.Http.Router
import Aggregation.Hooks
import Aggregation.Logging
import Aggregation.Loops
import Aggregation.Server
import Aggregation.Settings.Load
import Aggregation.Settings.Writer
import Aggregation.Proofs.Gate
import Aggregation.Proofs.Feed
import Aggregation.Proofs.Listener.Interleaving
import Aggregation.Proofs.Listener.Convergence
import Aggregation.Proofs.Listener.Latch
import Aggregation.Proofs.Listener.Ledger
import Aggregation.Proofs.Listener.Lossless
import Aggregation.Proofs.Json.Printer
import Aggregation.Proofs.Store.Documents
import Aggregation.Proofs.Discovery
import Aggregation.Proofs.Gate.History
import Aggregation.Proofs.Store.Upsert
import Aggregation.Proofs.Sync
import Aggregation.Proofs.Assembly
import Aggregation.Proofs.Server
import Aggregation.Proofs.Text.Percent
import Aggregation.Proofs.Url.Path
import Aggregation.Proofs.Url.Parser
import Aggregation.Proofs.Url.Below
import Aggregation.Proofs.Http.Router
import Aggregation.Proofs.Shutdown
import Aggregation.Proofs.Store.Refusal
import Aggregation.Proofs.Hooks
import Aggregation.Proofs.Server.Configured
import Aggregation.Proofs.Health
import Aggregation.Proofs.Http.Health
import Aggregation.Proofs.Server.Health
import Aggregation.Proofs.Text.Form
import Aggregation.Proofs.Store.Replay
import Aggregation.Proofs.Health.Registry
import Aggregation.Proofs.Http.Exchange
import Aggregation.Proofs.Http.Forward
import Aggregation.Proofs.Http.Gateway
import Aggregation.Proofs.Text.Digits
import Aggregation.Proofs.Json.Reader
import Aggregation.Proofs.Settings.RoundTrip
import Aggregation.Proofs.Store.Registered
import Aggregation.Proofs.Http.Decision
import Aggregation.Proofs.Http.HopByHop
import Aggregation.Proofs.Store.Submissions
import Aggregation.Proofs.Sync.Additions
import Aggregation.Proofs.Sync.Start
import Aggregation.Proofs.Sync.Completes
import Aggregation.Proofs.Sync.Resync
import Aggregation.Proofs.Settings.Problems
import Aggregation.Proofs.Http.Single
import Aggregation.Proofs.Http.Withheld
import Aggregation.Proofs.Availability
import Aggregation.Proofs.Availability.Pass
import Aggregation.Proofs.Store.Encoding
import Aggregation.Proofs.Http.Listing
import Aggregation.Proofs.Names
import Aggregation.Proofs.Assembly.Outcome
import Aggregation.Proofs.Hooks.Registry
import Aggregation.Proofs.Shutdown.Waiting
import Aggregation.Proofs.Metrics.Balance
