import Courier.Main
import Courier.Rehearsal.Performance
import Courier.Rehearsal.Scenario
import Courier.Proofs.Pipeline.Conservation
import Courier.Proofs.Processing.Chain
import Courier.Proofs.Publishing.Office
import Courier.Proofs.Text.Utf8
import Courier.Proofs.Json.Quoted
import Courier.Proofs.Json.Document
import Courier.Proofs.Json.Number
import Courier.Proofs.Json.Record
import Courier.Proofs.Notification.RoundTrip
import Courier.Proofs.Publishing.Around
import Courier.Proofs.Intake.Handling
import Courier.Proofs.Intake.Usable
import Courier.Proofs.Topology.Loop
import Courier.Proofs.Topology.Again
import Courier.Proofs.Path
import Courier.Proofs.Metrics.Counter
import Courier.Proofs.Metrics.Accounts
import Courier.Proofs.Metrics.Losses
import Courier.Proofs.Health.Watch
import Courier.Proofs.Worker.Logbook
import Courier.Proofs.Service.Startup
import Courier.Proofs.Service.Running
import Courier.Proofs.Service.Opening
import Courier.Proofs.Service.Stopping
import Courier.Proofs.Config.Limits
import Courier.Proofs.Publishing.Representable
import Courier.Proofs.Json.Member
import Courier.Proofs.Notification.Metadata
import Courier.Proofs.Notification.Format
import Courier.Proofs.Provider.Data
import Courier.Proofs.Provider.Attempt
import Courier.Proofs.Topology.Refusal
import Courier.Proofs.Processing.Recipient
import Courier.Proofs.Text.Unsigned
import Courier.Proofs.Config.Loading
import Courier.Proofs.Config.Precedence
import Courier.Proofs.Topology.TimeToLive
import Courier.Proofs.Processing.Indifference
import Courier.Proofs.Notification.Positional
