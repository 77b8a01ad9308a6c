import DirectorySessions.Context.Json
import DirectorySessions.Json.Overlay
import DirectorySessions.Main
import DirectorySessions.Proofs.Connection.Anonymity
import DirectorySessions.Proofs.Connection.BadLines
import DirectorySessions.Proofs.Connection.Departure
import DirectorySessions.Proofs.Connection.Gate
import DirectorySessions.Proofs.Connection.LongLines
import DirectorySessions.Proofs.Connection.Outstanding
import DirectorySessions.Proofs.Connection.Responses
import DirectorySessions.Proofs.Context.RoundTrip
import DirectorySessions.Proofs.Decimal.Bounds
import DirectorySessions.Proofs.Json.Paths
import DirectorySessions.Proofs.Logging.Directives
import DirectorySessions.Proofs.Registry.Abandoning
import DirectorySessions.Proofs.Registry.Accounting
import DirectorySessions.Proofs.Registry.AfterClosing
import DirectorySessions.Proofs.Registry.Endings
import DirectorySessions.Proofs.Registry.Firing
import DirectorySessions.Proofs.Registry.Isolation
import DirectorySessions.Proofs.Registry.Purging
import DirectorySessions.Proofs.Registry.TeardownOrder
import DirectorySessions.Proofs.Registry.Termination
import DirectorySessions.Proofs.Response.Framing
import DirectorySessions.Proofs.Settings.Layers
