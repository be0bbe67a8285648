import HomeGateway.Gateway.Health
import HomeGateway.Main
import HomeGateway.Proofs.Roster
import HomeGateway.Proofs.Announcements
import HomeGateway.Proofs.Asking
import HomeGateway.Proofs.ReadLoop
import HomeGateway.Proofs.Responses
import HomeGateway.Proofs.Upkeep
import HomeGateway.Proofs.Stations
import HomeGateway.Proofs.Holdings
import HomeGateway.Proofs.Books
import HomeGateway.Proofs.Lives
import HomeGateway.Proofs.Isolation
import HomeGateway.Proofs.Serving
import HomeGateway.Proofs.OwnWrites
import HomeGateway.Proofs.Leftovers
import HomeGateway.Proofs.Additions
import HomeGateway.Proofs.Frames
import HomeGateway.Proofs.Commissioning
import HomeGateway.Proofs.Farewell
import HomeGateway.Proofs.Advertised
import HomeGateway.Proofs.Readings
import HomeGateway.Proofs.Tidings
import HomeGateway.Proofs.Visits
import HomeGateway.Proofs.Happenings
import HomeGateway.Proofs.Homes
import HomeGateway.Proofs.Refusals
import HomeGateway.Proofs.Tenancy
import HomeGateway.Proofs.Presence
import HomeGateway.Proofs.Mirror
import HomeGateway.Proofs.Fabrics
import HomeGateway.Proofs.Layers
import HomeGateway.Proofs.Annals
import HomeGateway.Proofs.Neighbours
import HomeGateway.Proofs.Labels
import HomeGateway.Proofs.Slips
import HomeGateway.Proofs.RoundTrips
import HomeGateway.Proofs.Capacity
import HomeGateway.Proofs.LockHistory
import HomeGateway.Proofs.ManualCodes
import HomeGateway.Proofs.QrCodes
import HomeGateway.Proofs.Merging
import HomeGateway.Proofs.Snapshots
import HomeGateway.Proofs.Lookups
import HomeGateway.Proofs.Discovery
import HomeGateway.Proofs.Thermostats
import HomeGateway.Proofs.PeerCommands
import HomeGateway.Proofs.FreshFabrics
import HomeGateway.Proofs.Arguments
import HomeGateway.Proofs.Queries
import HomeGateway.Proofs.Overlays
import HomeGateway.Proofs.NodeIds
import HomeGateway.Proofs.Windows
import HomeGateway.Proofs.CloseReasons
