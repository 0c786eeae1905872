import CandyCloud.Route.Replay
import CandyCloud.Route.PolicyGate
import CandyCloud.Route.Stranding
import CandyCloud.Management.Idempotency
import CandyCloud.Client.Selection
import CandyCloud.Client.GlobalEgress
import CandyCloud.Upgrade.Orphans
import CandyCloud.Enrollment.Bootstrap
import CandyCloud.Identity.PlatformAdmins
import CandyCloud.Identity.RotationRuns
import CandyCloud.Identity.Resets
import CandyCloud.Identity.Registration
import CandyCloud.Worker.Attempts
import CandyCloud.Worker.GeoExpansion
import CandyCloud.Worker.PathPolicies
import CandyCloud.Worker.Writable
import CandyCloud.Access.Liveness
import CandyCloud.Enrollment.LostRenewals
import CandyCloud.Client.Reregistration
import CandyCloud.Worker.DirectDialers
import CandyCloud.Worker.RateLimits
import CandyCloud.Telemetry.RouteDrift
import CandyCloud.Client.Timestamps
import CandyCloud.Client.UsableKeys
import CandyCloud.Client.ProjectionColumns
import CandyCloud.Client.ServerNames
import CandyCloud.Client.ContentHashes
import CandyCloud.Client.Preimages
import CandyCloud.Worker.PrefixArithmetic
import CandyCloud.Identity.RateLimits
import CandyCloud.Accounting
import CandyCloud.Telemetry.HttpReport
import CandyCloud.Control.Revisions
import CandyCloud.Route.Advance
