import QuobyteMesos.TaskIds
import QuobyteMesos.TerminatedServices
import QuobyteMesos.OfferAnswers
import QuobyteMesos.CoreLaunches
import QuobyteMesos.Cluster
import QuobyteMesos.Recovery
import QuobyteMesos.CoreGate
import QuobyteMesos.KillDecision
import QuobyteMesos.Shutdown
import QuobyteMesos.Reconciliation
import QuobyteMesos.KnownDead
import QuobyteMesos.ProbeAnswers
import QuobyteMesos.StateStore
import QuobyteMesos.CoreCompleteness
import QuobyteMesos.LaunchAccounting
import QuobyteMesos.ReservedPorts
import QuobyteMesos.MemoryLimits
import QuobyteMesos.ResourceText
import QuobyteMesos.WrittenCommand
import QuobyteMesos.KnownHosts
import QuobyteMesos.Redelivery
import QuobyteMesos.HostRestriction
import QuobyteMesos.DeviceDiscovery
import QuobyteMesos.HealthCount
import QuobyteMesos.UnknownUpdates
import QuobyteMesos.BringUp
import QuobyteMesos.ProbeProtocol
import QuobyteMesos.Incarnations
import QuobyteMesos.VersionService
import QuobyteMesos.ClusterRuns
import QuobyteMesos.UpdateOrder
