import SimulatorBroker.Actions.Accurate
import SimulatorBroker.Actions.Busy
import SimulatorBroker.Actions.Fences
import SimulatorBroker.Actions.Flag
import SimulatorBroker.Actions.Guarded
import SimulatorBroker.Actions.Revoked
import SimulatorBroker.Actions.Store
import SimulatorBroker.Artifacts.Rollback
import SimulatorBroker.Broker.Commands
import SimulatorBroker.Broker.Sections
import SimulatorBroker.Capacity.OrderFree
import SimulatorBroker.Cli.Arguments
import SimulatorBroker.CliTar.Pax
import SimulatorBroker.CliTar.Portable
import SimulatorBroker.CliTar.Tar
import SimulatorBroker.Config.Decoded
import SimulatorBroker.Config.Fields
import SimulatorBroker.Config.Host
import SimulatorBroker.Config.HostFormat
import SimulatorBroker.Config.Project
import SimulatorBroker.Containment.Descendants
import SimulatorBroker.Containment.Incomplete
import SimulatorBroker.Containment.Recognised
import SimulatorBroker.Dashboard.Outcomes
import SimulatorBroker.Dashboard.ProcessTree
import SimulatorBroker.Deletes.Reported
import SimulatorBroker.Effects.Turns
import SimulatorBroker.Events.Append
import SimulatorBroker.Events.Delivery
import SimulatorBroker.Events.TailAgrees
import SimulatorBroker.Groups.Belonging
import SimulatorBroker.Hosting.Reconcile
import SimulatorBroker.Hosting.Repair
import SimulatorBroker.Hosting.Setup
import SimulatorBroker.Lock.Escapes
import SimulatorBroker.Paths.Protected
import SimulatorBroker.Persistence.Acquire
import SimulatorBroker.Persistence.Capacity
import SimulatorBroker.Persistence.Commands
import SimulatorBroker.Persistence.Keeps
import SimulatorBroker.Persistence.Lifecycle
import SimulatorBroker.Persistence.Loads
import SimulatorBroker.Persistence.Normalize
import SimulatorBroker.Persistence.Rewrites
import SimulatorBroker.Persistence.Stored
import SimulatorBroker.Persistence.Survival
import SimulatorBroker.Persistence.Survives
import SimulatorBroker.PublicSurface.HomePaths
import SimulatorBroker.Ranking.WarmReuse
import SimulatorBroker.Reading.CapacityCheck
import SimulatorBroker.Runs.Compatible
import SimulatorBroker.Runs.Counts
import SimulatorBroker.Runs.Holders
import SimulatorBroker.Runs.Hosting
import SimulatorBroker.Runs.Interleaved
import SimulatorBroker.Runs.Latch
import SimulatorBroker.Runs.Live
import SimulatorBroker.Runs.RolledBack
import SimulatorBroker.Service.Admission
import SimulatorBroker.Service.Exclusive
import SimulatorBroker.Service.Freshness
import SimulatorBroker.Service.RequestBody
import SimulatorBroker.Service.Serial
import SimulatorBroker.Setup.Versions
import SimulatorBroker.Simctl.Confirmed
import SimulatorBroker.Text.Canonical
import SimulatorBroker.Text.Json
import SimulatorBroker.Text.Properties
import SimulatorBroker.Text.Utf8
