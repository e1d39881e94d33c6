import SimulatorBroker.Broker.Acquire

/-!
# Status, projects and the snapshot

The commands that load or read the broker state without changing a holder, and
the snapshot reader that changes nothing at all.
-/

namespace SimulatorBroker.Broker

open SimulatorBroker.Effects
open SimulatorBroker.State

/-! ## The snapshot reader -/

/-- What the loop over the lease files carries. -/
structure SnapshotScan where
  registry : Registry
  leases : List Lease := []
  sampled : Option (List ProcessRecord) := none

/-- One turn of the loop: leftovers and dead leases are left out, a dead lease
with process metadata stays. -/
def snapshotLease (skipLeaseIds : List LeaseId) (timestamp : Timestamp) (scan : SnapshotScan)
    (lease : Lease) : Broker SnapshotScan := do
  if lease.leaseId ∈ skipLeaseIds then
    return { scan with leases := scan.leases ++ [lease] }
  else if isLeftoverAcquireRollbackLease lease scan.registry then
    return scan
  else
    let (live, sampled) ← leaseOwnerIsLive lease scan.sampled timestamp
    if live || lease.hasContainmentProcessMetadata then
      return { scan with sampled, leases := scan.leases ++ [lease] }
    else
      let registry := scan.registry.modify lease.aliasName fun entry =>
        { entry with lastLeaseReleasedAt := some timestamp }
      return { scan with sampled, registry }

def readBrokerStateSnapshot (timestamp : Timestamp) (inventory : Option SimctlInventory := none)
    (skipLeaseIds : List LeaseId := []) : Broker BrokerState := do
  let hostConfig ← readHostConfigOrThrow
  let knownProjects ← perform .readKnownProjects
  let rawRegistry ← perform .readRegistry
  let pins ← perform .listPins
  let files ← perform .listLeases
  let scan ← files.foldlM (snapshotLease skipLeaseIds timestamp)
    { registry := normalizeRegistry rawRegistry hostConfig timestamp }
  let leasesByAlias := indexLeases scan.leases
  let pinsByAlias := indexPins pins
  let adopted := adoptHolders leasesByAlias pinsByAlias hostConfig timestamp scan.registry
  let synced ← syncRegistryWithSimctl hostConfig adopted inventory
  return {
    hostConfig, knownProjects, leases := scan.leases, leasesByAlias, pins, pinsByAlias,
    registry := synced.touch timestamp, timestamp }

/-- What `createAppSnapshot` reads beside the state; an idle policy that cannot be
read counts as none. -/
def createAppSnapshot : Broker Unit := do
  let _ ← perform .readEvents
  ignoringErrors do let _ ← perform .readIdlePolicy

/-- `writeAppSnapshotArtifact`; a missing host config is no error. -/
def writeAppSnapshotArtifact (timestamp : Timestamp) (skipLeaseIds : List LeaseId := []) :
    Broker Unit :=
  tryCatch
    (do
      let _ ← readBrokerStateSnapshot timestamp none skipLeaseIds
      createAppSnapshot
      writeJsonAtomicRestricted .appSnapshot)
    fun error =>
      if error.isBrokerError ∧ error.reasonCode = some .missingHostConfig then pure ()
      else throw error

def writeAppSnapshotArtifactUnderMutationLock (skipLeaseIds : List LeaseId := []) :
    Broker Unit :=
  withLock .lease do
    let timestamp ← perform .now
    writeAppSnapshotArtifact timestamp skipLeaseIds

def appSnapshotBrokerUnderMutationLock : Broker BrokerState :=
  withLock .lease do
    let timestamp ← perform .now
    let state ← readBrokerStateSnapshot timestamp
    createAppSnapshot
    return state

/-! ## Status -/

/-- `hostStatusBroker` and `listSimulatorsBroker`. -/
def hostStatusBroker (paths : BrokerPaths) : Broker BrokerState :=
  withLock .lease do
    let timestamp ← perform .now
    loadBrokerState paths { timestamp }

/-- The host config is read once before the lock: an error of the broker's own
is an issue of the report and there is nothing to load. -/
def doctorBroker (paths : BrokerPaths) : Broker (Option BrokerState) := do
  let readable ← tryCatch
    (do
      let _ ← readHostConfigOrThrow
      return true)
    fun error => if error.isBrokerError then pure false else throw error
  if readable then
    let state ← withLock .lease do
      let timestamp ← perform .now
      loadBrokerState paths { timestamp }
    return some state
  else
    return none

/-! ## Projects -/

def rememberKnownProjectFromDisk (project : ProjectConfig) : Broker Unit := do
  let knownProjects ← perform .readKnownProjects
  let _ ← rememberKnownProject knownProjects project

/-- `explainLeaseBroker`: the available aliases in order. -/
def explainLeaseBroker (paths : BrokerPaths) (purposeId : PurposeId)
    (explicitAlias : Option AliasName) : Broker (List AliasName) :=
  withLock .lease do
    let timestamp ← perform .now
    let state ← loadBrokerState paths { timestamp }
    let project ← perform .readProject
    rememberKnownProjectFromDisk project
    let purpose ← getPurpose project purposeId
    let analysis := buildCandidateAnalysis state purpose project explicitAlias
    return (sortCandidates (analysis.filter fun candidate => candidate.reasons.isEmpty)).map
      fun candidate => candidate.hostAlias.aliasName

/-- `validateProjectBroker` and `showProjectBroker`. -/
def validateProjectBroker : Broker ProjectConfig :=
  withLock .lease do
    let project ← perform .readProject
    rememberKnownProjectFromDisk project
    return project

/-- `forgetKnownProjectBroker` under its lock; whether the project was known. -/
def forgetKnownProject (paths : BrokerPaths) (projectId : ProjectId) (timestamp : Timestamp) :
    Broker Bool := do
  let state ← loadBrokerState paths { timestamp }
  if state.leases.any (fun lease => decide (lease.projectId = projectId))
      || state.pins.any (fun pin => decide (pin.projectId = projectId)) then
    throw (.broker .projectInUse)
  else if state.knownProjects.any fun project => decide (project.projectId = projectId) then
    writeKnownProjects (state.knownProjects.filter fun project => project.projectId ≠ projectId)
    let _ ← appendEventRecord { type := .projectForgotten, timestamp }
    return true
  else
    return false

def forgetKnownProjectBroker (paths : BrokerPaths) (projectId : ProjectId)
    (timestamp : Timestamp) : Broker Bool :=
  withLock .lease (forgetKnownProject paths projectId timestamp)

end SimulatorBroker.Broker
