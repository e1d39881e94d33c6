import SimulatorBroker.Broker.Registry

/-!
# Loading the broker state

`loadBrokerState` and what it does to the lease files it finds: leftovers of a
rolled-back acquire and leases of dead owners are reclaimed, leases with process
metadata are contained first.
-/

namespace SimulatorBroker.Broker

open SimulatorBroker.Effects
open SimulatorBroker.State

/-! ## The loaded state -/

/-- The object `loadBrokerState` returns. -/
structure BrokerState where
  hostConfig : HostConfig
  knownProjects : List ProjectConfig
  leases : List Lease
  leasesByAlias : AliasName → Option Lease
  pins : List Pin
  pinsByAlias : AliasName → Option Pin
  registry : Registry
  timestamp : Timestamp

/-- `new Map(leases.map((lease) => [lease.alias, lease]))`. -/
def indexLeases (leases : List Lease) (name : AliasName) : Option Lease :=
  lastOf leases fun lease => lease.aliasName = name

def indexPins (pins : List Pin) (name : AliasName) : Option Pin :=
  lastOf pins fun pin => pin.aliasName = name

namespace BrokerState

/-- `state.registry = registry`. -/
def withRegistry (state : BrokerState) (registry : Registry) : BrokerState :=
  { state with registry }

/-- `state.leasesByAlias.delete(name)`. -/
def forgetLease (state : BrokerState) (name : AliasName) : BrokerState :=
  { state with
    leasesByAlias := fun other => if other = name then none else state.leasesByAlias other }

/-- `state.registry.aliases[name]`. -/
def entry (state : BrokerState) (name : AliasName) : Option RegistryEntry :=
  state.registry.aliases name

end BrokerState

/-! ## Containment -/

/-- `buildLeaseRuntimeMetadata(lease, { updatedAt })`. -/
def buildLeaseRuntimeMetadata (lease : Lease) (updatedAt : Option Timestamp := none) :
    LeaseRuntime :=
  { lease.runtime with
    command := normalizeRegisteredCommand lease.runtime.command
    commandPgid := positive? lease.runtime.commandPgid
    commandPid := positive? lease.runtime.commandPid
    memoryCeilingBytes := positive? lease.runtime.memoryCeilingBytes
    ownerPgid := positive? lease.runtime.ownerPgid
    ownerPid := lease.runtimeOwnerPid
    simulatorProcessNames := normalizeStringArray lease.runtime.simulatorProcessNames
    updatedAt := updatedAt.or lease.runtime.updatedAt }

/-- `lease.runtime = { ...runtime, lastObservation }`. -/
def observedLease (lease : Lease) (observation : Observation) (timestamp : Timestamp) : Lease :=
  { lease with
    runtime := { buildLeaseRuntimeMetadata lease (some timestamp) with
      lastObservation := some observation } }

def writeContainmentObservation (paths : BrokerPaths) (lease : Lease) (observation : Observation)
    (timestamp : Timestamp) : Broker Unit :=
  writeLeaseRecord paths (observedLease lease observation timestamp)

/-- The registry is written before the lease file goes. -/
def removeLeaseAfterContainment (paths : BrokerPaths) (registry : Registry) (lease : Lease)
    (timestamp : Timestamp) : Broker Registry := do
  assertLeaseArtifactPathAllowed paths lease.artifactPath
  let marked :=
    match registry.aliases lease.aliasName with
    | none => registry
    | some _ =>
        (registry.modify lease.aliasName (markAliasLeaseReleased timestamp)).touch timestamp
  if (registry.aliases lease.aliasName).isSome then writeRegistry marked
  removeLeaseRecordFiles paths lease (.contained timestamp)
  return marked

/-- What `containLeaseRecord` returns; where it throws `containment-incomplete`
the lease stays with its observation written. -/
inductive ContainedRecord where
  | contained (registry : Registry)
  | notContained (lease : Lease)
  | incomplete (lease : Lease)

def containLeaseRecord (paths : BrokerPaths) (registry : Registry) (lease : Lease)
    (reason : ContainmentReason) (now : Option Timestamp) : Broker ContainedRecord := do
  let timestamp ← nowIso now
  match ← perform (.containLeaseProcesses lease reason) with
  | .notContained observation =>
      writeContainmentObservation paths lease observation timestamp
      return .notContained (observedLease lease observation timestamp)
  | .contained result =>
      if result.cleanupComplete then
        let releasedAt ← nowIso now
        let released ← removeLeaseAfterContainment paths registry lease releasedAt
        perform (.fs .evidence)
        let _ ← appendEventRecord
          { type := .leaseContained, aliasName := lease.aliasName, leaseId := lease.leaseId
            timestamp := releasedAt }
        return .contained released
      else
        perform (.fs .evidence)
        writeContainmentObservation paths lease result.failureObservation timestamp
        return .incomplete (observedLease lease result.failureObservation timestamp)

/-! ## Which leases are alive -/

/-- `memoizeProcessSampler`: the sample is taken when it is first needed. -/
def sampleOnce (sampled : Option (List ProcessRecord)) : Broker (List ProcessRecord) :=
  match sampled with
  | some records => pure records
  | none => perform .sampleProcesses

/-- Whether the owner lives, and the sample if one has been taken by now. -/
def leaseOwnerIsLive (lease : Lease) (sampled : Option (List ProcessRecord))
    (timestamp : Timestamp) : Broker (Bool × Option (List ProcessRecord)) := do
  if ← perform (.processExists lease.ownerPid) then
    if lease.runtimeOwnerPid.isNone then
      return (false, sampled)
    else if lease.runtime.ownerRegisteredAt.isSome || lease.hasContainmentProcessMetadata then
      let records ← sampleOnce sampled
      return (ownerPidValidated lease records timestamp, some records)
    else
      return (true, sampled)
  else
    return (false, sampled)

/-- The two drift reasons an acquire records when it rolls back. -/
def acquireRollbackReasons : List String :=
  ["boot-on-acquire-failed", "reset-on-acquire-failed"]

def isLeftoverAcquireRollbackLease (lease : Lease) (registry : Registry) : Bool :=
  match registry.aliases lease.aliasName with
  | none => false
  | some entry =>
      decide (entry.health = .repairNeeded)
        && entry.driftReason.any (fun reason => decide (reason ∈ acquireRollbackReasons))
        && decide (entry.activeLeaseId ≠ some lease.leaseId)

def reclaimLeftoverAcquireRollbackLease (paths : BrokerPaths) (lease : Lease)
    (timestamp : Timestamp) : Broker Unit := do
  removeLeaseRecordFiles paths lease .leftover
  let _ ← appendEventRecord
    { type := .leaseReclaimed, aliasName := lease.aliasName, leaseId := lease.leaseId, timestamp }

/-- The lease of a dead owner without process metadata. -/
def reclaimStaleLease (paths : BrokerPaths) (registry : Registry) (lease : Lease)
    (timestamp : Timestamp) : Broker Registry := do
  removeLeaseRecordFiles paths lease (.stale timestamp)
  let _ ← appendEventRecord
    { type := .leaseReclaimed, aliasName := lease.aliasName, leaseId := lease.leaseId, timestamp }
  return registry.modify lease.aliasName (markAliasLeaseReleased timestamp)

/-! ## The load -/

/-- What the loop over the lease files carries. -/
structure LoadScan where
  registry : Registry
  activeLeases : List Lease := []
  sampled : Option (List ProcessRecord) := none

def LoadScan.keep (scan : LoadScan) (lease : Lease) : LoadScan :=
  { scan with activeLeases := scan.activeLeases ++ [lease] }

/-- One turn of the loop over the lease files. -/
def scanLease (paths : BrokerPaths) (skipLeaseIds : List LeaseId) (timestamp : Timestamp)
    (scan : LoadScan) (lease : Lease) : Broker LoadScan := do
  if lease.leaseId ∈ skipLeaseIds then
    return scan.keep lease
  else if isLeftoverAcquireRollbackLease lease scan.registry then
    reclaimLeftoverAcquireRollbackLease paths lease timestamp
    return scan
  else
    let (live, sampled) ← leaseOwnerIsLive lease scan.sampled timestamp
    if live then
      return { scan with sampled }.keep lease
    else if lease.hasContainmentProcessMetadata then
      match ← containLeaseRecord paths scan.registry lease .staleOwner (some timestamp) with
      | .contained registry => return { scan with sampled, registry }
      | .notContained _ => return { scan with sampled }
      | .incomplete observed => return { scan with sampled }.keep observed
    else
      let registry ← reclaimStaleLease paths scan.registry lease timestamp
      return { scan with sampled, registry }

/-- Lease and pin ids are taken from the files found. -/
def adoptHolders (leasesByAlias : AliasName → Option Lease) (pinsByAlias : AliasName → Option Pin)
    (config : HostConfig) (timestamp : Timestamp) (registry : Registry) : Registry :=
  { registry with
    aliases := fun name =>
      if name ∈ config.aliasNames then
        (registry.aliases name).map fun entry =>
          { entry with
            activeLeaseId := (leasesByAlias name).map (·.leaseId)
            pinId := (pinsByAlias name).map (·.pinId)
            updatedAt := timestamp }
      else registry.aliases name }

structure LoadOptions where
  timestamp : Timestamp
  skipLeaseIds : List LeaseId := []
  /-- `registryPersistenceDetails` is given: the idle commands. -/
  idlePersistence : Bool := false
  /-- `simctlInventory`, where the caller has read it already. -/
  inventory : Option SimctlInventory := none

def ensureStatePaths : Broker Unit :=
  perform (.fs .ensureDir)

def writeLoadedRegistry (options : LoadOptions) (registry : Registry) : Broker Unit :=
  if options.idlePersistence then writeIdleRegistry registry else writeRegistry registry

def loadBrokerState (paths : BrokerPaths) (options : LoadOptions) : Broker BrokerState := do
  let timestamp := options.timestamp
  ensureStatePaths
  let hostConfig ← readHostConfigOrThrow
  let knownProjects ← perform .readKnownProjects
  let rawRegistry ← perform .readRegistry
  let pins ← perform .listPins
  let leases ← perform .listLeases
  let scan ← leases.foldlM (scanLease paths options.skipLeaseIds timestamp)
    { registry := normalizeRegistry rawRegistry hostConfig timestamp }
  let leasesByAlias := indexLeases scan.activeLeases
  let pinsByAlias := indexPins pins
  let adopted := adoptHolders leasesByAlias pinsByAlias hostConfig timestamp scan.registry
  let synced ← syncRegistryWithSimctl hostConfig adopted options.inventory
  let registry := synced.touch timestamp
  writeLoadedRegistry options registry
  writeKnownProjects knownProjects
  return {
    hostConfig, knownProjects, leases := scan.activeLeases, leasesByAlias, pins, pinsByAlias,
    registry, timestamp }

end SimulatorBroker.Broker
