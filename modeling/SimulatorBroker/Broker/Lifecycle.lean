import SimulatorBroker.Broker.Leases
import SimulatorBroker.Broker.Provision

/-!
# Lifecycle actions

Boot, shutdown, erase and repair of one alias: who may ask for them, what a
human's forced repair revokes, and how a repair replaces the simulator.
-/

namespace SimulatorBroker.Broker

open SimulatorBroker.Effects
open SimulatorBroker.State

inductive LifecycleAction where
  | boot
  | shutdown
  | erase
  | repair
  deriving DecidableEq, Repr

structure LifecycleOptions where
  aliasName : AliasName
  reference : LeaseReference := {}
  actorType : Option String := none
  forceOverride : Bool := false
  overrideReason : Option String := none
  expectedAlias : Option AliasName := none
  expectedLeaseId : Option LeaseId := none

/-! ## The requester -/

structure LifecycleRequester where
  activeLease : Option Lease
  activePin : Option Pin
  actorType : String
  holderMatches : Bool

def loadLeaseReferenceForAlias (reference : LeaseReference) (name : AliasName) :
    Broker (Option Lease) := do
  if reference.leaseId.isNone && reference.leaseFile.isNone then
    return none
  else
    let lease ← loadLeaseByIdOrFile reference
    if lease.aliasName ≠ name then throw (.broker .leaseAliasMismatch)
    return some lease

def resolveLifecycleRequester (state : BrokerState) (options : LifecycleOptions)
    (name : AliasName) : Broker LifecycleRequester := do
  let activeLease := state.leasesByAlias name
  let activePin := state.pinsByAlias name
  let leaseReference ← loadLeaseReferenceForAlias options.reference name
  let actorType := (options.actorType.or (leaseReference.map (·.actorType))).getD "human"
  match leaseReference with
  | none => return { activeLease, activePin, actorType, holderMatches := false }
  | some lease =>
      if activeLease.map (·.leaseId) = some lease.leaseId then
        return { activeLease, activePin, actorType, holderMatches := true }
      else
        throw (.broker .inactiveLeaseReference)

/-- `lifecycleOwnershipContext(requester).leaseId`. -/
def LifecycleRequester.ownedLeaseId (requester : LifecycleRequester) : Option LeaseId :=
  if requester.holderMatches then requester.activeLease.map (·.leaseId) else none

def assertLifecycleHealth (action : LifecycleAction) (entry : RegistryEntry) : Broker Unit :=
  match action with
  | .boot | .shutdown =>
      if entry.health = .repairNeeded ∨ entry.health = .repairing then
        throw (.broker .unhealthyAlias)
      else pure ()
  | .erase | .repair =>
      if entry.health = .repairing then throw (.broker .aliasBusy) else pure ()

/-! ## Forced override -/

/-- `requireOptionalString` and the refusal of a missing reason. -/
def requireOverrideReason (overrideReason : Option String) : Broker Unit :=
  match overrideReason with
  | none | some "" => throw (.broker .missingOverrideReason)
  | some text => if trimString text = "" then throw (.broker .invalidConfig) else pure ()

def validateForceOverride (action : LifecycleAction) (options : LifecycleOptions)
    (requester : LifecycleRequester) (name : AliasName) (activeLease : Lease) : Broker Unit := do
  if action ≠ .repair then throw (.broker .leaseConflict)
  if requester.actorType ≠ "human" then throw (.broker .humanOverrideRequired)
  if options.forceOverride = false then throw (.broker .overrideRequired)
  requireOverrideReason options.overrideReason
  if options.expectedAlias ≠ some name then throw (.broker .overrideAliasMismatch)
  if options.expectedLeaseId ≠ some activeLease.leaseId then
    throw (.broker .overrideLeaseMismatch)

/-- The registry is written before the lease file goes. -/
def revokeLeaseForOverride (paths : BrokerPaths) (state : BrokerState) (lease : Lease)
    (timestamp : Timestamp) : Broker BrokerState := do
  assertLeaseArtifactPathAllowed paths lease.artifactPath
  let registry :=
    (state.registry.modify lease.aliasName (markAliasLeaseReleased timestamp)).touch timestamp
  writeRegistry registry
  removeLeaseRecordFiles paths lease (.revoked timestamp)
  let _ ← appendEventRecord
    { type := .leaseRevoked, aliasName := lease.aliasName, leaseId := lease.leaseId, timestamp }
  return (state.withRegistry registry).forgetLease lease.aliasName

/-- The state in which the action may go on. -/
def admitLifecycleRequester (paths : BrokerPaths) (state : BrokerState) (action : LifecycleAction)
    (options : LifecycleOptions) (requester : LifecycleRequester) (name : AliasName)
    (timestamp : Timestamp) : Broker BrokerState :=
  match requester.activeLease with
  | none => pure state
  | some activeLease =>
      if requester.holderMatches then pure state
      else
        match action with
        | .boot | .shutdown => throw (.broker .leaseConflict)
        | .erase | .repair => do
            validateForceOverride action options requester name activeLease
            revokeLeaseForOverride paths state activeLease timestamp

/-! ## Replacing the simulator of an alias -/

/-- `hostAlias.simulatorId = …; hostAlias.iosVersion = …` inside the config. -/
def rebindAlias (config : HostConfig) (name : AliasName) (simulatorId : SimulatorId)
    (iosVersion : String) : HostConfig :=
  { config with
    aliases := config.aliases.map fun hostAlias =>
      if hostAlias.aliasName = name then { hostAlias with simulatorId, iosVersion }
      else hostAlias }

def repairTemplate (config : HostConfig) (hostAlias : HostAlias) : AliasTemplate where
  aliasName := hostAlias.aliasName
  capabilities := hostAlias.capabilities
  deviceFamily := hostAlias.deviceFamily
  displayName := hostAlias.displayName
  iosVersion := hostAlias.iosVersion
  resetPolicy := hostAlias.resetPolicy
  simulatorName := simulatorDisplayName config.hostId hostAlias.aliasName

/-- The old device is kept until the new binding is on disk; then whatever is
pending is retired and the rest of the list is written. -/
def repairHostAlias (locale : Collation) (config : HostConfig) (hostAlias : HostAlias) :
    Broker HostConfig := do
  let provisioned ←
    ensureAliasSimulator locale (repairTemplate config hostAlias) (some hostAlias.simulatorId) true
  let rebound :=
    rebindAlias config hostAlias.aliasName provisioned.simulatorId provisioned.iosVersion
  let pendingRetirementIds :=
    (config.pendingRetirements ++ provisioned.replacedSimulatorId.toList).eraseDups
  let committed := hostConfigWithPendingRetirements rebound pendingRetirementIds
  tryCatch (writeJsonAtomicDurable committed) fun error => do
    if error.hostConfigCommitted = false ∧ provisioned.created = true then
      rollbackCreatedAliasSimulator provisioned.simulatorId
    throw error
  let failedRetirements ← retirePendingHostSimulators pendingRetirementIds committed
  let next := hostConfigWithPendingRetirements committed (failedRetirements.map (·.1))
  writeJsonAtomicDurable next
  return next

/-! ## The actions -/

/-- The entry after a boot or a shutdown. -/
def poweredEntry (powerState : PowerState) (timestamp : Timestamp) (entry : RegistryEntry) :
    RegistryEntry :=
  { entry with
    powerState, health := .healthy, driftReason := none, driftCauseCode := none
    lastBootedAt := if powerState = .booted then some timestamp else entry.lastBootedAt
    lastShutdownAt := if powerState = .booted then entry.lastShutdownAt else some timestamp
    updatedAt := timestamp }

def runPowerAction (state : BrokerState) (powerState : PowerState) (hostAlias : HostAlias)
    (requester : LifecycleRequester) (entry : RegistryEntry) (timestamp : Timestamp) :
    Broker Unit := do
  if entry.powerState = powerState ∧ entry.health ≠ .stateDrift then
    return ()
  else
    match powerState with
    | .booted => adapterBoot hostAlias
    | .shutdown => adapterShutdown hostAlias .lifecycle
    writeRegistry
      ((state.registry.modify hostAlias.aliasName (poweredEntry powerState timestamp)).touch
        timestamp)
    let _ ← appendEventRecord
      { type := if powerState = .booted then .simulatorBooted else .simulatorShutdown
        aliasName := hostAlias.aliasName, leaseId := requester.ownedLeaseId, timestamp }

/-- The entry after an erase. -/
def erasedEntry (timestamp : Timestamp) (entry : RegistryEntry) : RegistryEntry :=
  let erased :=
    resetLeasesSinceErase
      { entry with
        powerState := .shutdown, lastErasedAt := some timestamp, lastShutdownAt := some timestamp }
  if entry.health = .stateDrift then
    { erased with
      health := .healthy, driftReason := none, driftCauseCode := none, updatedAt := timestamp }
  else { erased with updatedAt := timestamp }

def runEraseAction (state : BrokerState) (hostAlias : HostAlias) (requester : LifecycleRequester)
    (timestamp : Timestamp) : Broker Unit := do
  adapterErase hostAlias
  writeRegistry
    ((state.registry.modify hostAlias.aliasName (erasedEntry timestamp)).touch timestamp)
    { erased := [hostAlias.aliasName] }
  let _ ← appendEventRecord
    { type := .simulatorErased, aliasName := hostAlias.aliasName
      leaseId := requester.ownedLeaseId, timestamp }

def repairingEntry (timestamp : Timestamp) (entry : RegistryEntry) : RegistryEntry :=
  { entry with health := .repairing, updatedAt := timestamp }

/-- The entry after a failed repair: the reason and the cause are the error's. -/
def repairFailedEntry (error : BrokerError) (timestamp : Timestamp) (entry : RegistryEntry) :
    RegistryEntry :=
  { entry with
    health := .repairNeeded
    driftReason := some error.text
    driftCauseCode := knownDriftCauseCode error.reasonCode
    updatedAt := timestamp }

def repairedEntry (timestamp : Timestamp) (entry : RegistryEntry) : RegistryEntry :=
  { entry with
    health := .healthy, driftReason := none, driftCauseCode := none
    lastRepairedAt := some timestamp, lastShutdownAt := some timestamp, powerState := .shutdown
    updatedAt := timestamp }

/-- The repaired registry and host config. -/
def runRepairAction (locale : Collation) (state : BrokerState) (hostAlias : HostAlias)
    (requester : LifecycleRequester) (timestamp : Timestamp) : Broker BrokerState := do
  let name := hostAlias.aliasName
  let repairing := (state.registry.modify name (repairingEntry timestamp)).touch timestamp
  writeRegistry repairing
  let _ ← appendEventRecord
    { type := .simulatorRepairStarted, aliasName := name, leaseId := requester.ownedLeaseId
      timestamp }
  let hostConfig ←
    tryCatch (invokeLifecycleAdapter (repairHostAlias locale state.hostConfig hostAlias)) fun
        error => do
      writeRegistry ((repairing.modify name (repairFailedEntry error timestamp)).touch timestamp)
        { failed := [name] }
      let _ ← appendEventRecord
        { type := .simulatorRepairFailed, aliasName := name, leaseId := requester.ownedLeaseId
          timestamp }
      throw error
  let repaired := (repairing.modify name (repairedEntry timestamp)).touch timestamp
  writeRegistry repaired { repaired := some name }
  let _ ← appendEventRecord
    { type := .simulatorRepaired, aliasName := name, leaseId := requester.ownedLeaseId, timestamp }
  return { state with hostConfig, registry := repaired }

/-- `runLifecycleActionBroker`. -/
def runLifecycleAction (paths : BrokerPaths) (action : LifecycleAction)
    (options : LifecycleOptions) : Broker Unit := do
  let timestamp ← perform .now
  let state ← loadBrokerState paths { timestamp }
  let hostAlias ← findHostAliasOrThrow state.hostConfig options.aliasName
  match state.entry hostAlias.aliasName with
  | none => throw {}
  | some entry =>
      let requester ← resolveLifecycleRequester state options hostAlias.aliasName
      assertLifecycleHealth action entry
      let admitted ←
        admitLifecycleRequester paths state action options requester hostAlias.aliasName timestamp
      match action with
      | .boot => runPowerAction admitted .booted hostAlias requester entry timestamp
      | .shutdown => runPowerAction admitted .shutdown hostAlias requester entry timestamp
      | .erase => runEraseAction admitted hostAlias requester timestamp
      | .repair =>
          let _ ← runRepairAction paths.locale admitted hostAlias requester timestamp

/-- Repair also takes the capacity lock. -/
def lifecycleActionBroker (paths : BrokerPaths) (action : LifecycleAction)
    (options : LifecycleOptions) : Broker Unit :=
  match action with
  | .boot | .shutdown | .erase => withLock .lease (runLifecycleAction paths action options)
  | .repair => withLock .capacity (withLock .lease (runLifecycleAction paths action options))

end SimulatorBroker.Broker
