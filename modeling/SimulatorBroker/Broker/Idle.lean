import SimulatorBroker.Broker.Provision
import SimulatorBroker.Broker.Queries
import SimulatorBroker.Text.Properties

/-!
# Idle policy

Enabling and disabling the idle policy, and the two commands that shut idle
simulators down: the scheduled reconcile, which loads the state, and the
confirmed cleanup, which reads a snapshot and persists a registry of its own.
-/

namespace SimulatorBroker.Broker

open SimulatorBroker.Effects
open SimulatorBroker.State

/-! ## The policy file -/

def minIdleGraceSeconds : Nat := 60

def maxIdleGraceSeconds : Nat := 86400

/-- An unreadable policy is an internal error, an invalid one an invalid config. -/
def readIdlePolicy : Broker (Option Nat) := do
  let policy ← tryCatch (perform .readIdlePolicy) fun error =>
    if error.isBrokerError then throw error else throw (.broker .internalError)
  match policy with
  | none => return none
  | some graceSeconds =>
      if minIdleGraceSeconds ≤ graceSeconds ∧ graceSeconds ≤ maxIdleGraceSeconds then
        return some graceSeconds
      else
        throw (.broker .invalidConfig)

/-- `requireHumanIdleActor`. -/
def requireHumanIdleActor (actorType : String) (actorId : Option String) : Broker Unit :=
  if actorType ≠ "human" then throw (.broker .idleHumanRequired)
  else if (actorId.map trimString).getD "" = "" then throw (.broker .idleHumanRequired)
  else pure ()

structure IdleActor where
  actorType : String
  actorId : Option String

def enableIdlePolicyBroker (actor : IdleActor) (graceSeconds : Nat) : Broker Unit := do
  requireHumanIdleActor actor.actorType actor.actorId
  if graceSeconds < minIdleGraceSeconds ∨ maxIdleGraceSeconds < graceSeconds then
    throw (.broker .invalidFlag)
  withLock .lease do
    let timestamp ← perform .now
    tryCatch
      (do
        ensureStatePaths
        writeJsonAtomicRestricted (.idlePolicy graceSeconds))
      fun _ => throw (.broker .internalError)
    let _ ← appendEventRecord { type := .idlePolicyEnabled, timestamp }

def disableIdlePolicyBroker (actor : IdleActor) : Broker Unit := do
  requireHumanIdleActor actor.actorType actor.actorId
  withLock .lease do
    let timestamp ← perform .now
    tryCatch (perform .unlinkIdlePolicy) fun _ => throw (.broker .internalError)
    let _ ← appendEventRecord { type := .idlePolicyDisabled, timestamp }

/-! ## Candidates -/

/-- Only these two reasons of an unreadable state are reported as they are. -/
def loadPublicSafeIdleState {α : Type} (loader : Broker α) : Broker α :=
  tryCatch loader fun error =>
    if error.isBrokerError ∧ error.reasonCode = some .missingHostConfig then
      throw (.broker .missingHostConfig)
    else if error.isBrokerError ∧ error.reasonCode = some .invalidConfig then
      throw (.broker .invalidConfig)
    else throw (.broker .internalError)

def isIdleBaseCandidate (state : BrokerState) (hostAlias : HostAlias) : Bool :=
  (state.entry hostAlias.aliasName).any (fun entry =>
      decide (entry.powerState = .booted) && decide (entry.health = .healthy))
    && (state.leasesByAlias hostAlias.aliasName).isNone
    && (state.pinsByAlias hostAlias.aliasName).isNone
    && decide ("manual-persistent" ∉ hostAlias.capabilities)

def idleBaseCandidates (state : BrokerState) : List HostAlias :=
  state.hostConfig.aliases.filter (isIdleBaseCandidate state)

def idleDeadline (entry : RegistryEntry) (graceSeconds : Nat) : Option Timestamp :=
  entry.lastLeaseReleasedAt.map fun releasedAt => releasedAt + graceSeconds * 1000

def idleEligibleCandidates (state : BrokerState) (graceSeconds : Nat) (timestamp : Timestamp) :
    List HostAlias :=
  (idleBaseCandidates state).filter fun hostAlias =>
    ((state.entry hostAlias.aliasName).bind fun entry => idleDeadline entry graceSeconds).any
      fun deadline => decide (deadline ≤ timestamp)

/-! ## Shutting down -/

def idleCleanupStatus (shutdownCount failureCount : Nat) : String :=
  if 0 < failureCount then "repair_needed"
  else if 0 < shutdownCount then "success"
  else "no_changes"

structure IdleScan where
  registry : Registry
  shutdownCount : Nat := 0
  failureCount : Nat := 0

def idleFailedEntry (timestamp : Timestamp) (entry : RegistryEntry) : RegistryEntry :=
  { entry with
    health := .repairNeeded, driftReason := some "idle-shutdown-failed", updatedAt := timestamp }

def idleShutdownEntry (timestamp : Timestamp) (entry : RegistryEntry) : RegistryEntry :=
  { entry with
    powerState := .shutdown, lastShutdownAt := some timestamp, updatedAt := timestamp }

/-- One turn of the loop; a failed shutdown is written at once. -/
def idleShutdown (scan : IdleScan) (hostAlias : HostAlias) : Broker IdleScan := do
  match ← (adapterShutdown hostAlias .idle).attempt with
  | .error _ =>
      let attemptTimestamp ← perform .now
      let registry :=
        (scan.registry.modify hostAlias.aliasName (idleFailedEntry attemptTimestamp)).touch
          attemptTimestamp
      writeIdleRegistry registry
      let _ ← appendEventRecord
        { type := .idleSimulatorShutdownFailed, aliasName := hostAlias.aliasName
          timestamp := attemptTimestamp }
      return { scan with registry, failureCount := scan.failureCount + 1 }
  | .ok () =>
      let attemptTimestamp ← perform .now
      let _ ← appendEventRecord
        { type := .idleSimulatorShutdown, aliasName := hostAlias.aliasName
          timestamp := attemptTimestamp }
      return {
        scan with
        registry := scan.registry.modify hostAlias.aliasName (idleShutdownEntry attemptTimestamp)
        shutdownCount := scan.shutdownCount + 1 }

def performIdleShutdowns (registry : Registry) (candidates : List HostAlias)
    (timestamp : Timestamp) (eventType : EventType) (source : Text.Value) (persistNoChanges : Bool) :
    Broker CleanupResult := do
  let scan ← candidates.foldlM idleShutdown { registry }
  let completedAt ← if candidates = [] then pure timestamp else perform .now
  let lastCleanupResult : CleanupResult := {
    completedAt, eligibleCount := candidates.length, failureCount := scan.failureCount
    shutdownCount := scan.shutdownCount, source
    status := idleCleanupStatus scan.shutdownCount scan.failureCount }
  if candidates ≠ [] ∨ persistNoChanges = true then
    writeIdleRegistry
      { scan.registry with
        lastCleanupResult := some lastCleanupResult, updatedAt := completedAt }
    let _ ← appendEventRecord { type := eventType, timestamp := completedAt }
  return lastCleanupResult

/-! ## Commands -/

/-- `idleStatusBroker`. -/
def idleStatusBroker (paths : BrokerPaths) : Broker (Option Nat) :=
  withLock .lease do
    let timestamp ← perform .now
    let _ ← loadPublicSafeIdleState
      (loadBrokerState paths { timestamp, idlePersistence := true })
    readIdlePolicy

/-- The options arrive as JSON, and no one looks at what the source is. -/
structure IdleReconcileOptions where
  source : Option Text.Value := none
  persistNoChanges : Bool := true

/-- `options.source ?? "manual-reconcile"`. -/
def IdleReconcileOptions.label (options : IdleReconcileOptions) : Text.Value :=
  options.source.elim manualReconcile fun
    | .null => manualReconcile
    | source => source
where
  manualReconcile : Text.Value := .string (Text.stringUnits "manual-reconcile")

/-- The load of both branches of the reconcile, and the slot reclaim after it. -/
def loadAndReclaim (paths : BrokerPaths) (timestamp : Timestamp) : Broker BrokerState := do
  let state ← loadPublicSafeIdleState
    (loadBrokerState paths { timestamp, idlePersistence := true })
  let (reclaimed, _) ← performSlotReclaim state timestamp { source := "idle-reconcile" }
  return reclaimed

/-- `reconcileIdleBroker` under its lock; without a policy any error of the load
and the reclaim is swallowed. -/
def reconcileIdle (paths : BrokerPaths) (options : IdleReconcileOptions) :
    Broker (Option CleanupResult) := do
  let timestamp ← perform .now
  match ← readIdlePolicy with
  | none =>
      ignoringErrors do let _ ← loadAndReclaim paths timestamp
      return none
  | some graceSeconds =>
      let state ← loadAndReclaim paths timestamp
      let result ← performIdleShutdowns state.registry
        (idleEligibleCandidates state graceSeconds timestamp) timestamp .idleReconciled
        options.label options.persistNoChanges
      return some result

def reconcileIdleBroker (paths : BrokerPaths) (options : IdleReconcileOptions) :
    Broker (Option CleanupResult) :=
  withLock .lease (reconcileIdle paths options)

/-! ## Confirmed cleanup -/

/-- What the plan id is a digest of: the candidates in the order of their names. -/
def idlePlanFingerprint (locale : Collation) (candidates : List HostAlias) :
    List (AliasName × SimulatorId) :=
  (candidates.map fun hostAlias => (hostAlias.aliasName, hostAlias.simulatorId)).insertionSort
    fun left right => locale.localeCompare left.1 right.1 ≠ .gt

/-- `cleanupIdleBroker` without `--apply`: the plan id. -/
def previewIdleCleanupBroker (locale : Collation) : Broker (List (AliasName × SimulatorId)) :=
  withLock .lease do
    let timestamp ← perform .now
    let state ← loadPublicSafeIdleState (readBrokerStateSnapshot timestamp)
    return idlePlanFingerprint locale (idleBaseCandidates state)

/-- The cleanup under its lock: the candidates come from the snapshot, the
registry that is written from the file, synchronized once more. -/
def applyIdleCleanup (locale : Collation) (confirmPlanId : List (AliasName × SimulatorId))
    (persistNoChanges : Bool) : Broker CleanupResult := do
  let timestamp ← perform .now
  let state ← loadPublicSafeIdleState (readBrokerStateSnapshot timestamp)
  let candidates := idleBaseCandidates state
  if confirmPlanId ≠ idlePlanFingerprint locale candidates then throw (.broker .idlePlanStale)
  let rawRegistry ← perform .readRegistry
  let registry ← syncRegistryWithSimctl state.hostConfig
    (normalizeRegistry rawRegistry state.hostConfig timestamp)
  performIdleShutdowns registry candidates timestamp .idleCleanupApplied
    (.string (Text.stringUnits "confirmed-cleanup")) persistNoChanges

def applyIdleCleanupBroker (locale : Collation) (actor : IdleActor)
    (confirmPlanId : List (AliasName × SimulatorId)) (persistNoChanges : Bool := true) : Broker CleanupResult := do
  requireHumanIdleActor actor.actorType actor.actorId
  withLock .lease (applyIdleCleanup locale confirmPlanId persistNoChanges)

end SimulatorBroker.Broker
