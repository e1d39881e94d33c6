import Mathlib.Logic.Function.Basic
import SimulatorBroker.Text.Value

/-!
# Broker records

The records of the state root and of the host config.  Identifiers drawn by
`crypto.randomUUID` or by `simctl create` are only ever compared, so they are
natural numbers; timestamps are milliseconds since the epoch.
-/

namespace SimulatorBroker.State

abbrev AliasName := String
abbrev ProjectId := String
abbrev PurposeId := String
abbrev ArtifactPath := String
abbrev LeaseId := Nat
abbrev PinId := Nat
abbrev SimulatorId := Nat
abbrev TransactionId := Nat
abbrev Pid := Nat
abbrev Timestamp := Nat

/-! ## Errors -/

/-- The `reasonCode` tokens of the errors the modelled commands raise. -/
inductive ReasonCode where
  | bootOnAcquireFailed
  | deviceTypeNotFound
  | idleShutdownFailed
  | repairInterrupted
  | resetOnAcquireFailed
  | runtimeNotFound
  | simulatorActionFailed
  | simulatorConfigMismatch
  | simulatorMissing
  | simulatorUnavailable
  | slotReclaimFailed
  | aliasBusy
  | aliasPurposeMismatch
  | capacityActorForbidden
  | capacityActorRequired
  | capacityApplyBlocked
  | capacityCommittedRecoveryRequired
  | capacityConfirmationRequired
  | capacityPlanStale
  | capacityReconcileRolledBack
  | capacityRecoveryAmbiguous
  | capacityRepairRequired
  | capacityRollbackIncomplete
  | capacityUnsupportedCapability
  | containmentIncomplete
  | humanOverrideRequired
  | idleConfirmationRequired
  | idleHumanRequired
  | idlePlanStale
  | inactiveLeaseReference
  | internalError
  | invalidConfig
  | invalidFlag
  | invalidLeaseArtifactPath
  | leaseAliasMismatch
  | leaseArtifactPathExists
  | leaseArtifactPathInUse
  | leaseConflict
  | leaseNotFound
  | missingHostConfig
  | missingLeaseReference
  | missingOverrideReason
  | missingProjectFile
  | noMatchingAlias
  | overrideAliasMismatch
  | overrideLeaseMismatch
  | overrideRequired
  | pinConflict
  | pinNotFound
  | processSamplerTimeout
  | projectInUse
  | purposeDeleteFailed
  | purposeRepairFailed
  | resetLockTimeout
  | setupInterrupted
  | setupConfirmationRequired
  | setupPlanStale
  | setupPrerequisiteFailed
  | simctlTimeout
  | unhealthyAlias
  | unknownAlias
  | unknownPurpose
  deriving DecidableEq, Repr

/-- A rollback step that failed and is reported on the error it follows. -/
inductive RollbackFailure where
  | inventory
  | delete (simulatorId : SimulatorId)
  deriving DecidableEq, Repr

/-- A thrown error: whether it is a `BrokerError`, its reason code, the text
`payload.cause ?? message` where a failed repair records it, and the fields the
callers look at. -/
structure BrokerError where
  isBrokerError : Bool := false
  reasonCode : Option ReasonCode := none
  text : String := ""
  timedOut : Bool := false
  alreadyExists : Bool := false
  hostConfigCommitted : Bool := false
  rollbackFailures : List RollbackFailure := []
  deriving DecidableEq, Repr

/-- `new BrokerError(message, { reasonCode })`. -/
def BrokerError.broker (reasonCode : ReasonCode) (text : String := "") : BrokerError where
  isBrokerError := true
  reasonCode := some reasonCode
  text := text

/-! ## Host config -/

inductive DeviceFamily where
  | iPhone
  | iPad
  deriving DecidableEq, Repr

inductive ResetPolicy where
  | none
  | eraseOnAcquire
  deriving DecidableEq, Repr

structure HostAlias where
  aliasName : AliasName
  capabilities : List String
  deviceFamily : DeviceFamily
  displayName : String
  iosVersion : String
  resetPolicy : ResetPolicy
  simulatorId : SimulatorId
  deriving DecidableEq, Repr

/-- One class of the slot-reclaim policy. -/
structure ReclaimClassPolicy where
  enabled : Bool
  maxAgeSeconds : Nat
  maxDiskBytes : Nat
  maxLeasesSinceErase : Nat
  deriving DecidableEq, Repr

structure SlotReclaimPolicy where
  enabled : Bool
  build : ReclaimClassPolicy
  manual : ReclaimClassPolicy
  deriving DecidableEq, Repr

structure HostConfig where
  aliases : List HostAlias
  hostId : String
  pendingRetirements : List SimulatorId := []
  slotReclaim : Option SlotReclaimPolicy := none
  deriving DecidableEq, Repr

namespace HostConfig

/-- `hostConfig.aliases.find((candidate) => candidate.alias === alias)`. -/
def find (config : HostConfig) (name : AliasName) : Option HostAlias :=
  config.aliases.find? fun candidate => candidate.aliasName = name

def aliasNames (config : HostConfig) : List AliasName :=
  config.aliases.map (·.aliasName)

def simulatorIds (config : HostConfig) : List SimulatorId :=
  config.aliases.map (·.simulatorId)

end HostConfig

/-! ## Registry -/

inductive Health where
  | healthy
  | stateDrift
  | repairNeeded
  | repairing
  deriving DecidableEq, Repr

inductive PowerState where
  | shutdown
  | booted
  deriving DecidableEq, Repr

structure RegistryEntry where
  activeLeaseId : Option LeaseId := none
  driftCauseCode : Option ReasonCode := none
  driftReason : Option String := none
  health : Health := .healthy
  lastBootedAt : Option Timestamp := none
  lastErasedAt : Option Timestamp := none
  lastLeaseReleasedAt : Option Timestamp := none
  lastLeaseStartedAt : Option Timestamp := none
  leasesSinceErase : Nat := 0
  lastRepairedAt : Option Timestamp := none
  lastShutdownAt : Option Timestamp := none
  pinId : Option PinId := none
  powerState : PowerState := .shutdown
  updatedAt : Timestamp := 0
  deriving DecidableEq, Repr

/-- `registry.idle.lastCleanupResult`; its source is whatever the command was given. -/
structure CleanupResult where
  completedAt : Timestamp
  eligibleCount : Nat
  failureCount : Nat
  shutdownCount : Nat
  source : Text.Value
  status : String

/-- `registry.slotReclaim.lastReclaimResult`. -/
structure ReclaimResult where
  completedAt : Timestamp
  eligibleCount : Nat
  failureCount : Nat
  reclaimedCount : Nat
  skippedHeldCount : Nat
  source : String
  status : String
  deriving DecidableEq, Repr

structure Registry where
  aliases : AliasName → Option RegistryEntry
  lastCleanupResult : Option CleanupResult := none
  lastReclaimResult : Option ReclaimResult := none
  updatedAt : Timestamp := 0

/-! ## Leases, pins, projects -/

/-- A registered command: its argument words, or one shell line. -/
inductive RegisteredCommand where
  | words (words : List String)
  | line (text : String)
  deriving DecidableEq, Repr

/-! ## Containment -/

/-- `CONTAINMENT_REASONS`. -/
inductive ContainmentReason where
  | memoryCeiling
  | forcedAbort
  | timeout
  | staleOwner
  | manualCleanup
  deriving DecidableEq, Repr

inductive Signal where
  | term
  | kill
  deriving DecidableEq, Repr

/-- A signal that failed; its target was a process group or a pid. -/
structure CleanupFailure where
  errorCode : Option String
  pgid : Option Pid
  pid : Option Pid
  signal : Signal
  deriving DecidableEq, Repr

/-- What an incomplete cleanup adds to its observation. -/
structure IncompleteCleanup where
  cleanupFailures : List CleanupFailure
  remainingOwnedPids : List Pid
  deriving DecidableEq, Repr

structure Observation where
  checkedAt : Timestamp
  downstreamOwnedProcessCount : Nat
  memoryCeilingBytes : Option Nat
  ownedProcessCount : Nat
  ownedRssBytes : Nat
  processCount : Nat
  reason : ContainmentReason
  simulatorProcessCount : Nat
  incomplete : Option IncompleteCleanup := none
  deriving DecidableEq, Repr

/-- What `containLeaseProcesses` reports of a containment. -/
structure ContainmentResult where
  observation : Observation
  cleanupFailures : List CleanupFailure
  remainingOwnedPids : List Pid
  deriving DecidableEq, Repr

def ContainmentResult.cleanupComplete (result : ContainmentResult) : Bool :=
  decide (result.cleanupFailures = []) && decide (result.remainingOwnedPids = [])

/-- `containmentFailureObservation(result)`. -/
def ContainmentResult.failureObservation (result : ContainmentResult) : Observation :=
  { result.observation with
    incomplete := some {
      cleanupFailures := result.cleanupFailures
      remainingOwnedPids := result.remainingOwnedPids } }

/-- What `containLeaseProcesses` returns. -/
inductive ContainmentOutcome where
  | notContained (observation : Observation)
  | contained (result : ContainmentResult)
  deriving DecidableEq, Repr

/-! ## Leases -/

/-- `lease.runtime`. -/
structure LeaseRuntime where
  command : Option RegisteredCommand := none
  commandRegisteredAt : Option Timestamp := none
  commandPgid : Option Pid := none
  commandPid : Option Pid := none
  lastObservation : Option Observation := none
  memoryCeilingBytes : Option Nat := none
  ownerPgid : Option Pid := none
  ownerPid : Option Pid := none
  ownerRegisteredAt : Option Timestamp := none
  simulatorProcessNames : List String := []
  updatedAt : Option Timestamp := none
  deriving DecidableEq, Repr

structure Lease where
  leaseId : LeaseId
  actorType : String := "unknown"
  aliasName : AliasName
  artifactPath : Option ArtifactPath := none
  ownerPid : Pid
  pinId : Option PinId := none
  projectId : ProjectId
  purposeId : PurposeId
  resetPolicy : ResetPolicy
  runtime : LeaseRuntime := {}
  simulatorId : SimulatorId
  startedAt : Timestamp
  deriving DecidableEq, Repr

structure Pin where
  pinId : PinId
  aliasName : AliasName
  createdAt : Timestamp
  projectId : ProjectId
  purposeId : Option PurposeId
  deriving DecidableEq, Repr

/-- `purpose.requires`. -/
structure PurposeRequires where
  deviceFamily : Option DeviceFamily := none
  iosVersion : Option String := none
  deriving DecidableEq, Repr

structure Purpose where
  id : PurposeId
  capability : String
  defaultActorType : Option String := none
  requires : Option PurposeRequires := none
  deriving DecidableEq, Repr

structure ProjectConfig where
  projectId : ProjectId
  purposes : List Purpose
  deriving DecidableEq, Repr

/-! ## Audit events -/

inductive EventType where
  | capacityReconcileApplied
  | capacityReconcileFailed
  | capacityReconcileNoChanges
  | capacityReconcileRolledBack
  | capacityReconcileRollbackIncomplete
  | hostInitialized
  | idleCleanupApplied
  | idlePolicyDisabled
  | idlePolicyEnabled
  | idleReconciled
  | idleSimulatorShutdown
  | idleSimulatorShutdownFailed
  | leaseAcquired
  | leaseContained
  | leaseProcessRegistered
  | leaseReclaimed
  | leaseReleased
  | leaseRevoked
  | pinCleared
  | pinCreated
  | projectForgotten
  | simulatorBooted
  | simulatorDeleteFailed
  | simulatorDeleted
  | simulatorErased
  | simulatorRepairFailed
  | simulatorRepairStarted
  | simulatorRepaired
  | simulatorShutdown
  | slotReclaimFailed
  | slotReclaimed
  deriving DecidableEq, Repr

structure Event where
  type : EventType
  aliasName : Option AliasName := none
  leaseId : Option LeaseId := none
  timestamp : Timestamp
  deriving DecidableEq, Repr

/-! ## Capacity transactions -/

inductive TransactionStatus where
  | intent
  | creating
  | configCommitted
  | committedRecoveryRequired
  | failed
  | finalized
  | rejected
  | rollbackIncomplete
  | rolledBack
  deriving DecidableEq, Repr

/-- One planned alias of a capacity transaction, as its journal records it. -/
structure CapacityAddition where
  aliasName : AliasName
  capabilities : List String
  deviceFamily : DeviceFamily
  deviceTypeIdentifier : String
  displayName : String
  iosVersion : String
  preCreateDeviceIds : Option (List SimulatorId) := none
  resetPolicy : ResetPolicy
  runtimeIdentifier : String
  simulatorId : Option SimulatorId := none
  simulatorName : String
  deriving DecidableEq, Repr

structure CapacityTransaction where
  transactionId : TransactionId
  additions : List CapacityAddition := []
  status : TransactionStatus
  updatedAt : Timestamp
  deriving DecidableEq, Repr

/-- `CAPACITY_TERMINAL_TRANSACTION_STATES`. -/
def TransactionStatus.terminal : TransactionStatus → Bool
  | .finalized | .rejected | .rolledBack => true
  | _ => false

/-! ## Simulator inventory -/

structure DeviceType where
  identifier : String
  name : String
  productFamily : Option DeviceFamily
  deriving DecidableEq, Repr

structure Runtime where
  identifier : String
  buildVersion : Option String := none
  isAvailable : Bool := true
  supportedDeviceTypes : List DeviceType := []
  version : Option String
  deriving DecidableEq, Repr

/-- A device as `simctl list --json devices` shows it. -/
structure Device where
  udid : SimulatorId
  booted : Bool := false
  deviceTypeIdentifier : String
  isAvailable : Bool := true
  name : String
  productFamily : Option DeviceFamily := none
  runtimeIdentifier : String
  deriving DecidableEq, Repr

/-! ## Process table -/

/-- One record of a process sample; `elapsed` is the `etime` column. -/
structure ProcessRecord where
  pid : Pid
  ppid : Option Pid := none
  pgid : Option Pid := none
  rssBytes : Nat := 0
  elapsed : Option String := none
  stat : Option String := none
  command : String := ""
  deriving DecidableEq, Repr

end SimulatorBroker.State
