import SimulatorBroker.Broker.Registry
import SimulatorBroker.Persistence.Survival

/-!
# The registry file of a broker registry

What `writeRegistry` writes of the registry that a command holds in memory, and what the reader
makes of it.
-/

namespace SimulatorBroker.Persistence

open SimulatorBroker.State
open SimulatorBroker.Broker (knownDriftCauseCode knownDriftCauseCodes)
open SimulatorBroker.Text

/-! ## Texts -/

def Health.text : Health → String
  | .healthy => "healthy"
  | .stateDrift => "state-drift"
  | .repairNeeded => "repair-needed"
  | .repairing => "repairing"

def PowerState.text : PowerState → String
  | .shutdown => "shutdown"
  | .booted => "booted"

def ReasonCode.text : ReasonCode → String
  | .bootOnAcquireFailed => "boot-on-acquire-failed"
  | .deviceTypeNotFound => "device-type-not-found"
  | .idleShutdownFailed => "idle-shutdown-failed"
  | .repairInterrupted => "repair-interrupted"
  | .resetOnAcquireFailed => "reset-on-acquire-failed"
  | .runtimeNotFound => "runtime-not-found"
  | .simulatorActionFailed => "simulator-action-failed"
  | .simulatorConfigMismatch => "simulator-config-mismatch"
  | .simulatorMissing => "simulator-missing"
  | .simulatorUnavailable => "simulator-unavailable"
  | .slotReclaimFailed => "slot-reclaim-failed"
  | .aliasBusy => "alias-busy"
  | .aliasPurposeMismatch => "alias-purpose-mismatch"
  | .capacityActorForbidden => "capacity-actor-forbidden"
  | .capacityActorRequired => "capacity-actor-required"
  | .capacityApplyBlocked => "capacity-apply-blocked"
  | .capacityCommittedRecoveryRequired => "capacity-committed-recovery-required"
  | .capacityConfirmationRequired => "capacity-confirmation-required"
  | .capacityPlanStale => "capacity-plan-stale"
  | .capacityReconcileRolledBack => "capacity-reconcile-rolled-back"
  | .capacityRecoveryAmbiguous => "capacity-recovery-ambiguous"
  | .capacityRepairRequired => "capacity-repair-required"
  | .capacityRollbackIncomplete => "capacity-rollback-incomplete"
  | .capacityUnsupportedCapability => "capacity-unsupported-capability"
  | .containmentIncomplete => "containment-incomplete"
  | .humanOverrideRequired => "human-override-required"
  | .idleConfirmationRequired => "idle-confirmation-required"
  | .idleHumanRequired => "idle-human-required"
  | .idlePlanStale => "idle-plan-stale"
  | .inactiveLeaseReference => "inactive-lease-reference"
  | .internalError => "internal-error"
  | .invalidConfig => "invalid-config"
  | .invalidFlag => "invalid-flag"
  | .invalidLeaseArtifactPath => "invalid-lease-artifact-path"
  | .leaseAliasMismatch => "lease-alias-mismatch"
  | .leaseArtifactPathExists => "lease-artifact-path-exists"
  | .leaseArtifactPathInUse => "lease-artifact-path-in-use"
  | .leaseConflict => "lease-conflict"
  | .leaseNotFound => "lease-not-found"
  | .missingHostConfig => "missing-host-config"
  | .missingLeaseReference => "missing-lease-reference"
  | .missingOverrideReason => "missing-override-reason"
  | .missingProjectFile => "missing-project-file"
  | .noMatchingAlias => "no-matching-alias"
  | .overrideAliasMismatch => "override-alias-mismatch"
  | .overrideLeaseMismatch => "override-lease-mismatch"
  | .overrideRequired => "override-required"
  | .pinConflict => "pin-conflict"
  | .pinNotFound => "pin-not-found"
  | .processSamplerTimeout => "process-sampler-timeout"
  | .projectInUse => "project-in-use"
  | .purposeDeleteFailed => "purpose-delete-failed"
  | .purposeRepairFailed => "purpose-repair-failed"
  | .resetLockTimeout => "reset-lock-timeout"
  | .setupInterrupted => "setup-interrupted"
  | .setupConfirmationRequired => "setup-confirmation-required"
  | .setupPlanStale => "setup-plan-stale"
  | .setupPrerequisiteFailed => "setup-prerequisite-failed"
  | .simctlTimeout => "simctl-timeout"
  | .unhealthyAlias => "unhealthy-alias"
  | .unknownAlias => "unknown-alias"
  | .unknownPurpose => "unknown-purpose"

variable (spelling : Spelling)

/-- What every write must keep to: the causes are known ones and the results are labelled. -/
structure Labelled (registry : Registry) : Prop where
  codes : ∀ name entry, registry.aliases name = some entry →
    ∀ code ∈ entry.driftCauseCode, code ∈ knownDriftCauseCodes
  cleanup : ∀ result ∈ registry.lastCleanupResult,
    result.source.isLabel = true ∧ result.status ≠ ""
  reclaim : ∀ result ∈ registry.lastReclaimResult, result.source ≠ "" ∧ result.status ≠ ""

/-- Each of the aliases has an entry. -/
def Covers (registry : Registry) (aliasNames : List AliasName) : Prop :=
  ∀ name ∈ aliasNames, (registry.aliases name).isSome = true

variable {spelling : Spelling}

end SimulatorBroker.Persistence
