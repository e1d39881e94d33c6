import SimulatorBroker.Broker.Capacity
import SimulatorBroker.Broker.Delete
import SimulatorBroker.Broker.HostInit
import SimulatorBroker.Broker.Idle
import SimulatorBroker.Broker.Pins

/-!
# Commands

The broker operations as one type, and `executeBrokerCommand` with the refresh
of the app snapshot that follows the operation.
-/

namespace SimulatorBroker.Broker

open SimulatorBroker.Effects
open SimulatorBroker.State

/-! ## Broker operations -/

inductive Command where
  | acquire (options : AcquireOptions)
  | register (options : RegisterOptions)
  | contain (reference : LeaseReference) (reason : ContainmentReason)
  | release (reference : LeaseReference)
  | createPin (options : PinOptions)
  | clearPin (name : AliasName)
  | lifecycle (action : LifecycleAction) (options : LifecycleOptions)
  | repairPurpose (options : PurposeOptions)
  | deleteSimulator (name : AliasName)
  | deletePurpose (purposeId : PurposeId)
  | hostStatus
  | doctor
  | explain (purposeId : PurposeId) (explicitAlias : Option AliasName)
  | validateProject
  | forgetProject (projectId : ProjectId)
  | init (options : InitOptions)
  | setup (planner : SetupPlanner) (options : SetupOptions)
  | checkCapacity (options : CapacityOptions)
  | reconcileCapacity (planner : CapacityPlanner) (options : CapacityOptions)
  | idleStatus
  | enableIdle (actor : IdleActor) (graceSeconds : Nat)
  | disableIdle (actor : IdleActor)
  | reconcileIdle (options : IdleReconcileOptions)
  | previewIdleCleanup
  | applyIdleCleanup (actor : IdleActor) (confirmPlanId : List (AliasName × SimulatorId))
      (persistNoChanges : Bool)
  | appSnapshot (skipLeaseIds : List LeaseId)

namespace Command

abbrev Reply : Command → Type
  | .acquire _ | .register _ => Lease
  | .createPin _ => Pin
  | .repairPurpose _ | .deletePurpose _ => PurposeCounts
  | .deleteSimulator _ | .forgetProject _ => Bool
  | .hostStatus => BrokerState
  | .doctor => Option BrokerState
  | .explain _ _ => List AliasName
  | .validateProject => ProjectConfig
  | .checkCapacity _ => CapacityEvaluation
  | .idleStatus => Option Nat
  | .reconcileIdle _ => Option CleanupResult
  | .previewIdleCleanup => List (AliasName × SimulatorId)
  | .applyIdleCleanup _ _ _ => CleanupResult
  | _ => Unit

/-- The operation a command runs; `timestamp` is the clock where the operation
reads it before it waits for a lock. -/
def body (paths : BrokerPaths) (timestamp : Timestamp) : (command : Command) →
    Broker command.Reply
  | .acquire options => acquireLeaseBroker paths options
  | .register options => registerLeaseProcessBroker paths options timestamp
  | .contain reference reason => containLeaseBroker paths reference reason timestamp
  | .release reference => releaseLeaseBroker paths reference
  | .createPin options => createPinBroker paths options timestamp
  | .clearPin name => clearPinBroker paths name timestamp
  | .lifecycle action options => lifecycleActionBroker paths action options
  | .repairPurpose options => repairPurposeSimulatorsBroker paths options
  | .deleteSimulator name => deleteSimulatorBroker paths name
  | .deletePurpose purposeId => deletePurposeSimulatorsBroker paths purposeId
  | .hostStatus => hostStatusBroker paths
  | .doctor => doctorBroker paths
  | .explain purposeId explicitAlias => explainLeaseBroker paths purposeId explicitAlias
  | .validateProject => validateProjectBroker
  | .forgetProject projectId => forgetKnownProjectBroker paths projectId timestamp
  | .init options => initBroker paths options timestamp
  | .setup planner options => applySetupBroker paths planner options
  | .checkCapacity options => checkCapacityBroker paths options
  | .reconcileCapacity planner options => reconcileCapacityBroker paths planner options timestamp
  | .idleStatus => idleStatusBroker paths
  | .enableIdle actor graceSeconds => enableIdlePolicyBroker actor graceSeconds
  | .disableIdle actor => disableIdlePolicyBroker actor
  | .reconcileIdle options => reconcileIdleBroker paths options
  | .previewIdleCleanup => previewIdleCleanupBroker paths.locale
  | .applyIdleCleanup actor confirmPlanId persistNoChanges =>
      applyIdleCleanupBroker paths.locale actor confirmPlanId persistNoChanges
  | .appSnapshot skipLeaseIds => writeAppSnapshotArtifactUnderMutationLock skipLeaseIds

/-- The operations that hand a state load the clock they read before the lock. -/
def readsClockBeforeLock : Command → Bool
  | .register _ | .contain _ _ | .createPin _ | .clearPin _ | .forgetProject _ | .init _
  | .reconcileCapacity _ _ => true
  | _ => false

end Command

/-! ## Dispatch -/

/-- `contractSnapshotRefreshError`. -/
def contractSnapshotRefreshError (error : BrokerError) : Option BrokerError :=
  if error.isBrokerError = true ∨ error.reasonCode.isSome then some error
  else if error.timedOut then some (.broker .simctlTimeout error.text)
  else none

/-- `isIdlePolicyConfigError`, by the text. -/
def isIdlePolicyConfigError (error : BrokerError) : Bool :=
  error.isBrokerError && decide (error.reasonCode = some .invalidConfig)
    && ("Idle policy".toList.isPrefixOf error.text.toList
      || "idle-policy".toList.isPrefixOf error.text.toList)

/-- A payload and the snapshot error it reports. -/
structure Payload (α : Type) where
  value : α
  snapshotRefresh : Option BrokerError := none

/-- The refresh after a command of neither the idle nor the app group; an error
that is part of the contract is thrown, any other is reported. -/
def refreshAppSnapshot : Broker (Option BrokerError) :=
  tryCatch
    (do
      writeAppSnapshotArtifactUnderMutationLock
      return none)
    fun error =>
      match contractSnapshotRefreshError error with
      | none => pure (some error)
      | some contractError =>
          if isIdlePolicyConfigError contractError then pure (some error) else throw contractError

/-- `executeBrokerCommand` for `lease acquire`. -/
def executeLeaseAcquire (paths : BrokerPaths) (options : AcquireOptions) :
    Broker (Payload Lease) := do
  let value ← acquireLeaseBroker paths options
  let snapshotRefresh ← refreshAppSnapshot
  return { value, snapshotRefresh }

/-- `shouldSurfaceServiceSnapshotRefreshError` for `lease acquire`. -/
def surfacesAcquireSnapshotError : Bool := false

/-- The command handler of `brokerd` for `lease acquire`. -/
def serveLeaseAcquire (paths : BrokerPaths) (options : AcquireOptions) :
    Broker (Payload Lease) := do
  let payload ← executeLeaseAcquire paths options
  match payload.snapshotRefresh with
  | none => return payload
  | some error =>
      if surfacesAcquireSnapshotError then
        throw (.broker (error.reasonCode.getD .internalError) error.text)
      else return payload

end SimulatorBroker.Broker
