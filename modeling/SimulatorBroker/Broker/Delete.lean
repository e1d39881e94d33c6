import SimulatorBroker.Broker.Lifecycle

/-!
# Purpose repair, alias delete and purpose delete
-/

namespace SimulatorBroker.Broker

open SimulatorBroker.Effects
open SimulatorBroker.State

/-! ## The aliases of a purpose -/

/-- `CAPACITY_RESET_POLICY_BY_CAPABILITY`. -/
def capacityResetPolicy (capability : String) : Option ResetPolicy :=
  if capability ∈ ["automation-resettable", "build-clean", "interactive-resettable"] then
    some .eraseOnAcquire
  else if capability ∈ ["build-fast", "manual-persistent"] then some .none
  else Option.none

def structuralCapacityMatches (hostAlias : HostAlias) (purpose : Purpose) : Bool :=
  decide (purpose.capability ∈ hostAlias.capabilities)
    && satisfiesRequires hostAlias purpose.requires
    && (capacityResetPolicy purpose.capability).all fun resetPolicy =>
      decide (hostAlias.resetPolicy = resetPolicy)

/-- The structural candidates in the order of their names. -/
def structuralCandidates (locale : Collation) (state : BrokerState) (purpose : Purpose)
    (project : ProjectConfig) : List Candidate :=
  ((buildCandidateAnalysis state purpose project none).filter fun candidate =>
    structuralCapacityMatches candidate.hostAlias purpose).insertionSort fun left right =>
      locale.localeCompare left.hostAlias.aliasName right.hostAlias.aliasName ≠ .gt

/-! ## Purpose repair -/

structure PurposeCounts where
  done : Nat := 0
  failed : Nat := 0
  held : Nat := 0

def purposeRepairHolderReason (error : BrokerError) : Bool :=
  error.isBrokerError && error.reasonCode.any fun code =>
    decide (code ∈ [ReasonCode.humanOverrideRequired, .overrideRequired, .leaseConflict,
      .pinConflict])

structure PurposeOptions where
  purposeId : PurposeId
  actorType : String
  reference : LeaseReference := {}

/-- One turn of the loop; a failed repair is counted and the loop goes on. -/
def repairCandidate (paths : BrokerPaths) (options : PurposeOptions) (counts : PurposeCounts)
    (candidate : Candidate) : Broker PurposeCounts := do
  if .unhealthyAlias ∉ candidate.reasons then
    return counts
  else if .leaseConflict ∈ candidate.reasons ∨ .pinnedForOtherProject ∈ candidate.reasons then
    return { counts with held := counts.held + 1 }
  else
    tryCatch
      (do
        runLifecycleAction paths .repair {
          aliasName := candidate.hostAlias.aliasName, reference := options.reference
          actorType := some options.actorType }
        return { counts with done := counts.done + 1 })
      fun error =>
        if purposeRepairHolderReason error then pure { counts with held := counts.held + 1 }
        else pure { counts with failed := counts.failed + 1 }

/-- `repairPurposeSimulatorsBroker` under its locks. -/
def repairPurposeSimulators (paths : BrokerPaths) (options : PurposeOptions) :
    Broker PurposeCounts := do
  let timestamp ← perform .now
  let state ← loadBrokerState paths { timestamp }
  let project ← perform .readProject
  let purpose ← getPurpose project options.purposeId
  let counts ← (structuralCandidates paths.locale state purpose project).foldlM
    (repairCandidate paths options) {}
  if 0 < counts.failed then throw (.broker .purposeRepairFailed)
  else if counts.done = 0 ∧ 0 < counts.held then throw (.broker .humanOverrideRequired)
  else return counts

def repairPurposeSimulatorsBroker (paths : BrokerPaths) (options : PurposeOptions) :
    Broker PurposeCounts :=
  withLock .capacity (withLock .lease (repairPurposeSimulators paths options))

/-! ## Alias delete -/

/-- The state in memory a delete leaves, the aliases whose failed delete that
state records, and the result or error. -/
structure DeleteOutcome where
  state : BrokerState
  failed : List AliasName
  result : Except BrokerError Bool

def deleteFailedEntry (failure : BrokerError) (timestamp : Timestamp) (entry : RegistryEntry) :
    RegistryEntry :=
  { entry with
    health := .repairNeeded
    driftReason := some failure.text
    driftCauseCode := knownDriftCauseCode failure.reasonCode
    updatedAt := timestamp }

def persistDeleteFailure (registry : Registry) (name : AliasName) (failed : List AliasName)
    (timestamp : Timestamp) : Broker Unit := do
  writeRegistry registry { failed }
  let _ ← appendEventRecord { type := .simulatorDeleteFailed, aliasName := name, timestamp }

def removeAlias (config : HostConfig) (name : AliasName) : HostConfig :=
  { config with aliases := config.aliases.filter fun candidate => candidate.aliasName ≠ name }

namespace BrokerState

/-- `state.hostConfig.aliases = state.hostConfig.aliases.filter(…)`. -/
def withoutAlias (state : BrokerState) (name : AliasName) : BrokerState :=
  { state with hostConfig := removeAlias state.hostConfig name }

/-- The holders and the registry entry of a deleted alias are forgotten. -/
def forgetAlias (state : BrokerState) (name : AliasName) (timestamp : Timestamp) : BrokerState :=
  { state with
    registry := (state.registry.remove name).touch timestamp
    leasesByAlias := fun other => if other = name then none else state.leasesByAlias other
    pinsByAlias := fun other => if other = name then none else state.pinsByAlias other }

end BrokerState

/-- The host config, then the registry.  What was removed in memory stays
removed when a write throws. -/
def removeDeletedAliasRecords (state : BrokerState) (name : AliasName) (failed : List AliasName)
    (timestamp : Timestamp) : Broker DeleteOutcome := do
  let removed := state.withoutAlias name
  match ← (writeHostConfig removed.hostConfig).attempt with
  | .error error => return { state := removed, failed, result := .error error }
  | .ok () =>
      let forgotten := removed.forgetAlias name timestamp
      match ← (writeRegistry forgotten.registry { failed }).attempt with
      | .error error => return { state := forgotten, failed, result := .error error }
      | .ok () =>
          let _ ← appendEventRecord { type := .simulatorDeleted, aliasName := name, timestamp }
          return { state := forgotten, failed, result := .ok true }

/-- The refusals of a delete, before anything is touched. -/
def assertAliasCanBeDeleted (state : BrokerState) (name : AliasName) : Broker Unit := do
  if (state.entry name).any fun entry => decide (entry.health = .repairing) then
    throw (.broker .aliasBusy)
  if (state.leasesByAlias name).isSome then throw (.broker .leaseConflict)
  if (state.pinsByAlias name).isSome then throw (.broker .pinConflict)

/-- What stays in memory of a delete whose device could not be deleted. -/
def failedDelete (state : BrokerState) (name : AliasName) (failed : List AliasName)
    (timestamp : Timestamp) (error : BrokerError) : Broker DeleteOutcome := do
  let failure :=
    if error.isBrokerError then error else .broker .simulatorActionFailed error.text
  let registry :=
    (state.registry.modify name (deleteFailedEntry failure timestamp)).touch timestamp
  let after := state.withRegistry registry
  match ← (persistDeleteFailure registry name (name :: failed) timestamp).attempt with
  | .error error => return { state := after, failed := name :: failed, result := .error error }
  | .ok () => return { state := after, failed := name :: failed, result := .error failure }

/-- `deleteAliasUnderHeldLocks`; the result says whether an alias was deleted.
Only a failed deletion of the device is recorded in the registry, not a failed
listing. -/
def deleteAliasUnderHeldLocks (state : BrokerState) (name : AliasName) (failed : List AliasName)
    (timestamp : Timestamp) : Broker DeleteOutcome := do
  match state.hostConfig.find name with
  | none => return { state, failed, result := .ok false }
  | some hostAlias =>
      match ← (assertAliasCanBeDeleted state name).attempt with
      | .error error => return { state, failed, result := .error error }
      | .ok () =>
          match ← readSimctlInventory.attempt with
          | .error error => return { state, failed, result := .error error }
          | .ok inventory =>
              if hostAlias.simulatorId ∈ inventory.deviceIds then
                match ← (deleteAliasSimulator hostAlias.simulatorId .delete).attempt with
                | .ok () => removeDeletedAliasRecords state name failed timestamp
                | .error error => failedDelete state name failed timestamp error
              else removeDeletedAliasRecords state name failed timestamp

/-- `deleteSimulatorBroker` under its locks. -/
def deleteSimulator (paths : BrokerPaths) (name : AliasName) : Broker Bool := do
  let timestamp ← perform .now
  let state ← loadBrokerState paths { timestamp }
  let outcome ← deleteAliasUnderHeldLocks state name [] timestamp
  match outcome.result with
  | .ok deleted => return deleted
  | .error error => throw error

def deleteSimulatorBroker (paths : BrokerPaths) (name : AliasName) : Broker Bool :=
  withLock .capacity (withLock .lease (deleteSimulator paths name))

/-! ## Purpose delete -/

/-- The registry says that the alias cannot be repaired. -/
def deleteTriggered (entry : RegistryEntry) : Bool :=
  decide (entry.health = .repairNeeded) &&
    (knownDriftCauseCode entry.driftCauseCode).any fun code =>
      decide (code ∈ deleteTriggerCauseCodes)

/-- What the loop over the candidates carries. -/
structure DeleteProgress where
  state : BrokerState
  failed : List AliasName := []
  counts : PurposeCounts := {}

/-- One turn of the loop, on the state the turns before left. -/
def deleteCandidate (timestamp : Timestamp) (progress : DeleteProgress) (candidate : Candidate) :
    Broker DeleteProgress := do
  let name := candidate.hostAlias.aliasName
  let counts := progress.counts
  if (progress.state.entry name).any deleteTriggered then
    if (progress.state.leasesByAlias name).isSome || (progress.state.pinsByAlias name).isSome then
      return { progress with counts := { counts with held := counts.held + 1 } }
    else
      let outcome ← deleteAliasUnderHeldLocks progress.state name progress.failed timestamp
      let counts :=
        match outcome.result with
        | .ok _ => { counts with done := counts.done + 1 }
        | .error _ => { counts with failed := counts.failed + 1 }
      return { state := outcome.state, failed := outcome.failed, counts }
  else
    return progress

/-- `deletePurposeSimulatorsBroker` under its locks. -/
def deletePurposeSimulators (paths : BrokerPaths) (purposeId : PurposeId) :
    Broker PurposeCounts := do
  let timestamp ← perform .now
  let state ← loadBrokerState paths { timestamp }
  let project ← perform .readProject
  let purpose ← getPurpose project purposeId
  let progress ← (structuralCandidates paths.locale state purpose project).foldlM
    (deleteCandidate timestamp) { state }
  let counts := progress.counts
  if 0 < counts.failed then throw (.broker .purposeDeleteFailed)
  else if counts.done = 0 ∧ 0 < counts.held then throw (.broker .humanOverrideRequired)
  else return counts

def deletePurposeSimulatorsBroker (paths : BrokerPaths) (purposeId : PurposeId) :
    Broker PurposeCounts :=
  withLock .capacity (withLock .lease (deletePurposeSimulators paths purposeId))

end SimulatorBroker.Broker
