import SimulatorBroker.Broker.Provision
import SimulatorBroker.Broker.Queries

/-!
# Capacity transactions

Applying a confirmed capacity plan through a journal, rolling it back, and
recovering the journals of earlier attempts.  Which aliases a project is short of
is a parameter here; how they are named is not.
-/

namespace SimulatorBroker.Broker

open SimulatorBroker.Effects
open SimulatorBroker.State

/-! ## Evaluation and plan -/

/-- What `buildCapacityEvaluation` has read; a missing part is a setup or
inventory issue of the report. -/
structure CapacityEvaluation where
  project : Option ProjectConfig := none
  hostConfigured : Bool := false
  inventory : Option SimctlInventory := none
  state : Option BrokerState := none

/-- The private part of a planned action. -/
structure CapacityAction where
  aliasName : AliasName
  capabilities : List String
  deviceFamily : DeviceFamily
  deviceTypeIdentifier : String
  displayName : String
  iosVersion : String
  resetPolicy : ResetPolicy
  runtimeIdentifier : String
  simulatorName : String
  deriving DecidableEq, Repr

/-- A plan: its id, what blocks it, its actions. -/
structure CapacityPlan where
  planId : Nat
  blocked : Option ReasonCode := none
  actions : List CapacityAction := []

/-- `action.requirement`, without the requested version. -/
structure CapacityRequirement where
  capability : String
  deviceFamily : DeviceFamily
  resetPolicy : ResetPolicy
  deriving DecidableEq, Repr

/-- A requirement no alias satisfies, and the simulator that would. -/
structure CapacityNeed where
  requirement : CapacityRequirement
  deviceTypeIdentifier : String
  iosVersion : String
  runtimeIdentifier : String
  deriving DecidableEq, Repr

/-- What the evaluation of the purposes comes to; the needs are in the order of
their requirements. -/
structure CapacityVerdict where
  planId : Nat
  blocked : Option ReasonCode := none
  needs : List CapacityNeed := []

abbrev CapacityPlanner := CapacityEvaluation → CapacityVerdict

/-- `CAPACITY_ALIAS_PREFIX_BY_CAPABILITY`. -/
def capacityAliasBasePrefix (capability : String) : String :=
  match capability with
  | "automation-resettable" => "automation"
  | "build-clean" => "clean-build"
  | "build-fast" => "build"
  | "interactive-resettable" => "ui"
  | "manual-persistent" => "manual"
  | _ => "capacity"

def capacityAliasPrefix (requirement : CapacityRequirement) : String :=
  let basePrefix := capacityAliasBasePrefix requirement.capability
  if requirement.deviceFamily = .iPad ∧ basePrefix = "ui" then "ipad"
  else if requirement.deviceFamily = .iPad ∧ includesText basePrefix "ipad" = false then
    basePrefix ++ "-ipad"
  else basePrefix

/-- The first free number; one of the first `existing.length + 1` is free. -/
def nextCapacityAlias (existingAliases : List AliasName) (requirement : CapacityRequirement) :
    AliasName :=
  let named (index : Nat) : AliasName := capacityAliasPrefix requirement ++ "-" ++ toString index
  let indices := (List.range (existingAliases.length + 1)).map (· + 1)
  named ((indices.find? fun index => named index ∉ existingAliases).getD 1)

def capacityDisplayName (requirement : CapacityRequirement) : String :=
  let capabilityLabel :=
    match requirement.capability with
    | "automation-resettable" => "Automation"
    | "build-clean" => "Clean Build"
    | "build-fast" => "Build"
    | "interactive-resettable" => "UI"
    | "manual-persistent" => "Manual"
    | _ => "Capacity"
  capabilityLabel ++ " " ++ DeviceFamily.text requirement.deviceFamily

def capacityAction (hostId : String) (name : AliasName) (need : CapacityNeed) : CapacityAction where
  aliasName := name
  capabilities := [need.requirement.capability]
  deviceFamily := need.requirement.deviceFamily
  deviceTypeIdentifier := need.deviceTypeIdentifier
  displayName := capacityDisplayName need.requirement
  iosVersion := need.iosVersion
  resetPolicy := need.requirement.resetPolicy
  runtimeIdentifier := need.runtimeIdentifier
  simulatorName := simulatorDisplayName hostId name

/-- Each action takes its alias from what the ones before left free. -/
def capacityActions (hostId : String) :
    List AliasName → List CapacityNeed → List CapacityAction
  | _, [] => []
  | existingAliases, need :: rest =>
      let name := nextCapacityAlias existingAliases need.requirement
      capacityAction hostId name need :: capacityActions hostId (existingAliases ++ [name]) rest

structure CapacityOptions where
  purposeId : Option PurposeId := none
  confirmPlanId : Option Nat := none
  actorType : String
  actorId : Option String := none

def loadCapacityProject : Broker (Option ProjectConfig) :=
  tryCatch
    (do
      let project ← perform .readProject
      return some project)
    fun error =>
      if error.reasonCode = some .missingProjectFile then pure none else throw error

def isMissingHostConfig (error : BrokerError) : Bool :=
  error.isBrokerError && decide (error.reasonCode = some .missingHostConfig)

def hostConfigReadable : Broker Bool :=
  tryCatch
    (do
      let _ ← readHostConfigOrThrow
      return true)
    fun error => if isMissingHostConfig error then pure false else throw error

/-- A preview reads a snapshot, an apply loads the state; both use the inventory
read before. -/
def buildCapacityEvaluation (paths : BrokerPaths) (options : CapacityOptions) (apply : Bool) :
    Broker CapacityEvaluation := do
  let timestamp ← perform .now
  match ← loadCapacityProject with
  | none =>
      let hostConfigured ← perform .hostConfigExists
      return { hostConfigured }
  | some project =>
      match options.purposeId with
      | none => pure ()
      | some purposeId => let _ ← getPurpose project purposeId
      if ← hostConfigReadable then
        match ← readSimctlInventory.attempt with
        | .error _ => return { project := some project, hostConfigured := true }
        | .ok inventory =>
            let loader :=
              if apply then loadBrokerState paths { timestamp, inventory := some inventory }
              else readBrokerStateSnapshot timestamp (some inventory)
            match ← loader.attempt with
            | .error error =>
                if isMissingHostConfig error then
                  return { project := some project, inventory := some inventory }
                else throw error
            | .ok state =>
                return {
                  project := some project, hostConfigured := true, inventory := some inventory
                  state := some state }
      else
        return { project := some project }

def buildCapacityPlan (paths : BrokerPaths) (planner : CapacityPlanner)
    (options : CapacityOptions) (apply : Bool) : Broker CapacityPlan := do
  let evaluation ← buildCapacityEvaluation paths options apply
  let verdict := planner evaluation
  let actions :=
    match evaluation.state with
    | none => []
    | some state =>
        capacityActions state.hostConfig.hostId state.hostConfig.aliasNames verdict.needs
  return { planId := verdict.planId, blocked := verdict.blocked, actions }

/-- `checkCapacityBroker`. -/
def checkCapacityBroker (paths : BrokerPaths) (options : CapacityOptions) :
    Broker CapacityEvaluation :=
  buildCapacityEvaluation paths options false

/-! ## The journal -/

def writeCapacityTransaction (transaction : CapacityTransaction) : Broker Unit :=
  writeJsonAtomicRestricted (.transaction transaction)

def appendCapacityEvent (type : EventType) (timestamp : Timestamp) : Broker Unit := do
  let _ ← appendEventRecord { type, timestamp }

namespace CapacityTransaction

/-- `transaction.status = …; transaction.updatedAt = timestamp`. -/
def toStatus (transaction : CapacityTransaction) (status : TransactionStatus)
    (timestamp : Timestamp) : CapacityTransaction :=
  { transaction with status, updatedAt := timestamp }

end CapacityTransaction

def createCapacityTransaction (timestamp : Timestamp) : Broker CapacityTransaction := do
  let transactionId ← perform .randomUuid
  return { transactionId, status := .intent, updatedAt := timestamp }

def recordCapacityRejection (timestamp : Timestamp) : Broker Unit := do
  let transaction ← createCapacityTransaction timestamp
  writeCapacityTransaction (CapacityTransaction.toStatus transaction .rejected timestamp)
  appendCapacityEvent .capacityReconcileFailed timestamp

def createPlannedCapacityAddition (action : CapacityAction) : CapacityAddition where
  aliasName := action.aliasName
  capabilities := action.capabilities
  deviceFamily := action.deviceFamily
  deviceTypeIdentifier := action.deviceTypeIdentifier
  displayName := action.displayName
  iosVersion := action.iosVersion
  resetPolicy := action.resetPolicy
  runtimeIdentifier := action.runtimeIdentifier
  simulatorName := action.simulatorName

/-! ## Which simulators belong to a transaction -/

def isPlannedDevice (addition : CapacityAddition) (device : IndexedDevice) : Bool :=
  decide (device.name = addition.simulatorName)
    && decide (device.deviceTypeIdentifier = addition.deviceTypeIdentifier)
    && decide (device.runtimeIdentifier = addition.runtimeIdentifier)

def matchingPlannedCapacityDevices (inventory : SimctlInventory) (addition : CapacityAddition) :
    List SimulatorId :=
  inventory.deviceIds.filter fun simulatorId =>
    (inventory.device? simulatorId).any (isPlannedDevice addition)

def capturePreCreateDeviceIds (addition : CapacityAddition) : Broker (List SimulatorId) := do
  let inventory ← readSimctlInventory
  return matchingPlannedCapacityDevices inventory addition

/-- The simulator id is not recorded, but what it was to look like is. -/
def CapacityAddition.unresolved (addition : CapacityAddition) : Bool :=
  addition.simulatorId.isNone && decide (addition.simulatorName ≠ "")
    && decide (addition.deviceTypeIdentifier ≠ "") && decide (addition.runtimeIdentifier ≠ "")

/-- The candidates for an unresolved addition: what matches it and was not there
before; a missing baseline counts as an empty one. -/
def unresolvedMatches (inventory : SimctlInventory) (addition : CapacityAddition) :
    List SimulatorId :=
  (matchingPlannedCapacityDevices inventory addition).filter fun simulatorId =>
    simulatorId ∉ addition.preCreateDeviceIds.getD []

inductive ResolvedAddition where
  | kept (addition : CapacityAddition)
  | recovered (addition : CapacityAddition)
  | ambiguous (addition : CapacityAddition)

def ResolvedAddition.addition : ResolvedAddition → CapacityAddition
  | .kept addition | .recovered addition | .ambiguous addition => addition

def resolveAddition (inventory : SimctlInventory) (addition : CapacityAddition) :
    ResolvedAddition :=
  if CapacityAddition.unresolved addition then
    match unresolvedMatches inventory addition with
    | [] => .kept addition
    | [simulatorId] => .recovered { addition with simulatorId := some simulatorId }
    | _ => .ambiguous addition
  else .kept addition

/-- The inventory is read when the first unresolved addition is met. -/
def resolvePlannedCapacityAdditions (transaction : CapacityTransaction) :
    Broker (List ResolvedAddition) := do
  if transaction.additions.any CapacityAddition.unresolved then
    let inventory ← readSimctlInventory
    return transaction.additions.map (resolveAddition inventory)
  else
    return transaction.additions.map .kept

def resolutionChanged (resolution : List ResolvedAddition) : Bool :=
  resolution.any fun resolved => resolved matches .recovered _

def resolutionAmbiguous (resolution : List ResolvedAddition) : Bool :=
  resolution.any fun resolved => resolved matches .ambiguous _

/-- The device must be gone from the next listing. -/
def deleteCapacityDevice (simulatorId : SimulatorId) : Broker Unit := do
  perform (.deleteDevice simulatorId .capacity)
  let inventory ← readSimctlInventory
  if simulatorId ∈ inventory.deviceIds then throw {}

def recordedIds (additions : List CapacityAddition) : List SimulatorId :=
  additions.filterMap (·.simulatorId)

/-! ## Rollback -/

/-- One turn of the deletion loop: the number of failed deletions. -/
def rollbackAddition (failedDeletes : Nat) (simulatorId : SimulatorId) : Broker Nat :=
  tryCatch
    (do
      deleteCapacityDevice simulatorId
      return failedDeletes)
    fun _ => pure (failedDeletes + 1)

/-- Always throws: the rollback is complete or it is not. -/
def rollbackCapacityTransaction {α : Type} (transaction : CapacityTransaction)
    (timestamp : Timestamp) : Broker α := do
  let resolution ← resolvePlannedCapacityAdditions transaction
  let resolved := { transaction with additions := resolution.map (·.addition) }
  let failedDeletes ← (recordedIds resolved.additions).foldlM rollbackAddition 0
  if 0 < failedDeletes ∨ resolutionAmbiguous resolution = true then
    writeCapacityTransaction (CapacityTransaction.toStatus resolved .rollbackIncomplete timestamp)
    appendCapacityEvent .capacityReconcileRollbackIncomplete timestamp
    throw (.broker .capacityRollbackIncomplete)
  else
    writeCapacityTransaction (CapacityTransaction.toStatus resolved .rolledBack timestamp)
    appendCapacityEvent .capacityReconcileRolledBack timestamp
    throw (.broker .capacityReconcileRolledBack)

/-! ## Recovery -/

/-- The addition is bound in the host config under its own alias. -/
def additionPresent (hostConfig : Option HostConfig) (addition : CapacityAddition) : Bool :=
  addition.simulatorId.any fun simulatorId =>
    hostConfig.any fun config =>
      config.aliases.any fun hostAlias =>
        decide (hostAlias.aliasName = addition.aliasName)
          && decide (hostAlias.simulatorId = simulatorId)

/-- A journal ends with an error. -/
def failRecovery {α : Type} (transaction : CapacityTransaction) (status : TransactionStatus)
    (type : EventType) (reasonCode : ReasonCode) (timestamp : Timestamp) : Broker α := do
  writeCapacityTransaction (CapacityTransaction.toStatus transaction status timestamp)
  appendCapacityEvent type timestamp
  throw (.broker reasonCode)

/-- The transaction is over: its status and its event. -/
def settleRecovery (transaction : CapacityTransaction) (status : TransactionStatus)
    (type : EventType) (timestamp : Timestamp) : Broker Unit := do
  writeCapacityTransaction (CapacityTransaction.toStatus transaction status timestamp)
  appendCapacityEvent type timestamp

/-- The additions of a journal are in the host config, all of them or some of
them, or they are deleted. -/
def settleTransaction (hostConfig : Option HostConfig) (timestamp : Timestamp)
    (transaction : CapacityTransaction) : Broker Unit := do
  let present := transaction.additions.filter (additionPresent hostConfig)
  if transaction.additions ≠ [] ∧ present.length = transaction.additions.length then
    settleRecovery transaction .finalized .capacityReconcileApplied timestamp
  else if present ≠ [] then
    failRecovery transaction .failed .capacityReconcileFailed .capacityRecoveryAmbiguous timestamp
  else
    tryCatch ((recordedIds transaction.additions).forM deleteCapacityDevice) fun _ =>
      failRecovery transaction .rollbackIncomplete .capacityReconcileRollbackIncomplete
        .capacityRollbackIncomplete timestamp
    settleRecovery transaction .rolledBack .capacityReconcileRolledBack timestamp

/-- One turn of the loop of `recoverCapacityTransactions`. -/
def recoverTransaction (hostConfig : Option HostConfig) (timestamp : Timestamp)
    (transaction : CapacityTransaction) : Broker Unit := do
  if transaction.status.terminal then
    pure ()
  else
    let resolution ← resolvePlannedCapacityAdditions transaction
    let resolved := { transaction with additions := resolution.map (·.addition) }
    if resolutionChanged resolution then
      writeCapacityTransaction { resolved with updatedAt := timestamp }
    if resolutionAmbiguous resolution then
      failRecovery resolved .rollbackIncomplete .capacityReconcileRollbackIncomplete
        .capacityRollbackIncomplete timestamp
    else
      settleTransaction hostConfig timestamp resolved

def recoverCapacityTransactions : Broker Unit := do
  let timestamp ← perform .now
  let transactions ← perform .listTransactions
  if transactions = [] then
    pure ()
  else
    let hostConfig ←
      match ← perform .readHostConfig with
      | none => pure none
      | some config => some <$> validateHostConfig config
    transactions.forM (recoverTransaction hostConfig timestamp)

/-! ## Applying a plan -/

/-- How far the creation came: the transaction in memory and its error. -/
structure CapacityProgress where
  transaction : CapacityTransaction
  error : Option BrokerError := none

/-- The addition joins the transaction before its baseline is captured; the
journal is written before and after the creation. -/
def createAdditions (timestamp : Timestamp) :
    List CapacityAction → CapacityTransaction → Broker CapacityProgress
  | [], transaction => pure { transaction }
  | action :: rest, transaction => do
      let addition := createPlannedCapacityAddition action
      let withAddition (addition : CapacityAddition) : CapacityTransaction :=
        { CapacityTransaction.toStatus transaction .creating timestamp with
          additions := transaction.additions ++ [addition] }
      match ← (capturePreCreateDeviceIds addition).attempt with
      | .error error => return { transaction := withAddition addition, error := some error }
      | .ok preCreateDeviceIds =>
          let planned := { addition with preCreateDeviceIds := some preCreateDeviceIds }
          match ← (writeCapacityTransaction (withAddition planned)).attempt with
          | .error error => return { transaction := withAddition planned, error := some error }
          | .ok () =>
              let create := perform (.createDevice action.simulatorName
                action.deviceTypeIdentifier action.runtimeIdentifier)
              match ← create.attempt with
              | .error error =>
                  return { transaction := withAddition planned, error := some error }
              | .ok simulatorId =>
                  let created := { planned with simulatorId := some simulatorId }
                  match ← (writeCapacityTransaction (withAddition created)).attempt with
                  | .error error =>
                      return { transaction := withAddition created, error := some error }
                  | .ok () => createAdditions timestamp rest (withAddition created)

/-- The alias an addition becomes; its id is recorded by then. -/
def additionAlias (addition : CapacityAddition) : Option HostAlias :=
  addition.simulatorId.map fun simulatorId =>
    { aliasName := addition.aliasName, capabilities := addition.capabilities
      deviceFamily := addition.deviceFamily, displayName := addition.displayName
      iosVersion := addition.iosVersion, resetPolicy := addition.resetPolicy, simulatorId }

def commitCapacityAdditions (transaction : CapacityTransaction) : Broker Unit := do
  let current ← readHostConfigOrThrow
  writeJsonAtomicDurable
    { current with aliases := current.aliases ++ transaction.additions.filterMap additionAlias }

/-- After the commit: the journal, a load with the timestamp of the command, the
journal again. -/
def finalizeCapacityTransaction (paths : BrokerPaths) (transaction : CapacityTransaction)
    (timestamp : Timestamp) : Broker Unit := do
  writeCapacityTransaction (CapacityTransaction.toStatus transaction .configCommitted timestamp)
  let _ ← loadBrokerState paths { timestamp }
  writeCapacityTransaction (CapacityTransaction.toStatus transaction .finalized timestamp)
  appendCapacityEvent .capacityReconcileApplied timestamp

def requireCommittedRecovery {α : Type} (transaction : CapacityTransaction)
    (timestamp : Timestamp) : Broker α := do
  writeCapacityTransaction
    (CapacityTransaction.toStatus transaction .committedRecoveryRequired timestamp)
  appendCapacityEvent .capacityReconcileFailed timestamp
  throw (.broker .capacityCommittedRecoveryRequired)

def applyCapacityPlan (paths : BrokerPaths) (plan : CapacityPlan) (timestamp : Timestamp) :
    Broker Unit := do
  let transaction ← createCapacityTransaction timestamp
  writeCapacityTransaction transaction
  let progress ← createAdditions timestamp plan.actions transaction
  match progress.error with
  | some _ => rollbackCapacityTransaction progress.transaction timestamp
  | none =>
      match ← (commitCapacityAdditions progress.transaction).attempt with
      | .error error =>
          if error.hostConfigCommitted then requireCommittedRecovery progress.transaction timestamp
          else rollbackCapacityTransaction progress.transaction timestamp
      | .ok () =>
          tryCatch (finalizeCapacityTransaction paths progress.transaction timestamp) fun _ =>
            requireCommittedRecovery progress.transaction timestamp

def applyNoChangesPlan (timestamp : Timestamp) : Broker Unit := do
  let transaction ← createCapacityTransaction timestamp
  writeCapacityTransaction (CapacityTransaction.toStatus transaction .finalized timestamp)
  appendCapacityEvent .capacityReconcileNoChanges timestamp

/-! ## The command -/

def validateCapacityApplyShape (options : CapacityOptions) : Except BrokerError Unit :=
  if options.confirmPlanId.isNone then .error (.broker .capacityConfirmationRequired)
  else if options.actorType ≠ "human" ∧ options.actorType ≠ "agent" then
    .error (.broker .capacityActorForbidden)
  else if (options.actorId.map trimString).getD "" = "" then
    .error (.broker .capacityActorRequired)
  else .ok ()

/-- `validateCapacityApplyConfirmation` and `validateCapacityPlanIsApplicable`. -/
def validateCapacityPlan (options : CapacityOptions) (plan : CapacityPlan) :
    Except BrokerError Unit :=
  if options.confirmPlanId ≠ some plan.planId then .error (.broker .capacityPlanStale)
  else
    match plan.blocked with
    | some reasonCode => .error (.broker reasonCode)
    | none => .ok ()

/-- A refused plan is recorded before the refusal is thrown. -/
def admitCapacityPlan (options : CapacityOptions) (plan : CapacityPlan) (timestamp : Timestamp) :
    Broker Unit :=
  match validateCapacityPlan options plan with
  | .ok () => pure ()
  | .error error => do
      recordCapacityRejection timestamp
      throw error

/-- The part of the apply under both locks. -/
def reconcileCapacity (paths : BrokerPaths) (planner : CapacityPlanner) (options : CapacityOptions)
    (timestamp : Timestamp) : Broker Unit := do
  recoverCapacityTransactions
  let plan ← buildCapacityPlan paths planner options true
  admitCapacityPlan options plan timestamp
  if plan.actions = [] then applyNoChangesPlan timestamp
  else applyCapacityPlan paths plan timestamp

/-- Errors of the evidence of a refused shape are ignored. -/
def recordShapeRejection (paths : BrokerPaths) (planner : CapacityPlanner)
    (options : CapacityOptions) (timestamp : Timestamp) : Broker Unit :=
  ignoringErrors (withLock .capacity do
    let _ ← buildCapacityPlan paths planner options false
    recordCapacityRejection timestamp)

/-- `reconcileCapacityBroker` with `--apply`; `timestamp` was read before any
lock. -/
def reconcileCapacityBroker (paths : BrokerPaths) (planner : CapacityPlanner)
    (options : CapacityOptions) (timestamp : Timestamp) : Broker Unit :=
  match validateCapacityApplyShape options with
  | .error error => do
      recordShapeRejection paths planner options timestamp
      throw error
  | .ok () =>
      withLock .capacity do
        let confirmedPlan ← buildCapacityPlan paths planner options false
        admitCapacityPlan options confirmedPlan timestamp
        withLock .lease (reconcileCapacity paths planner options timestamp)

end SimulatorBroker.Broker
