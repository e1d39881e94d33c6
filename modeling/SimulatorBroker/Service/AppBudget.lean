import SimulatorBroker.Service.Budget

/-!
# Execution budgets of the dashboard app

The app's own computation of a command's budget, in whole seconds and from its own
reading of the files, and the commands that the dashboard sends.
-/

namespace SimulatorBroker.Service.App

/-! ## Constants -/

def capacityApplyFinalSnapshotStateLoads : Nat := 1
def capacityApplyFinalizationStateLoads : Nat := 1
def capacityApplyPlanEvaluations : Nat := 2
def capacityApplyTimeoutSeconds : Nat := 5 * 60
def capacityRollbackInventoryCommands : Nat := 3
def capacityRollbackSimctlCommandsPerAction : Nat := 4
def containmentDiagnosticTimeoutSeconds : Nat := 20
def defaultContainmentPostKillWaitMilliseconds : Nat := 50
def defaultContainmentTermWaitMilliseconds : Nat := 250
def defaultCommandQueueTimeoutSeconds : Nat := 60
def defaultCommandTimeoutSeconds : Nat := 30
def defaultLockTimeoutMilliseconds : Nat := 60000
def defaultResetSettleMilliseconds : Nat := 250
def hostBootstrapAliasCount : Nat := 6
def hostBootstrapBaselineStateLoads : Nat := 1
def hostBootstrapReplacementStateLoads : Nat := 1
def hostBootstrapRetirementStateLoads : Nat := 1
def hostBootstrapSimctlCommandsPerAlias : Nat := 5
def leaseAcquireSimctlCommands : Nat := 4
def processSamplerInvocationsPerStateLoad : Nat := 1
def processSamplerTimeoutSeconds : Nat := 10
def simctlInventoryCommandsPerStateLoad : Nat := 3
def capacitySimctlCommandsPerAction : Nat := 4
def simctlCommandTimeoutSeconds : Nat := 120
def staleContainmentProcessSamplerInvocations : Nat := 8

def stateLoadBudgetSeconds : Nat :=
  simctlInventoryCommandsPerStateLoad * simctlCommandTimeoutSeconds
    + processSamplerInvocationsPerStateLoad * processSamplerTimeoutSeconds

/-! ## Durations and counts -/

/-- `Int(ceil(Double(milliseconds) / 1000.0))`, which is exact below 2^53. -/
def wholeSeconds (milliseconds : Nat) : Nat :=
  (milliseconds + 999) / 1000

def timeoutMilliseconds (option : Option Int) (fallbackMilliseconds : Nat) : Nat :=
  (option.getD fallbackMilliseconds).toNat

def timeoutSeconds (option : Option Int) (fallbackMilliseconds : Nat) : Nat :=
  wholeSeconds (timeoutMilliseconds option fallbackMilliseconds)

section Request

variable (request : CommandRequest)

def leaseLockTimeoutSeconds : Nat :=
  timeoutSeconds request.options.leaseLockTimeoutMilliseconds defaultLockTimeoutMilliseconds

def capacityLockTimeoutSeconds : Nat :=
  timeoutSeconds request.options.capacityLockTimeoutMilliseconds defaultLockTimeoutMilliseconds

def commandQueueTimeoutSeconds : Nat :=
  timeoutSeconds request.options.serviceCommandQueueTimeoutMilliseconds
    (defaultCommandQueueTimeoutSeconds * 1000)

def capacityActionCount : Nat :=
  max 1 (request.options.capacityActionCount.getD 1).toNat

def capacityRecoveryAdditionCount : Nat :=
  (request.options.capacityRecoveryAdditionCount.getD 0).toNat

def capacityRecoveryTransactionCount : Nat :=
  (request.options.capacityRecoveryTransactionCount.getD 0).toNat

def writesFinalSnapshot : Bool :=
  if request.group = .help ∨ request.group = .events then false
  else if request.group = .capacity ∧ request.options.apply ≠ some true then false
  else true

def commandStateLoadCount : Nat :=
  if request.group = .help ∨ request.group = .events ∨ request.group = .capacity then 0
  else 1 + (if writesFinalSnapshot request then 1 else 0)

def mayRunStaleContainment : Bool :=
  if request.group = .help ∨ request.group = .events then false
  else if request.group = .capacity then
    decide (request.command = .reconcile) && decide (request.options.apply = some true)
  else true

def finalSnapshotLeaseLockTimeoutSeconds : Nat :=
  if writesFinalSnapshot request then leaseLockTimeoutSeconds request else 0

def usesSerializedStateReadLock : Bool :=
  match request.group with
  | .doctor => true
  | .host => request.command = .status
  | .lease => request.command = .explain
  | _ => false

def usesLeaseMutationLock : Bool :=
  match request.group with
  | .lease => decide (request.command ∈ [.acquire, .contain, .registerProcess, .release])
  | .pin => decide (request.command ∈ [.clear, .create])
  | .simulators => decide (request.command ∈ [.boot, .delete, .erase, .repair, .shutdown])
  | .idle => true
  | _ => false

def serializedStateReadLockTimeoutSeconds : Nat :=
  if usesSerializedStateReadLock request then leaseLockTimeoutSeconds request else 0

def leaseAcquireResetSimctlBudgetSeconds : Nat :=
  if request.group = .lease ∧ request.command = .acquire then
    leaseAcquireSimctlCommands * simctlCommandTimeoutSeconds
  else 0

def capacityCheckSimctlBudgetSeconds : Nat :=
  if request.group = .capacity ∧ request.command = .check then stateLoadBudgetSeconds else 0

/-! ## What the app reads of the files -/

/-- `BrokerLeaseTimeoutSummary.hasContainmentProcessMetadata`. -/
def hasContainmentProcessMetadata (lease : LeaseFile) : Bool :=
  match lease.runtime with
  | none => false
  | some runtime =>
      decide (0 < runtime.commandPid.getD 0) || decide (0 < runtime.commandPgid.getD 0)
        || decide (0 < runtime.memoryCeilingBytes.getD 0) || decide (0 < runtime.ownerPgid.getD 0)
        || !runtime.simulatorProcessNames.isEmpty

variable (files : ServiceFiles)

def staleContainmentLeaseCount : Nat :=
  match request.options.staleContainmentLeaseCount with
  | some explicitCount => explicitCount.toNat
  | none =>
      match files.leases with
      | .entries leases => (leases.filterMap StoredFile.read).countP hasContainmentProcessMetadata
      | _ => 0

def hostBootstrapRetirementCount : Nat :=
  match request.options.hostBootstrapRetirementCount with
  | some explicitCount => explicitCount.toNat
  | none =>
      match files.hostConfig.read with
      | some hostConfig =>
          let bound := (hostConfig.aliases.getD []).map (·.simulatorId)
          let retired := hostConfig.pendingRetirements.getD []
          ((bound ++ retired).filter fun simulatorId => decide (simulatorId ≠ "")).eraseDups.length
      | none => 0

def hostAliasCount : Nat :=
  match files.hostConfig.read with
  | some hostConfig =>
      match hostConfig.aliases with
      | some aliases => aliases.length
      | none => hostBootstrapAliasCount
  | none => hostBootstrapAliasCount

def pendingRetirementCount : Nat :=
  match files.hostConfig.read with
  | some hostConfig => (hostConfig.pendingRetirements.map List.length).getD 0
  | none => 0

/-! ## Budgets -/

def staleContainmentBudgetSeconds (stateLoadCount : Nat) : Nat :=
  if mayRunStaleContainment request = false then 0
  else if stateLoadCount = 0 then 0
  else if staleContainmentLeaseCount request files = 0 then 0
  else
    let termWaitMilliseconds :=
      timeoutMilliseconds request.options.termWaitMs defaultContainmentTermWaitMilliseconds
    wholeSeconds (stateLoadCount * staleContainmentLeaseCount request files
      * (staleContainmentProcessSamplerInvocations * processSamplerTimeoutSeconds * 1000
        + termWaitMilliseconds + defaultContainmentPostKillWaitMilliseconds))

def brokerStateLoadBudgetSeconds (stateLoadCount : Nat) : Nat :=
  stateLoadCount * stateLoadBudgetSeconds
    + staleContainmentBudgetSeconds request files stateLoadCount

def capacityReconcileSimctlBudgetSeconds : Nat :=
  if request.group ≠ .capacity ∨ request.command ≠ .reconcile then 0
  else if request.options.apply ≠ some true then brokerStateLoadBudgetSeconds request files 1
  else
    let stateLoadCount := capacityApplyPlanEvaluations + capacityApplyFinalizationStateLoads
      + capacityApplyFinalSnapshotStateLoads + capacityRecoveryTransactionCount request
    let commandCount := capacityActionCount request * capacitySimctlCommandsPerAction
      + capacityRollbackInventoryCommands
      + capacityActionCount request * capacityRollbackSimctlCommandsPerAction
      + capacityRecoveryAdditionCount request * capacitySimctlCommandsPerAction
    brokerStateLoadBudgetSeconds request files stateLoadCount
      + commandCount * simctlCommandTimeoutSeconds

def hostInitWillProvisionBootstrap : Bool :=
  if request.group ≠ .host ∨ request.command ≠ .init
      ∨ request.options.bootstrapConfig ≠ some true then false
  else if request.options.force = some true then true
  else match files.hostConfig with
    | .missing => true
    | _ => false

def hostInitBootstrapBudgetSeconds : Nat :=
  if hostInitWillProvisionBootstrap request files = false then 0
  else
    let retirementCount := hostBootstrapRetirementCount request files
    let stateLoadCount := hostBootstrapBaselineStateLoads + hostBootstrapReplacementStateLoads
      + (if 0 < retirementCount then hostBootstrapRetirementStateLoads else 0)
    let commandCount := hostBootstrapAliasCount * hostBootstrapSimctlCommandsPerAlias
      + retirementCount * 2
    capacityLockTimeoutSeconds request + brokerStateLoadBudgetSeconds request files stateLoadCount
      + commandCount * simctlCommandTimeoutSeconds

def simulatorLifecycleSimctlBudgetSeconds : Nat :=
  if request.group ≠ .simulators then 0
  else
    let commandCount := match request.command with
      | .boot | .erase => 2
      | .shutdown => 1
      | .repair => 10 + pendingRetirementCount files * 2
      | .delete => hostAliasCount files * 2
      | _ => 0
    commandCount * simctlCommandTimeoutSeconds

def idleShutdownSimctlBudgetSeconds : Nat :=
  if request.group = .idle ∧ (request.command = .reconcile
      ∨ (request.command = .cleanup ∧ request.options.apply = some true)) then
    hostAliasCount files * simctlCommandTimeoutSeconds
  else 0

def calculatedExecutionTimeoutSeconds : Nat :=
  let stateLoadBudget := brokerStateLoadBudgetSeconds request files (commandStateLoadCount request)
  let snapshotLockBudget := finalSnapshotLeaseLockTimeoutSeconds request
  match request.group, request.command with
  | .host, .init =>
      defaultCommandTimeoutSeconds + leaseLockTimeoutSeconds request + snapshotLockBudget
        + stateLoadBudget + hostInitBootstrapBudgetSeconds request files
  | .lease, .acquire =>
      defaultCommandTimeoutSeconds + leaseLockTimeoutSeconds request
        + timeoutSeconds request.options.resetLockTimeoutMilliseconds defaultLockTimeoutMilliseconds
        + timeoutSeconds request.options.resetSettleMilliseconds defaultResetSettleMilliseconds
        + leaseAcquireResetSimctlBudgetSeconds request + snapshotLockBudget + stateLoadBudget
  | .lease, .contain =>
      defaultCommandTimeoutSeconds + leaseLockTimeoutSeconds request
        + timeoutSeconds request.options.termWaitMs 0
        + (if request.options.captureDiagnostics = some true then
          containmentDiagnosticTimeoutSeconds else 0)
        + snapshotLockBudget + stateLoadBudget
  | .capacity, .reconcile =>
      if request.options.apply = some true then
        max capacityApplyTimeoutSeconds (defaultCommandTimeoutSeconds
          + capacityLockTimeoutSeconds request + leaseLockTimeoutSeconds request
          + snapshotLockBudget + capacityReconcileSimctlBudgetSeconds request files)
      else
        defaultCommandTimeoutSeconds + capacityReconcileSimctlBudgetSeconds request files
  | .capacity, .check =>
      defaultCommandTimeoutSeconds + capacityCheckSimctlBudgetSeconds request
  | .simulators, .repair | .simulators, .delete =>
      defaultCommandTimeoutSeconds + capacityLockTimeoutSeconds request
        + leaseLockTimeoutSeconds request + snapshotLockBudget + stateLoadBudget
        + simulatorLifecycleSimctlBudgetSeconds request files
  | .simulators, _ =>
      defaultCommandTimeoutSeconds + leaseLockTimeoutSeconds request + snapshotLockBudget
        + stateLoadBudget + simulatorLifecycleSimctlBudgetSeconds request files
  | .idle, _ =>
      defaultCommandTimeoutSeconds + leaseLockTimeoutSeconds request + snapshotLockBudget
        + stateLoadBudget + idleShutdownSimctlBudgetSeconds request files
  | _, _ =>
      if usesLeaseMutationLock request then
        defaultCommandTimeoutSeconds + leaseLockTimeoutSeconds request + snapshotLockBudget
          + stateLoadBudget
      else
        defaultCommandTimeoutSeconds + serializedStateReadLockTimeoutSeconds request
          + snapshotLockBudget + stateLoadBudget

/-- `makeBodyData` with the budget of `timeoutBudget`. -/
def makeBodyData (startedAtMilliseconds : Nat) : CommandBody where
  request
  clientRequestStartedAtMilliseconds := .integer startedAtMilliseconds
  clientCommandExecutionTimeoutMilliseconds :=
    .integer ((calculatedExecutionTimeoutSeconds request files * 1000 : Nat) : Int)
  clientCommandQueueTimeoutMilliseconds :=
    .integer ((commandQueueTimeoutSeconds request * 1000 : Nat) : Int)

end Request

/-! ## The commands of the dashboard -/

inductive LifecycleAction where
  | boot | shutdown | erase | repair | delete
  deriving DecidableEq, Repr

def LifecycleAction.commandName : LifecycleAction → CommandName
  | .boot => .boot
  | .shutdown => .shutdown
  | .erase => .erase
  | .repair => .repair
  | .delete => .delete

/-- The requests that the dashboard builds. -/
inductive DashboardCommand where
  | releaseLease
  | clearPin
  | createPin (projectFilePath purposeId : String)
  | performLifecycleAction (action : LifecycleAction)
  | applyIdlePolicy
  | disableIdlePolicy
  | requestIdleCleanup
  | applyConfirmedIdleCleanup
  | loadCapacityPreview (projectFilePath : String) (purposeId : Option String)
  | applyConfirmedCapacityPlan (projectFilePath : String) (purposeId : Option String)
  deriving DecidableEq, Repr

/-- `if let purposeId, purposeId.isEmpty == false`. -/
def givenPurpose (purposeId : Option String) : Option String :=
  purposeId.filter (· ≠ "")

def DashboardCommand.request : DashboardCommand → CommandRequest
  | .releaseLease => { group := .lease, command := .release }
  | .clearPin => { group := .pin, command := .clear }
  | .createPin projectFilePath purposeId => {
      group := .pin, command := .create
      options := { projectFilePath := some projectFilePath, purposeId := some purposeId } }
  | .performLifecycleAction action => { group := .simulators, command := action.commandName }
  | .applyIdlePolicy => { group := .idle, command := .enable }
  | .disableIdlePolicy => { group := .idle, command := .disable }
  | .requestIdleCleanup => { group := .idle, command := .cleanup }
  | .applyConfirmedIdleCleanup => {
      group := .idle, command := .cleanup, options := { apply := some true } }
  | .loadCapacityPreview projectFilePath purposeId => {
      group := .capacity, command := .reconcile
      options := {
        projectFilePath := some projectFilePath, purposeId := givenPurpose purposeId } }
  | .applyConfirmedCapacityPlan projectFilePath purposeId => {
      group := .capacity, command := .reconcile
      options := {
        apply := some true
        projectFilePath := some projectFilePath, purposeId := givenPurpose purposeId } }

end SimulatorBroker.Service.App
