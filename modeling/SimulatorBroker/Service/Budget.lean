import Mathlib.Algebra.GroupWithZero.Nat
import Mathlib.Tactic.Common

/-!
# Execution budgets of the service

How long the daemon allows a command, computed from the request and from the
files that it finds, and the check that a command is still fresh when its turn
comes.  All durations are milliseconds.
-/

namespace SimulatorBroker.Service

/-! ## Files -/

/-- A JSON file: absent, not JSON, or its content. -/
inductive StoredFile (α : Type) where
  | missing
  | unreadable
  | content (value : α)
  deriving DecidableEq, Repr

/-- `readJsonIfPresent`. -/
def StoredFile.read {α : Type} : StoredFile α → Option α
  | .content value => some value
  | _ => none

/-- A directory: absent, one that cannot be listed, or its JSON files. -/
inductive Listing (α : Type) where
  | missing
  | unreadable
  | entries (files : List (StoredFile α))
  deriving DecidableEq, Repr

inductive ListingError where
  | directoryUnreadable
  deriving DecidableEq, Repr

/-- `existsSync` and then `readdirSync`. -/
def Listing.list {α : Type} : Listing α → Except ListingError (List (StoredFile α))
  | .missing => .ok []
  | .unreadable => .error .directoryUnreadable
  | .entries files => .ok files

/-- White space and line ends in the sense of `String.prototype.trim`. -/
def isWhiteSpace (c : Char) : Bool :=
  let n := c.toNat
  decide (0x09 ≤ n ∧ n ≤ 0x0D) || n == 0x20 || n == 0xA0 || n == 0x1680
    || decide (0x2000 ≤ n ∧ n ≤ 0x200A) || n == 0x2028 || n == 0x2029 || n == 0x202F
    || n == 0x205F || n == 0x3000 || n == 0xFEFF

/-- `text.trim() === ""`. -/
def isBlank (text : String) : Bool :=
  text.toList.all isWhiteSpace

/-- What containment needs to know of a lease; its names are kept trimmed. -/
structure LeaseRuntime where
  commandPid : Option Nat := none
  commandPgid : Option Nat := none
  memoryCeilingBytes : Option Nat := none
  ownerPgid : Option Nat := none
  simulatorProcessNames : List String := []
  named : ∀ name ∈ simulatorProcessNames, isBlank name = false := by decide

structure LeaseFile where
  runtime : Option LeaseRuntime

/-- A policy flag: not given, a truth value, or anything else. -/
inductive Flag where
  | missing
  | bool (value : Bool)
  | other
  deriving DecidableEq, Repr

structure SlotReclaimFile where
  enabled : Flag := .missing
  buildEnabled : Flag := .missing
  manualEnabled : Flag := .missing
  deriving DecidableEq, Repr

structure HostAliasFile where
  simulatorId : String
  resetPolicy : String
  capabilities : List String
  deriving DecidableEq, Repr

structure HostConfigFile where
  aliases : Option (List HostAliasFile)
  pendingRetirements : Option (List String) := none
  slotReclaim : SlotReclaimFile := {}
  deriving DecidableEq, Repr

/-- A project file; the ids of its purposes. -/
structure ProjectFile where
  purposes : List String
  deriving DecidableEq, Repr

/-- A capacity transaction; the numbers of its additions and actions. -/
structure TransactionFile where
  status : String
  additions : Option Nat
  actions : Option Nat
  deriving DecidableEq, Repr

/-- What the daemon's paths lead to. -/
structure ServiceFiles where
  hostConfig : StoredFile HostConfigFile
  leases : Listing LeaseFile
  capacityTransactions : Listing TransactionFile
  projectFile : String → StoredFile ProjectFile
  projectFilePath : Option String := none

/-! ## Requests -/

inductive Group where
  | app | capacity | doctor | events | help | host | idle | lease | pin | simulators | other
  deriving DecidableEq, Repr

inductive CommandName where
  | acquire | boot | check | cleanup | clear | contain | create | delete | disable | enable
  | erase | explain | init | reconcile | registerProcess | release | repair | shutdown | snapshot
  | status | other
  deriving DecidableEq, Repr

/-- The options that a budget depends on. -/
structure CommandOptions where
  apply : Option Bool := none
  bootstrapConfig : Option Bool := none
  captureDiagnostics : Option Bool := none
  force : Option Bool := none
  capacityActionCount : Option Int := none
  capacityLockTimeoutMilliseconds : Option Int := none
  capacityRecoveryAdditionCount : Option Int := none
  capacityRecoveryTransactionCount : Option Int := none
  hostBootstrapRetirementCount : Option Int := none
  leaseLockTimeoutMilliseconds : Option Int := none
  pendingRetirementCount : Option Int := none
  projectFilePath : Option String := none
  purposeId : Option String := none
  resetLockTimeoutMilliseconds : Option Int := none
  resetSettleMilliseconds : Option Int := none
  serviceCommandQueueTimeoutMilliseconds : Option Int := none
  staleContainmentLeaseCount : Option Int := none
  termWaitMs : Option Int := none
  deriving DecidableEq, Repr

structure CommandRequest where
  group : Group
  command : CommandName
  options : CommandOptions := {}
  deriving DecidableEq, Repr

/-! ## Constants -/

def defaultCommandTimeoutMs : Nat := 25000
def containmentDiagnosticTimeoutMs : Nat := 20000
def capacityApplyTimeoutMs : Nat := 5 * 60000
def defaultLockTimeoutMs : Nat := 60000
def defaultResetSettleMs : Nat := 250
def simctlCommandTimeoutMs : Nat := 120000
def processSamplerTimeoutMs : Nat := 10000
def simctlInventoryCommandsPerStateLoad : Nat := 3
def processSamplerInvocationsPerStateLoad : Nat := 1
def defaultContainmentTermWaitMs : Nat := 250
def defaultContainmentPostKillWaitMs : Nat := 50
def defaultContainmentPostKillPollMs : Nat := 10

def staleContainmentProcessSamplerInvocations : Nat :=
  2 + defaultContainmentPostKillWaitMs / defaultContainmentPostKillPollMs + 1

def slotReclaimSharedListCommands : Nat := 1
def slotReclaimCommandsPerAlias : Nat := 3
def leaseAcquireResetEraseSimctlCommands : Nat := 2
def leaseAcquireBootSimctlCommands : Nat := 2

def leaseAcquireResetSimctlCommands : Nat :=
  leaseAcquireResetEraseSimctlCommands + leaseAcquireBootSimctlCommands

def leaseAcquireReclaimSimctlCommands : Nat :=
  slotReclaimSharedListCommands + slotReclaimCommandsPerAlias + leaseAcquireBootSimctlCommands

def capacityApplyPlanEvaluations : Nat := 2
def capacityApplyFinalizationStateLoads : Nat := 1
def capacityApplyFinalSnapshotStateLoads : Nat := 1
def capacitySimctlCommandsPerAction : Nat := simctlInventoryCommandsPerStateLoad + 1
def capacityRollbackInventoryCommands : Nat := simctlInventoryCommandsPerStateLoad
def capacityRollbackSimctlCommandsPerAction : Nat := simctlInventoryCommandsPerStateLoad + 1
def hostBootstrapAliasCount : Nat := 6
def hostBootstrapBaselineStateLoads : Nat := 1
def hostBootstrapReplacementStateLoads : Nat := 1
def hostBootstrapRetirementStateLoads : Nat := 1
def hostBootstrapSimctlCommandsPerAlias : Nat := simctlInventoryCommandsPerStateLoad + 2

/-- `SIMULATOR_LIFECYCLE_SIMCTL_COMMANDS`. -/
def simulatorLifecycleSimctlCommands : CommandName → Nat
  | .boot | .erase => 2
  | .repair => 10
  | .shutdown => 1
  | _ => 0

/-! ## Durations and counts -/

def positiveDurationMs (value : Option Int) (fallbackMs : Nat) : Nat :=
  match value with
  | some parsed => if 0 < parsed then parsed.toNat else fallbackMs
  | none => fallbackMs

/-- `nonNegativeDurationMs`, and `nonNegativeInteger` as well. -/
def nonNegativeInteger (value : Option Int) (fallback : Nat) : Nat :=
  match value with
  | some parsed => if 0 ≤ parsed then parsed.toNat else fallback
  | none => fallback

def leaseLockTimeoutMs (request : CommandRequest) : Nat :=
  positiveDurationMs request.options.leaseLockTimeoutMilliseconds defaultLockTimeoutMs

def capacityLockTimeoutMs (request : CommandRequest) : Nat :=
  positiveDurationMs request.options.capacityLockTimeoutMilliseconds defaultLockTimeoutMs

def containmentTermWaitMs (request : CommandRequest) : Nat :=
  positiveDurationMs request.options.termWaitMs 0

def staleContainmentTermWaitMs (request : CommandRequest) : Nat :=
  nonNegativeInteger request.options.termWaitMs defaultContainmentTermWaitMs

def resetBudgetMs (request : CommandRequest) : Nat :=
  positiveDurationMs request.options.resetLockTimeoutMilliseconds defaultLockTimeoutMs
    + positiveDurationMs request.options.resetSettleMilliseconds defaultResetSettleMs

def leaseHasContainmentProcessMetadata (lease : LeaseFile) : Bool :=
  match lease.runtime with
  | none => false
  | some runtime =>
      runtime.commandPid.any (0 < ·) || runtime.commandPgid.any (0 < ·)
        || runtime.memoryCeilingBytes.any (0 < ·) || runtime.ownerPgid.any (0 < ·)
        || !(runtime.simulatorProcessNames.filter (!isBlank ·)).isEmpty

def staleContainmentLeaseCountFromPaths (files : ServiceFiles) : Except ListingError Nat := do
  let entries ← files.leases.list
  return (entries.filterMap StoredFile.read).countP leaseHasContainmentProcessMetadata

def pendingRetirementCountFromPaths (files : ServiceFiles) : Nat :=
  match files.hostConfig.read with
  | some hostConfig => (hostConfig.pendingRetirements.getD []).length
  | none => 0

def hostBootstrapRetirementCountFromPaths (files : ServiceFiles) : Nat :=
  match files.hostConfig.read with
  | some hostConfig =>
      let bound := (hostConfig.aliases.getD []).map (·.simulatorId)
      let retired := hostConfig.pendingRetirements.getD []
      ((bound ++ retired).filter (!isBlank ·)).eraseDups.length
  | none => 0

def hostAliasCountFromPaths (files : ServiceFiles) : Nat :=
  match files.hostConfig.read with
  | some hostConfig => (hostConfig.aliases.map List.length).getD hostBootstrapAliasCount
  | none => hostBootstrapAliasCount

inductive SlotClass where
  | build
  | manual
  deriving DecidableEq, Repr

def classifyReclaimSlot (hostAlias : HostAliasFile) : Option SlotClass :=
  if hostAlias.resetPolicy = "erase-on-acquire" then none
  else if "manual-persistent" ∈ hostAlias.capabilities then some .manual
  else if "build-fast" ∈ hostAlias.capabilities then some .build
  else none

/-- The flags of `resolveSlotReclaimPolicy`; a class flag counts only when it is `true`. -/
def SlotReclaimFile.resolvedEnabled (policy : SlotReclaimFile) : Bool :=
  match policy.enabled with
  | .bool value => value
  | _ => true

def SlotReclaimFile.classEnabled (policy : SlotReclaimFile) : SlotClass → Bool
  | .build => policy.buildEnabled = .missing || policy.buildEnabled = .bool true
  | .manual => policy.manualEnabled = .bool true

def enabledSlotReclaimCandidateCount (files : ServiceFiles) : Nat :=
  match files.hostConfig.read with
  | none => 0
  | some hostConfig =>
      if hostConfig.slotReclaim.resolvedEnabled then
        (hostConfig.aliases.getD []).countP fun hostAlias =>
          (classifyReclaimSlot hostAlias).any hostConfig.slotReclaim.classEnabled
      else 0

def slotReclaimSimctlCommandCount (candidateCount : Nat) : Nat :=
  if candidateCount = 0 then 0
  else slotReclaimSharedListCommands + candidateCount * slotReclaimCommandsPerAlias

def slotReclaimBudgetMs (request : CommandRequest) (candidateCount : Nat) : Nat :=
  candidateCount * resetBudgetMs request
    + slotReclaimSimctlCommandCount candidateCount * simctlCommandTimeoutMs

/-- The purposes of the file at `projectFilePath`. -/
def projectPurposes (files : ServiceFiles) : List String :=
  match files.projectFilePath.bind fun path => (files.projectFile path).read with
  | some project => project.purposes
  | none => []

/-- How many of the purposes the request selects. -/
def selectedCapacityPurposeCountFromPaths (files : ServiceFiles) (request : CommandRequest) : Nat :=
  let purposes := projectPurposes files
  if purposes = [] then 1
  else match request.options.purposeId with
    | some purposeId =>
        if isBlank purposeId then purposes.length
        else if purposeId ∈ purposes then 1 else purposes.length
    | none => purposes.length

def terminalTransactionStatuses : List String :=
  ["finalized", "rejected", "rolled_back"]

structure RecoveryWorkload where
  additions : Nat
  transactions : Nat
  deriving DecidableEq, Repr

def nonTerminalCapacityRecoveryWorkload (files : ServiceFiles) :
    Except ListingError RecoveryWorkload := do
  let entries ← files.capacityTransactions.list
  let unfinished := (entries.filterMap StoredFile.read).filter
    fun transaction => decide (transaction.status ∉ terminalTransactionStatuses)
  return {
    additions := (unfinished.map fun transaction =>
      (transaction.additions.or transaction.actions).getD 0).sum
    transactions := unfinished.length }

/-! ## Budgets -/

def serviceCommandWritesFinalSnapshot (request : CommandRequest) : Bool :=
  if request.group = .help ∨ request.group = .events then false
  else if request.group = .capacity ∧ request.options.apply ≠ some true then false
  else true

def brokerStateLoadCount (request : CommandRequest) : Nat :=
  if request.group = .help ∨ request.group = .events then 0
  else if request.group = .capacity then 0
  else 1 + (if serviceCommandWritesFinalSnapshot request then 1 else 0)

def commandMayRunStaleContainment (request : CommandRequest) : Bool :=
  if request.group = .help ∨ request.group = .events then false
  else if request.group = .capacity then
    decide (request.command = .reconcile) && decide (request.options.apply = some true)
  else true

def stateLoadBudgetMs (stateLoadCount : Nat) : Nat :=
  stateLoadCount * (simctlInventoryCommandsPerStateLoad * simctlCommandTimeoutMs
    + processSamplerInvocationsPerStateLoad * processSamplerTimeoutMs)

/-- What one stale lease may take in one state load. -/
def staleLeaseBudgetMs (request : CommandRequest) : Nat :=
  staleContainmentProcessSamplerInvocations * processSamplerTimeoutMs
    + staleContainmentTermWaitMs request + defaultContainmentPostKillWaitMs

def staleContainmentBudgetMs (files : ServiceFiles) (request : CommandRequest)
    (stateLoadCount : Nat) : Except ListingError Nat :=
  if commandMayRunStaleContainment request = false then return 0
  else if stateLoadCount = 0 then return 0
  else match request.options.staleContainmentLeaseCount with
    | some count =>
        return stateLoadCount * nonNegativeInteger (some count) 0 * staleLeaseBudgetMs request
    | none => do
        let staleContainmentLeaseCount ← staleContainmentLeaseCountFromPaths files
        return stateLoadCount * staleContainmentLeaseCount * staleLeaseBudgetMs request

def brokerStateLoadBudgetMs (files : ServiceFiles) (request : CommandRequest)
    (stateLoadCount : Nat) : Except ListingError Nat := do
  let staleContainment ← staleContainmentBudgetMs files request stateLoadCount
  return stateLoadBudgetMs stateLoadCount + staleContainment

def finalSnapshotLeaseLockTimeoutMs (request : CommandRequest) : Nat :=
  if serviceCommandWritesFinalSnapshot request then leaseLockTimeoutMs request else 0

def serviceCommandUsesSerializedStateReadLock (request : CommandRequest) : Bool :=
  match request.group with
  | .doctor => true
  | .host => request.command = .status
  | .lease => request.command = .explain
  | _ => false

def serviceCommandUsesLeaseMutationLock (request : CommandRequest) : Bool :=
  match request.group with
  | .lease => decide (request.command ∈ [.acquire, .contain, .registerProcess, .release])
  | .pin => decide (request.command ∈ [.clear, .create])
  | .simulators => decide (request.command ∈ [.boot, .delete, .erase, .repair, .shutdown])
  | .idle => true
  | _ => false

def leaseAcquireResetSimctlBudgetMs (files : ServiceFiles) (request : CommandRequest) : Nat :=
  if request.group ≠ .lease ∨ request.command ≠ .acquire then 0
  else
    (if 0 < enabledSlotReclaimCandidateCount files then leaseAcquireReclaimSimctlCommands
      else leaseAcquireResetSimctlCommands) * simctlCommandTimeoutMs

def leaseReleaseSlotReclaimBudgetMs (files : ServiceFiles) (request : CommandRequest) : Nat :=
  if request.group ≠ .lease ∨ request.command ≠ .release then 0
  else slotReclaimBudgetMs request (min 1 (enabledSlotReclaimCandidateCount files))

def idleShutdownSimctlBudgetMs (files : ServiceFiles) (request : CommandRequest) : Nat :=
  if request.group ≠ .idle ∨ request.command ∉ [.cleanup, .reconcile]
      ∨ (request.command = .cleanup ∧ request.options.apply ≠ some true) then 0
  else hostAliasCountFromPaths files * simctlCommandTimeoutMs

def idleReconcileSlotReclaimBudgetMs (files : ServiceFiles) (request : CommandRequest) : Nat :=
  if request.group ≠ .idle ∨ request.command ≠ .reconcile then 0
  else slotReclaimBudgetMs request (enabledSlotReclaimCandidateCount files)

def simulatorLifecycleSimctlBudgetMs (files : ServiceFiles) (request : CommandRequest) : Nat :=
  if request.group ≠ .simulators then 0
  else if request.command = .delete then hostAliasCountFromPaths files * 2 * simctlCommandTimeoutMs
  else
    let retirements :=
      if request.command = .repair then pendingRetirementCountFromPaths files * 2 else 0
    (simulatorLifecycleSimctlCommands request.command + retirements) * simctlCommandTimeoutMs

def hostInitWillProvisionBootstrap (files : ServiceFiles) (request : CommandRequest) : Bool :=
  if request.group ≠ .host ∨ request.command ≠ .init
      ∨ request.options.bootstrapConfig ≠ some true then false
  else if request.options.force = some true then true
  else match files.hostConfig with
    | .missing => true
    | _ => false

def hostInitBootstrapBudgetMs (files : ServiceFiles) (request : CommandRequest) :
    Except ListingError Nat :=
  if hostInitWillProvisionBootstrap files request = false then return 0
  else do
    let retirementCount := hostBootstrapRetirementCountFromPaths files
    let stateLoadCount := hostBootstrapBaselineStateLoads + hostBootstrapReplacementStateLoads
      + (if 0 < retirementCount then hostBootstrapRetirementStateLoads else 0)
    let commandCount := hostBootstrapAliasCount * hostBootstrapSimctlCommandsPerAlias
      + retirementCount * 2
    let stateLoads ← brokerStateLoadBudgetMs files request stateLoadCount
    return capacityLockTimeoutMs request + stateLoads + commandCount * simctlCommandTimeoutMs

def capacityActionCount (files : ServiceFiles) (request : CommandRequest) : Nat :=
  match files.projectFilePath with
  | some _ => selectedCapacityPurposeCountFromPaths files request
  | none =>
      positiveDurationMs request.options.capacityActionCount
        (selectedCapacityPurposeCountFromPaths files request)

def capacityReconcileSimctlBudgetMs (files : ServiceFiles) (request : CommandRequest) :
    Except ListingError Nat :=
  if request.group ≠ .capacity ∨ request.command ≠ .reconcile then return 0
  else if request.options.apply ≠ some true then brokerStateLoadBudgetMs files request 1
  else do
    let recovery ← nonTerminalCapacityRecoveryWorkload files
    let actionCount := capacityActionCount files request
    let stateLoadCount := capacityApplyPlanEvaluations + capacityApplyFinalizationStateLoads
      + capacityApplyFinalSnapshotStateLoads + recovery.transactions
    let commandCount := actionCount * capacitySimctlCommandsPerAction
      + capacityRollbackInventoryCommands
      + actionCount * capacityRollbackSimctlCommandsPerAction
      + recovery.additions * capacitySimctlCommandsPerAction
    let stateLoads ← brokerStateLoadBudgetMs files request stateLoadCount
    return stateLoads + commandCount * simctlCommandTimeoutMs

def capacityCheckSimctlBudgetMs (files : ServiceFiles) (request : CommandRequest) :
    Except ListingError Nat :=
  if request.group = .capacity ∧ request.command = .check then
    brokerStateLoadBudgetMs files request 1
  else return 0

def serviceCommandExecutionTimeoutMs (files : ServiceFiles) (request : CommandRequest) :
    Except ListingError Nat := do
  let stateLoadBudget ← brokerStateLoadBudgetMs files request (brokerStateLoadCount request)
  let snapshotLock := finalSnapshotLeaseLockTimeoutMs request
  let serializedReadLock :=
    if serviceCommandUsesSerializedStateReadLock request then leaseLockTimeoutMs request else 0
  match request.group, request.command with
  | .host, .init => do
      let bootstrap ← hostInitBootstrapBudgetMs files request
      return defaultCommandTimeoutMs + leaseLockTimeoutMs request + snapshotLock
        + stateLoadBudget + bootstrap
  | .lease, .acquire =>
      return defaultCommandTimeoutMs + leaseLockTimeoutMs request + resetBudgetMs request
        + leaseAcquireResetSimctlBudgetMs files request + snapshotLock + stateLoadBudget
  | .lease, .contain =>
      return defaultCommandTimeoutMs + leaseLockTimeoutMs request + containmentTermWaitMs request
        + (if request.options.captureDiagnostics = some true then containmentDiagnosticTimeoutMs
          else 0)
        + snapshotLock + stateLoadBudget
  | .capacity, .reconcile => do
      let simctl ← capacityReconcileSimctlBudgetMs files request
      if request.options.apply = some true then
        return max capacityApplyTimeoutMs (defaultCommandTimeoutMs + capacityLockTimeoutMs request
          + leaseLockTimeoutMs request + snapshotLock + simctl)
      else return defaultCommandTimeoutMs + simctl
  | .capacity, .check => do
      let simctl ← capacityCheckSimctlBudgetMs files request
      return defaultCommandTimeoutMs + simctl
  | .simulators, .repair | .simulators, .delete =>
      return defaultCommandTimeoutMs + capacityLockTimeoutMs request + leaseLockTimeoutMs request
        + snapshotLock + stateLoadBudget + simulatorLifecycleSimctlBudgetMs files request
  | .simulators, _ =>
      return defaultCommandTimeoutMs + leaseLockTimeoutMs request + snapshotLock
        + stateLoadBudget + simulatorLifecycleSimctlBudgetMs files request
  | .idle, _ =>
      return defaultCommandTimeoutMs + leaseLockTimeoutMs request + snapshotLock
        + stateLoadBudget + idleShutdownSimctlBudgetMs files request
        + idleReconcileSlotReclaimBudgetMs files request
  | .lease, .release =>
      return defaultCommandTimeoutMs + leaseLockTimeoutMs request + snapshotLock
        + stateLoadBudget + leaseReleaseSlotReclaimBudgetMs files request
  | _, _ =>
      if serviceCommandUsesLeaseMutationLock request then
        return defaultCommandTimeoutMs + leaseLockTimeoutMs request + snapshotLock
          + stateLoadBudget
      else
        return defaultCommandTimeoutMs + serializedReadLock + snapshotLock + stateLoadBudget

/-! ## Freshness -/

inductive ServiceError where
  | invalidCommandRequest
  | serviceCommandExpired
  | serviceUnavailable
  | listing (error : ListingError)
  deriving DecidableEq, Repr

/-- A timing field of a request body: absent, an integer, or anything else. -/
inductive BodyField where
  | missing
  | integer (value : Int)
  | other
  deriving DecidableEq, Repr

structure CommandBody where
  request : CommandRequest
  clientRequestStartedAtMilliseconds : BodyField := .missing
  clientCommandQueueTimeoutMilliseconds : BodyField := .missing
  clientCommandExecutionTimeoutMilliseconds : BodyField := .missing
  deriving DecidableEq, Repr

def optionalBodyInteger (field : BodyField) (positive : Bool) : Except ServiceError (Option Int) :=
  match field with
  | .missing => .ok none
  | .integer value =>
      if (if positive then 0 < value else 0 ≤ value) then .ok (some value)
      else .error .invalidCommandRequest
  | .other => .error .invalidCommandRequest

/-- A request that names a project file is budgeted against that file. -/
def dispatchBudgetPaths (files : ServiceFiles) (request : CommandRequest) : ServiceFiles :=
  match request.options.projectFilePath with
  | some path => if isBlank path then files else { files with projectFilePath := some path }
  | none => files

def commandExecutionTimeoutMsForDispatch (files : ServiceFiles) (request : CommandRequest) :
    Except ServiceError Nat :=
  (serviceCommandExecutionTimeoutMs (dispatchBudgetPaths files request) request).mapError .listing

def assertCommandFreshForDispatch (files : ServiceFiles) (body : CommandBody)
    (nowMilliseconds : Int) : Except ServiceError Unit := do
  let startedAt ← optionalBodyInteger body.clientRequestStartedAtMilliseconds false
  let queueTimeoutMs ← optionalBodyInteger body.clientCommandQueueTimeoutMilliseconds true
  let executionTimeoutMs ← optionalBodyInteger body.clientCommandExecutionTimeoutMilliseconds true
  match startedAt, queueTimeoutMs with
  | some startedAt, some queueTimeoutMs =>
      if queueTimeoutMs < nowMilliseconds - startedAt then throw .serviceCommandExpired
      else match executionTimeoutMs with
        | none => return ()
        | some executionTimeoutMs => do
            let recomputed ← commandExecutionTimeoutMsForDispatch files body.request
            if (recomputed : Int) ≤ executionTimeoutMs then return ()
            else throw .serviceCommandExpired
  | _, _ => return ()

end SimulatorBroker.Service
