import SimulatorBroker.Broker.Provision
import SimulatorBroker.Broker.Queries

/-!
# Host init and setup

The two commands that write a host config of their own: `host init`, which
provisions the starter aliases and may replace an existing config, and `setup`,
which applies a confirmed plan where there is no config yet.
-/

namespace SimulatorBroker.Broker

open SimulatorBroker.Effects
open SimulatorBroker.State

/-! ## The starter aliases -/

def starterTemplate (hostId iosVersion : String) (name : AliasName) (capabilities : List String)
    (deviceFamily : DeviceFamily) (displayName : String) (resetPolicy : ResetPolicy) :
    AliasTemplate where
  aliasName := name
  capabilities
  deviceFamily
  displayName
  iosVersion
  resetPolicy
  simulatorName := simulatorDisplayName hostId name

/-- `buildStarterAliasTemplates`, from a normalized host id and version. -/
def buildStarterAliasTemplates (hostId iosVersion : String) : List AliasTemplate :=
  let template := starterTemplate hostId iosVersion
  [template "manual-1" ["manual-persistent"] .iPhone "Manual iPhone" .none,
    template "ui-1" ["interactive-resettable", "automation-resettable"] .iPhone "UI iPhone"
      .eraseOnAcquire,
    template "ui-2" ["interactive-resettable", "automation-resettable"] .iPhone "UI iPhone 2"
      .eraseOnAcquire,
    template "build-1" ["build-fast"] .iPhone "Build iPhone" .none,
    template "build-2" ["build-fast"] .iPhone "Build iPhone 2" .none,
    template "ipad-1" ["interactive-resettable"] .iPad "UI iPad" .eraseOnAcquire]

/-! ## Host init -/

structure InitOptions where
  bootstrapConfig : Bool := false
  force : Bool := false
  hostId : String
  iosVersion : String

/-- How far the provisioning of the templates came. -/
structure ProvisionProgress where
  aliases : List HostAlias := []
  createdSimulatorIds : List SimulatorId := []
  error : Option BrokerError := none

def provisionedAlias (template : AliasTemplate) (provisioned : ProvisionedSimulator) :
    HostAlias where
  aliasName := template.aliasName
  capabilities := template.capabilities
  deviceFamily := template.deviceFamily
  displayName := template.displayName
  iosVersion := provisioned.iosVersion
  resetPolicy := template.resetPolicy
  simulatorId := provisioned.simulatorId

def provisionTemplates (locale : Collation) :
    List AliasTemplate → ProvisionProgress → Broker ProvisionProgress
  | [], progress => pure progress
  | template :: rest, progress => do
      match ← (ensureAliasSimulator locale template none false).attempt with
      | .error error => return { progress with error := some error }
      | .ok provisioned =>
          provisionTemplates locale rest {
            aliases := progress.aliases ++ [provisionedAlias template provisioned]
            createdSimulatorIds :=
              if provisioned.created then
                progress.createdSimulatorIds ++ [provisioned.simulatorId]
              else progress.createdSimulatorIds }

structure ProvisionedHost where
  createdSimulatorIds : List SimulatorId
  hostConfig : HostConfig

def buildProvisionedStarterHostConfig (locale : Collation) (hostId iosVersion : String) :
    Broker ProvisionedHost := do
  let templates := buildStarterAliasTemplates hostId iosVersion
  let baseline ← readSimctlInventory
  let progress ← provisionTemplates locale templates {}
  match progress.error with
  | some error =>
      let failures ← rollbackCreatedSimulators progress.createdSimulatorIds
        (some (baseline.deviceIds, templates.map (·.simulatorName)))
      throw (attachRollbackFailures error failures)
  | none =>
      return {
        createdSimulatorIds := progress.createdSimulatorIds
        hostConfig := { aliases := progress.aliases, hostId } }

def assertHostConfigCanBeReplaced (paths : BrokerPaths) (timestamp : Timestamp) : Broker Unit := do
  let state ← loadBrokerState paths { timestamp }
  if state.leases = [] ∧ state.pins = [] then pure () else throw (.broker .aliasBusy)

/-- The config before a replacement; there is none where nothing is replaced. -/
def previousHostConfig (paths : BrokerPaths) (configExists : Bool) (timestamp : Timestamp) :
    Broker (Option HostConfig) :=
  if configExists then do
    let previous ← readHostConfigOrThrow
    assertHostConfigCanBeReplaced paths timestamp
    return some previous
  else pure none

/-- The slot-reclaim policy outlives a replacement. -/
def keepSlotReclaim (previous : Option HostConfig) (next : HostConfig) : HostConfig :=
  match previous.bind (·.slotReclaim) with
  | none => next
  | some policy => { next with slotReclaim := some policy }

/-- What the previous config bound is retired once the new one is written. -/
def retireReplacedSimulators (pendingRetirementIds : List SimulatorId) (next : HostConfig) :
    Broker Unit := do
  let failedRetirements ← retirePendingHostSimulators pendingRetirementIds next
  writeHostConfig (hostConfigWithPendingRetirements next (failedRetirements.map (·.1)))
  match failedRetirements with
  | [] => pure ()
  | (_, error) :: _ => throw error

def bootstrapHostConfig (locale : Collation) (options : InitOptions) (previous : Option HostConfig) :
    Broker Unit := do
  let provisioned ← buildProvisionedStarterHostConfig locale options.hostId options.iosVersion
  let pendingRetirementIds :=
    (previous.map fun previous =>
      pendingRetirementIdsForHostReplacement previous provisioned.hostConfig).getD []
  let next := keepSlotReclaim previous provisioned.hostConfig
  tryCatch (writeHostConfig (hostConfigWithPendingRetirements next pendingRetirementIds))
    fun error => do
      let failures ← rollbackCreatedSimulators provisioned.createdSimulatorIds none
      throw (attachRollbackFailures error failures)
  if previous.isSome then retireReplacedSimulators pendingRetirementIds next

/-- `initBroker` under its locks. -/
def initHost (paths : BrokerPaths) (options : InitOptions) (timestamp : Timestamp) :
    Broker Unit := do
  if options.bootstrapConfig then
    let configExists ← perform .hostConfigExists
    if configExists = false ∨ options.force = true then
      let previous ← previousHostConfig paths configExists timestamp
      bootstrapHostConfig paths.locale options previous
  let _ ← loadBrokerState paths { timestamp }
  let _ ← appendEventRecord { type := .hostInitialized, timestamp }

/-- A bootstrap also takes the capacity lock. -/
def initBroker (paths : BrokerPaths) (options : InitOptions) (timestamp : Timestamp) :
    Broker Unit :=
  if options.bootstrapConfig then
    withLock .capacity (withLock .lease (initHost paths options timestamp))
  else withLock .lease (initHost paths options timestamp)

/-! ## The setup plan -/

/-- The runtime of a setup and its device type for each family. -/
structure SetupChoice where
  runtime : Runtime
  deviceType : DeviceFamily → DeviceType

/-- What the planning of a setup comes to: the state root blocks it, no runtime
serves it, or it is possible. -/
inductive SetupVerdict where
  | blocked
  | unserved
  | possible (choice : SetupChoice)

/-- The planning of a setup where no host config is found. -/
abbrev SetupPlanner := SimctlInventory → SetupVerdict

structure SetupOptions where
  hostId : String
  /-- `confirmPlanId` is given. -/
  confirmed : Bool
  /-- `confirmPlanId` is the id of the plan. -/
  confirmsPlan : SimctlInventory → Bool
  /-- The state of an existing host blocks the setup. -/
  hostBlocked : SimctlInventory → Option HostConfig → Bool
  setupAttemptId : String
  /-- Whether the user has cancelled before the device of that index. -/
  cancelled : Nat → Bool

structure SetupDevice where
  template : AliasTemplate
  deviceTypeIdentifier : String
  runtimeIdentifier : String
  runtimeVersion : String
  /-- The simulator to reuse; one is created if there is none. -/
  simulatorId : Option SimulatorId

/-- The reusable device with the first identifier. -/
def reusableSetupDevice (inventory : SimctlInventory) (template : AliasTemplate)
    (runtime : Runtime) (deviceType : DeviceType) : Option SimulatorId :=
  ((inventory.deviceIds.filter fun simulatorId =>
    (inventory.device? simulatorId).any
      (isReusableDevice template runtime deviceType)).insertionSort (· ≤ ·)).head?

/-- `setupDevicePlan`. -/
def setupDevicePlan (inventory : SimctlInventory) (hostId : String) (choice : SetupChoice) :
    List SetupDevice :=
  (buildStarterAliasTemplates hostId (choice.runtime.version.getD "")).map fun template =>
    let deviceType := choice.deviceType template.deviceFamily
    { template
      deviceTypeIdentifier := deviceType.identifier
      runtimeIdentifier := choice.runtime.identifier
      runtimeVersion := choice.runtime.version.getD ""
      simulatorId := reusableSetupDevice inventory template choice.runtime deviceType }

/-! ## Applying a setup -/

def temporaryName (setupAttemptId : String) (device : SetupDevice) : String :=
  device.template.simulatorName ++ " [setup " ++ setupAttemptId ++ " " ++
    device.template.aliasName ++ "]"

/-- How far the creation of the devices came. -/
structure SetupProgress where
  simulatorIds : List (AliasName × SimulatorId) := []
  createdSimulatorIds : List SimulatorId := []
  attributableNames : List String := []
  error : Option BrokerError := none

/-- The devices of the attempt that a failed creation may have left. -/
def leftByFailedCreation (inventory : SimctlInventory) (baselineDeviceIds : List SimulatorId)
    (name : String) (device : SetupDevice) : List SimulatorId :=
  inventory.deviceIds.filter fun simulatorId =>
    decide (simulatorId ∉ baselineDeviceIds) &&
      (inventory.device? simulatorId).any fun indexed =>
        decide (indexed.name = name)
          && decide (indexed.runtimeIdentifier = device.runtimeIdentifier)
          && decide (indexed.deviceTypeIdentifier = device.deviceTypeIdentifier)

/-- Created under a temporary name, then renamed. -/
def createSetupDevice (baselineDeviceIds : List SimulatorId) (name : String)
    (device : SetupDevice) (progress : SetupProgress) : Broker SetupProgress := do
  let attributed :=
    { progress with attributableNames := progress.attributableNames ++ [name] }
  let create := perform (.createDevice name device.deviceTypeIdentifier device.runtimeIdentifier)
  match ← create.attempt with
  | .error error =>
      match ← readSimctlInventory.attempt with
      | .error listing => return { attributed with error := some listing }
      | .ok inventory =>
          return {
            attributed with
            createdSimulatorIds := progress.createdSimulatorIds ++
              leftByFailedCreation inventory baselineDeviceIds name device
            error := some error }
  | .ok simulatorId =>
      let created :=
        { attributed with createdSimulatorIds := progress.createdSimulatorIds ++ [simulatorId] }
      match ← (perform (.renameDevice simulatorId device.template.simulatorName)).attempt with
      | .error error => return { created with error := some error }
      | .ok () =>
          return {
            created with
            simulatorIds := progress.simulatorIds ++ [(device.template.aliasName, simulatorId)] }

def setupInterruptedError : BrokerError :=
  .broker .setupInterrupted

/-- The loop over the planned devices; it ends at the first error. -/
def createSetupDevices (options : SetupOptions) (baselineDeviceIds : List SimulatorId) :
    List SetupDevice → SetupProgress → Broker SetupProgress
  | [], progress =>
      if options.cancelled progress.simulatorIds.length then
        pure { progress with error := some setupInterruptedError }
      else pure progress
  | device :: rest, progress => do
      if options.cancelled progress.simulatorIds.length then
        return { progress with error := some setupInterruptedError }
      else
        match device.simulatorId with
        | some simulatorId =>
            createSetupDevices options baselineDeviceIds rest {
              progress with
              simulatorIds :=
                progress.simulatorIds ++ [(device.template.aliasName, simulatorId)] }
        | none =>
            let created ← createSetupDevice baselineDeviceIds
              (temporaryName options.setupAttemptId device) device progress
            match created.error with
            | some _ => return created
            | none => createSetupDevices options baselineDeviceIds rest created

/-- `setupHostConfigFromPlan`. -/
def setupHostConfigFromPlan (hostId : String) (devices : List SetupDevice)
    (simulatorIds : List (AliasName × SimulatorId)) : HostConfig where
  hostId
  aliases := devices.filterMap fun device =>
    (simulatorIds.find? fun pair => pair.1 = device.template.aliasName).map fun pair =>
      { aliasName := device.template.aliasName, capabilities := device.template.capabilities
        deviceFamily := device.template.deviceFamily, displayName := device.template.displayName
        iosVersion := device.runtimeVersion, resetPolicy := device.template.resetPolicy
        simulatorId := pair.2 }

/-- The host config of a setup, the load and the event after it. -/
def commitSetup (paths : BrokerPaths) (hostConfig : HostConfig) (timestamp : Timestamp) :
    Broker Unit := do
  writeJsonAtomicDurable hostConfig
  perform (.fs .chmodTarget)
  let _ ← loadBrokerState paths { timestamp }
  let _ ← appendEventRecord { type := .hostInitialized, timestamp }

/-- The devices of a failed setup go, unless a host config is there by now. -/
def failSetup {α : Type} (baselineDeviceIds : List SimulatorId) (progress : SetupProgress)
    (error : BrokerError) : Broker α := do
  let hostConfigExists ← perform .hostConfigExists
  if error.hostConfigCommitted = true ∨ hostConfigExists = true then throw error
  else
    let failures ← rollbackCreatedSimulators progress.createdSimulatorIds
      (some (baselineDeviceIds, progress.attributableNames))
    throw (attachRollbackFailures error failures)

def provisionSetup (paths : BrokerPaths) (options : SetupOptions) (devices : List SetupDevice)
    (timestamp : Timestamp) : Broker Unit := do
  let baseline ← readSimctlInventory
  let progress ← createSetupDevices options baseline.deviceIds devices {}
  match progress.error with
  | some error => failSetup baseline.deviceIds progress error
  | none =>
      tryCatch
        (commitSetup paths
          (setupHostConfigFromPlan options.hostId devices progress.simulatorIds) timestamp)
        (failSetup baseline.deviceIds progress)

/-- The refusals of `applySetupBroker`, in the order of the source. -/
def admitSetup (options : SetupOptions) (inventory : SimctlInventory) (blocked : Bool) :
    Broker Unit :=
  if options.confirmed = false then throw (.broker .setupConfirmationRequired)
  else if options.confirmsPlan inventory = false then throw (.broker .setupPlanStale)
  else if blocked = true then throw (.broker .setupPrerequisiteFailed)
  else pure ()

/-- An existing host config that the broker refuses to read blocks the setup. -/
def existingSetupHost : Broker (Option HostConfig) :=
  tryCatch (some <$> readHostConfigOrThrow) fun error =>
    if error.isBrokerError then pure none else throw error

/-- `applySetupBroker` under its locks. -/
def applySetup (paths : BrokerPaths) (planner : SetupPlanner) (options : SetupOptions) :
    Broker Unit := do
  let timestamp ← perform .now
  let inventory ← readSimctlInventory
  if ← perform .hostConfigExists then
    let existing ← existingSetupHost
    admitSetup options inventory (existing.isNone || options.hostBlocked inventory existing)
    ensureStatePaths
    let _ ← loadBrokerState paths { timestamp }
  else
    match planner inventory with
    | .blocked => admitSetup options inventory true
    | .unserved => throw (.broker .runtimeNotFound)
    | .possible choice =>
        admitSetup options inventory false
        ensureStatePaths
        provisionSetup paths options (setupDevicePlan inventory options.hostId choice) timestamp

def applySetupBroker (paths : BrokerPaths) (planner : SetupPlanner) (options : SetupOptions) :
    Broker Unit :=
  withLock .capacity (withLock .lease (applySetup paths planner options))

end SimulatorBroker.Broker
