import SimulatorBroker.Broker.Acquire

/-!
# Provisioning simulators

Choosing a runtime and a device type, reusing or creating the simulator of an
alias, and the deletions that follow: rollback of what was created, retirement
of what was replaced.
-/

namespace SimulatorBroker.Broker

open SimulatorBroker.Effects
open SimulatorBroker.State

/-! ## Versions -/

/-- `parseVersionParts`: the maximal digit runs of the text. -/
def parseVersionParts (version : String) : List Nat :=
  ((version.toList.splitOnP fun char => !char.isDigit).filter fun run => run ≠ []).map digitsNumber

/-- A missing part counts as zero. -/
def compareVersionParts : List Nat → List Nat → Ordering
  | [], [] => .eq
  | left :: lefts, [] => (compare left 0).then (compareVersionParts lefts [])
  | [], right :: rights => (compare 0 right).then (compareVersionParts [] rights)
  | left :: lefts, right :: rights =>
      (compare left right).then (compareVersionParts lefts rights)

def compareVersions (left right : String) : Ordering :=
  compareVersionParts (parseVersionParts left) (parseVersionParts right)

/-! ## Runtimes and device types -/

def isAvailableIosRuntime (runtime : Runtime) : Bool :=
  runtime.isAvailable && includesText runtime.identifier ".iOS-"

/-- A patch request is an exact pin; a shorter request matches as a prefix. -/
def runtimeMatchesRequestedVersion (runtime : Runtime) (requestedVersion : String) : Bool :=
  match runtime.version.bind iosVersionComponents with
  | none => false
  | some runtimeParts =>
      if requestedVersion = "" then true
      else
        match iosVersionComponents requestedVersion with
        | none => false
        | some requestedParts =>
            if requestedParts.length = 3 then decide (runtimeParts = requestedParts)
            else requestedParts.isPrefixOf runtimeParts

/-- Runtimes in the order of falling versions. -/
def sortRuntimes (runtimes : List Runtime) : List Runtime :=
  runtimes.insertionSort fun left right =>
    compareVersions (right.version.getD "") (left.version.getD "") ≠ .gt

def runtimeNotFound (iosVersion : String) : BrokerError :=
  .broker .runtimeNotFound ("No available iOS runtime matched " ++ iosVersion ++
    ". Pass --ios-version to match an installed runtime from `xcrun simctl list runtimes`.")

def selectRuntimeForAlias (iosVersion : String) : Broker Runtime := do
  let runtimes ← perform .listRuntimes
  match sortRuntimes (runtimes.filter fun runtime =>
      isAvailableIosRuntime runtime && runtimeMatchesRequestedVersion runtime iosVersion) with
  | [] => throw (runtimeNotFound iosVersion)
  | runtime :: _ => return runtime

def DeviceFamily.text : DeviceFamily → String
  | .iPhone => "iPhone"
  | .iPad => "iPad"

def setupDeviceTypeRecordIsComplete (deviceType : DeviceType) : Bool :=
  decide (deviceType.identifier ≠ "") && decide (deviceType.name ≠ "")

def isCompleteSetupDeviceType (deviceFamily : DeviceFamily) (deviceType : DeviceType) : Bool :=
  decide (deviceType.productFamily = some deviceFamily)
    && setupDeviceTypeRecordIsComplete deviceType

/-- `/^iPhone \d+$/` or `/^iPad \(/`. -/
def isPreferredDeviceName (deviceFamily : DeviceFamily) (name : String) : Bool :=
  match deviceFamily with
  | .iPhone =>
      "iPhone ".toList.isPrefixOf name.toList && isDigits (name.toList.drop "iPhone ".length)
  | .iPad => "iPad (".toList.isPrefixOf name.toList

def compareSetupDeviceTypes (locale : Collation) (left right : DeviceType) : Ordering :=
  (locale.localeCompare left.identifier right.identifier).then
    (locale.localeCompare left.name right.name)

def deviceTypeNotFound (deviceFamily : DeviceFamily) (runtime : Runtime) : BrokerError :=
  .broker .deviceTypeNotFound ("No available " ++ DeviceFamily.text deviceFamily ++
    " simulator type matched runtime " ++ runtime.version.getD "" ++ ".")

/-- The preferred device types of a runtime first, then all of them. -/
def preferredDeviceTypes (locale : Collation) (runtime : Runtime) (deviceFamily : DeviceFamily) :
    List DeviceType :=
  let supported := runtime.supportedDeviceTypes.filter (isCompleteSetupDeviceType deviceFamily)
  let preferred := supported.filter fun deviceType =>
    isPreferredDeviceName deviceFamily deviceType.name
  preferred.insertionSort (fun left right =>
      (compareVersions right.name left.name).then (compareSetupDeviceTypes locale left right) ≠ .gt)
    ++ supported.insertionSort (fun left right => compareSetupDeviceTypes locale left right ≠ .gt)

def selectPreferredDeviceType (locale : Collation) (runtime : Runtime) (deviceFamily : DeviceFamily) :
    Broker DeviceType :=
  match preferredDeviceTypes locale runtime deviceFamily with
  | [] => throw (deviceTypeNotFound deviceFamily runtime)
  | deviceType :: _ => pure deviceType

/-! ## The device index -/

namespace SimctlInventory

/-- The keys of `createDeviceIndex(inventory)`. -/
def deviceIds (inventory : SimctlInventory) : List SimulatorId :=
  (inventory.devices.map (·.udid)).eraseDups

/-- The first device of the index that satisfies a condition, with its id. -/
def findDevice (inventory : SimctlInventory) (select : IndexedDevice → Bool) :
    Option SimulatorId :=
  inventory.deviceIds.find? fun simulatorId => (inventory.device? simulatorId).any select

end SimctlInventory

/-! ## The simulator of an alias -/

def simulatorDisplayName (hostId : String) (name : AliasName) : String :=
  "Simulator Broker " ++ hostId ++ " " ++ name

structure AliasTemplate where
  aliasName : AliasName
  capabilities : List String
  deviceFamily : DeviceFamily
  displayName : String
  iosVersion : String
  resetPolicy : ResetPolicy
  simulatorName : String

structure ProvisionedSimulator where
  created : Bool
  iosVersion : String
  replacedSimulatorId : Option SimulatorId := none
  simulatorId : SimulatorId

def deleteAliasSimulator (simulatorId : SimulatorId) (site : DeviceSite) : Broker Unit := do
  perform (.shutdownDevice simulatorId site)
  perform (.deleteDevice simulatorId site)

/-- The device is already the one the alias should have. -/
def isCurrentDevice (device : IndexedDevice) (runtime : Runtime) (deviceType : DeviceType) : Bool :=
  device.isAvailable && decide (device.runtimeIdentifier = runtime.identifier)
    && decide (device.deviceTypeIdentifier = deviceType.identifier)

def isReusableDevice (template : AliasTemplate) (runtime : Runtime) (deviceType : DeviceType)
    (device : IndexedDevice) : Bool :=
  device.isAvailable && decide (device.name = template.simulatorName)
    && decide (device.runtimeIdentifier = runtime.identifier)
    && decide (device.deviceTypeIdentifier = deviceType.identifier)

/-- The alias's simulator, reused or created; the current device is deleted at
once unless its deletion is deferred. -/
def ensureAliasSimulator (locale : Collation) (template : AliasTemplate)
    (currentSimulatorId : Option SimulatorId) (deferCurrentDeviceDeletion : Bool) : Broker ProvisionedSimulator := do
  let runtime ← selectRuntimeForAlias template.iosVersion
  let deviceType ← selectPreferredDeviceType locale runtime template.deviceFamily
  let inventory ← readSimctlInventory
  let iosVersion := runtime.version.getD ""
  let current := currentSimulatorId.bind fun simulatorId =>
    (inventory.device? simulatorId).map fun device => (simulatorId, device)
  match current.filter fun (_, device) => isCurrentDevice device runtime deviceType with
  | some (simulatorId, device) =>
      if device.name ≠ template.simulatorName then
        perform (.renameDevice simulatorId template.simulatorName)
      return { created := false, iosVersion, simulatorId }
  | none =>
      match inventory.findDevice (isReusableDevice template runtime deviceType) with
      | some reusable =>
          return {
            created := false, iosVersion, simulatorId := reusable
            replacedSimulatorId :=
              (current.map (·.1)).filter fun simulatorId => decide (simulatorId ≠ reusable) }
      | none =>
          match current, deferCurrentDeviceDeletion with
          | some (simulatorId, _), false => deleteAliasSimulator simulatorId .replacement
          | _, _ => pure ()
          let simulatorId ← perform
            (.createDevice template.simulatorName deviceType.identifier runtime.identifier)
          return {
            created := true, iosVersion, replacedSimulatorId := current.map (·.1), simulatorId }

/-! ## Rollback and retirement -/

def rollbackCreatedAliasSimulator (simulatorId : SimulatorId) : Broker Unit :=
  ignoringErrors (deleteAliasSimulator simulatorId .rollback)

/-- The failures so far and one more deletion. -/
def rollbackDelete (failures : List RollbackFailure) (simulatorId : SimulatorId) :
    Broker (List RollbackFailure) :=
  tryCatch
    (do
      perform (.deleteDevice simulatorId .rollback)
      return failures)
    fun _ => pure (failures ++ [.delete simulatorId])

/-- Devices with a planned name that were not there before the attempt. -/
def attributedDevices (inventory : SimctlInventory) (baselineDeviceIds : List SimulatorId)
    (plannedSimulatorNames : List String) : List SimulatorId :=
  inventory.deviceIds.filter fun simulatorId =>
    decide (simulatorId ∉ baselineDeviceIds) &&
      (inventory.device? simulatorId).any fun device =>
        decide (device.name ∈ plannedSimulatorNames)

def rollbackCreatedSimulators (createdSimulatorIds : List SimulatorId)
    (attribution : Option (List SimulatorId × List String)) : Broker (List RollbackFailure) := do
  let (attributed, failures) ←
    match attribution with
    | none => pure ([], [])
    | some (baselineDeviceIds, plannedSimulatorNames) =>
        tryCatch
          (do
            let inventory ← readSimctlInventory
            return (attributedDevices inventory baselineDeviceIds plannedSimulatorNames, []))
          fun _ => pure ([], [.inventory])
  (createdSimulatorIds ++ attributed).eraseDups.reverse.foldlM rollbackDelete failures

/-- The error carries the rollback failures, if there are any. -/
def attachRollbackFailures (error : BrokerError) (failures : List RollbackFailure) : BrokerError :=
  if failures = [] then error else { error with rollbackFailures := failures }

def hostConfigWithPendingRetirements (config : HostConfig) (pendingRetirements : List SimulatorId) :
    HostConfig :=
  { config with pendingRetirements }

def pendingRetirementIdsForHostReplacement (previous next : HostConfig) : List SimulatorId :=
  (previous.pendingRetirements ++ previous.simulatorIds).eraseDups.filter fun simulatorId =>
    simulatorId ∉ next.simulatorIds

/-- `failedRetirements`: the simulators that are still to be retired, each with
its error. -/
abbrev FailedRetirements := List (SimulatorId × BrokerError)

/-- One turn of the loop of `retirePendingHostSimulators`. -/
def retireSimulator (nextSimulatorIds currentSimulatorIds : List SimulatorId)
    (failedRetirements : FailedRetirements) (simulatorId : SimulatorId) :
    Broker FailedRetirements :=
  if simulatorId ∈ nextSimulatorIds ∨ simulatorId ∉ currentSimulatorIds then
    pure failedRetirements
  else
    tryCatch
      (do
        deleteAliasSimulator simulatorId .retirement
        return failedRetirements)
      fun error => pure (failedRetirements ++ [(simulatorId, error)])

def retirePendingHostSimulators (pendingRetirementIds : List SimulatorId) (next : HostConfig) :
    Broker FailedRetirements := do
  if pendingRetirementIds = [] then return []
  else
    let inventory ← readSimctlInventory
    pendingRetirementIds.foldlM (retireSimulator next.simulatorIds inventory.deviceIds) []

end SimulatorBroker.Broker
