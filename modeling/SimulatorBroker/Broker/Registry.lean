import SimulatorBroker.Broker.Files

/-!
# The registry in memory

Normalizing a registry read from disk, synchronizing it with a simulator
inventory, and the small mutations the commands make on its entries.
-/

namespace SimulatorBroker.State

/-! ## Entries -/

namespace Registry

/-- `mutate(registry.aliases[name])`, where the alias has an entry. -/
def modify (registry : Registry) (name : AliasName) (mutate : RegistryEntry → RegistryEntry) :
    Registry :=
  { registry with
    aliases := fun other =>
      if other = name then (registry.aliases other).map mutate else registry.aliases other }

def touch (registry : Registry) (timestamp : Timestamp) : Registry :=
  { registry with updatedAt := timestamp }

/-- `delete registry.aliases[name]`. -/
def remove (registry : Registry) (name : AliasName) : Registry :=
  { registry with
    aliases := fun other => if other = name then none else registry.aliases other }

@[simp]
theorem modify_aliases_self (registry : Registry) (name : AliasName)
    (mutate : RegistryEntry → RegistryEntry) :
    (registry.modify name mutate).aliases name = (registry.aliases name).map mutate := by
  simp [modify]

theorem modify_aliases_of_ne (registry : Registry) {name other : AliasName}
    (mutate : RegistryEntry → RegistryEntry) (hne : other ≠ name) :
    (registry.modify name mutate).aliases other = registry.aliases other := by
  simp [modify, hne]

@[simp]
theorem touch_aliases (registry : Registry) (timestamp : Timestamp) :
    (registry.touch timestamp).aliases = registry.aliases := rfl

end Registry

end SimulatorBroker.State

namespace SimulatorBroker.Broker

open SimulatorBroker.Effects
open SimulatorBroker.State

/-- `KNOWN_DRIFT_CAUSE_CODES`. -/
def knownDriftCauseCodes : List ReasonCode :=
  [.bootOnAcquireFailed, .deviceTypeNotFound, .idleShutdownFailed, .repairInterrupted,
    .resetOnAcquireFailed, .runtimeNotFound, .simulatorActionFailed, .simulatorConfigMismatch,
    .simulatorMissing, .simulatorUnavailable, .slotReclaimFailed]

def knownDriftCauseCode (reasonCode : Option ReasonCode) : Option ReasonCode :=
  reasonCode.filter fun code => decide (code ∈ knownDriftCauseCodes)

/-- `DELETE_TRIGGER_CAUSE_CODES`. -/
def deleteTriggerCauseCodes : List ReasonCode :=
  [.runtimeNotFound, .deviceTypeNotFound]

/-! ## Normalizing -/

def emptyRegistry (timestamp : Timestamp) : Registry where
  aliases _ := none
  updatedAt := timestamp

def normalizeRegistryEntry (entry : Option RegistryEntry) (timestamp : Timestamp) :
    RegistryEntry :=
  match entry with
  | none => { updatedAt := timestamp }
  | some entry => { entry with driftCauseCode := knownDriftCauseCode entry.driftCauseCode }

/-- A result without a source or a status counts as none. -/
def normalizeIdleCleanupResult (result : Option CleanupResult) : Option CleanupResult :=
  result.filter fun result => result.source.isLabel && decide (result.status ≠ "")

def normalizeSlotReclaimResult (result : Option ReclaimResult) : Option ReclaimResult :=
  result.filter fun result => decide (result.source ≠ "") && decide (result.status ≠ "")

/-- One entry for each configured alias, and no other. -/
def normalizeRegistry (rawRegistry : Option Registry) (config : HostConfig)
    (timestamp : Timestamp) : Registry :=
  let raw := rawRegistry.getD (emptyRegistry timestamp)
  { aliases := fun name =>
      if name ∈ config.aliasNames then some (normalizeRegistryEntry (raw.aliases name) timestamp)
      else none
    lastCleanupResult := normalizeIdleCleanupResult raw.lastCleanupResult
    lastReclaimResult := normalizeSlotReclaimResult raw.lastReclaimResult
    updatedAt := timestamp }

/-! ## Lease counts -/

def incrementLeasesSinceErase (entry : RegistryEntry) : RegistryEntry :=
  { entry with leasesSinceErase := entry.leasesSinceErase + 1 }

def resetLeasesSinceErase (entry : RegistryEntry) : RegistryEntry :=
  { entry with leasesSinceErase := 0 }

def markAliasLeaseReleased (timestamp : Timestamp) (entry : RegistryEntry) : RegistryEntry :=
  { incrementLeasesSinceErase
      { entry with activeLeaseId := none, lastLeaseReleasedAt := some timestamp } with
    updatedAt := timestamp }

/-! ## Synchronizing with the simulators -/

structure SimctlInventory where
  deviceTypes : List DeviceType
  devices : List Device
  runtimes : List Runtime

def readSimctlInventory : Broker SimctlInventory := do
  let deviceTypes ← perform .listDeviceTypes
  let devices ← perform .listDevices
  let runtimes ← perform .listRuntimes
  return { deviceTypes, devices, runtimes }

/-- What `createDeviceIndex` keeps of a device. -/
structure IndexedDevice where
  deviceFamily : Option DeviceFamily
  deviceTypeIdentifier : String
  isAvailable : Bool
  name : String
  runtimeIdentifier : String
  runtimeVersion : Option String
  booted : Bool

/-- A later record of the same key replaces an earlier one. -/
def lastOf {α : Type} (records : List α) (select : α → Bool) : Option α :=
  records.reverse.find? select

namespace SimctlInventory

def deviceType? (inventory : SimctlInventory) (identifier : String) : Option DeviceType :=
  lastOf inventory.deviceTypes fun deviceType => deviceType.identifier = identifier

def runtime? (inventory : SimctlInventory) (identifier : String) : Option Runtime :=
  lastOf inventory.runtimes fun runtime => runtime.identifier = identifier

/-- `createDeviceIndex(inventory).get(simulatorId)`. -/
def device? (inventory : SimctlInventory) (simulatorId : SimulatorId) : Option IndexedDevice :=
  (lastOf inventory.devices fun device => device.udid = simulatorId).map fun device =>
    { deviceFamily :=
        ((inventory.deviceType? device.deviceTypeIdentifier).bind (·.productFamily)).or
          device.productFamily
      deviceTypeIdentifier := device.deviceTypeIdentifier
      isAvailable := device.isAvailable
      name := device.name
      runtimeIdentifier := device.runtimeIdentifier
      runtimeVersion := (inventory.runtime? device.runtimeIdentifier).bind (·.version)
      booted := device.booted }

end SimctlInventory

def iosVersionSatisfies (aliasVersion requiredVersion : String) : Bool :=
  (versionComponents requiredVersion).isPrefixOf (versionComponents aliasVersion)

def preserveSlotReclaimFailure (entry : RegistryEntry) (replacement : String) : Option String :=
  if entry.driftReason = some "slot-reclaim-failed" then some "slot-reclaim-failed"
  else some replacement

def powerStateOf (device : IndexedDevice) : PowerState :=
  if device.booted then .booted else .shutdown

/-- What the inventory says about an alias. -/
inductive SyncVerdict where
  | missing
  | unavailable
  | mismatched (powerState : PowerState)
  | matching (powerState : PowerState)

def syncVerdict (inventory : SimctlInventory) (hostAlias : HostAlias) : SyncVerdict :=
  match inventory.device? hostAlias.simulatorId with
  | none => .missing
  | some device =>
      if device.isAvailable = false then .unavailable
      else if device.deviceFamily ≠ some hostAlias.deviceFamily
          ∨ iosVersionSatisfies (device.runtimeVersion.getD "") hostAlias.iosVersion = false then
        .mismatched (powerStateOf device)
      else .matching (powerStateOf device)

/-- One turn of the loop of `syncRegistryWithSimctl`. -/
def syncEntry (verdict : SyncVerdict) (entry : RegistryEntry) : RegistryEntry :=
  match verdict with
  | .missing =>
      { entry with
        health := .repairNeeded
        driftReason := preserveSlotReclaimFailure entry "simulator-missing"
        powerState := .shutdown }
  | .unavailable =>
      { entry with
        health := .repairNeeded
        driftReason := preserveSlotReclaimFailure entry "simulator-unavailable"
        powerState := .shutdown }
  | .mismatched powerState =>
      { entry with
        health := .repairNeeded
        driftReason := preserveSlotReclaimFailure entry "simulator-config-mismatch"
        powerState }
  | .matching powerState =>
      if entry.driftReason = some "slot-reclaim-failed" then
        { entry with powerState, health := .repairNeeded }
      else
        match entry.health with
        | .repairing =>
            { entry with
              powerState
              health := .repairNeeded
              driftReason := some (entry.driftReason.getD "repair-interrupted") }
        | .healthy | .stateDrift =>
            { entry with powerState, health := .healthy, driftReason := none, driftCauseCode := none }
        | .repairNeeded => { entry with powerState }

def syncRegistry (config : HostConfig) (inventory : SimctlInventory) (registry : Registry) :
    Registry :=
  { registry with
    aliases := fun name =>
      match config.find name with
      | none => registry.aliases name
      | some hostAlias => (registry.aliases name).map (syncEntry (syncVerdict inventory hostAlias)) }

/-- The inventory is read unless the caller has one. -/
def syncRegistryWithSimctl (config : HostConfig) (registry : Registry)
    (inventory : Option SimctlInventory := none) : Broker Registry :=
  match inventory with
  | some inventory => pure (syncRegistry config inventory registry)
  | none => do
      let inventory ← readSimctlInventory
      return syncRegistry config inventory registry

end SimulatorBroker.Broker
