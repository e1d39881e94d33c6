import SimulatorBroker.Broker.Capacity
import SimulatorBroker.Text.Properties

/-!
# Provisioning for a requirement

What a purpose asks for, and which runtime and device type of an inventory would
supply it.
-/

namespace SimulatorBroker.Capacity

open State Broker

/-! ## Requirements -/

/-- `CAPACITY_RESET_POLICY_BY_CAPABILITY`, its own entries. -/
def resetPolicyByCapability (capability : String) : Option ResetPolicy :=
  match capability with
  | "automation-resettable" => some .eraseOnAcquire
  | "build-clean" => some .eraseOnAcquire
  | "build-fast" => some .none
  | "interactive-resettable" => some .eraseOnAcquire
  | "manual-persistent" => some .none
  | _ => none

/-- `CAPACITY_DEFAULT_FAMILY_BY_CAPABILITY` of a capability with a reset policy. -/
def defaultDeviceFamily : DeviceFamily :=
  .iPhone

structure Requirement extends CapacityRequirement where
  iosVersion : Option String
  deriving DecidableEq, Repr

inductive BlockingReason where
  | unsupportedCapability
  | inventoryUnavailable
  | runtimeNotFound
  | deviceTypeNotFound
  | missingHostConfig
  | missingProjectFile
  | noMatchingCapacity
  | noEligibleCapacity
  | matchingCapacityBusy
  | pinConflict
  | repairNeeded
  deriving DecidableEq, Repr

/-- `capacityProvisioningPolicy`; `none` for an unsupported capability. -/
def capacityProvisioningPolicy (purpose : Purpose) : Option Requirement :=
  (resetPolicyByCapability purpose.capability).map fun resetPolicy =>
    { capability := purpose.capability
      deviceFamily := (purpose.requires.bind (·.deviceFamily)).getD defaultDeviceFamily
      iosVersion := purpose.requires.bind (·.iosVersion)
      resetPolicy }

/-! ## Runtimes in the setup order -/

/-- By code units, as `Array.prototype.sort` compares without a comparison of its own. -/
def compareUnits (left right : String) : Ordering :=
  compare ((Text.stringUnits left).map UInt16.toNat) ((Text.stringUnits right).map UInt16.toNat)

def sortTexts (texts : List String) : List String :=
  texts.insertionSort fun left right => compareUnits left right ≠ .gt

def setupRuntimeSupportedTypeKey (runtime : Runtime) : String :=
  String.intercalate "\n" (sortTexts (runtime.supportedDeviceTypes.map (·.identifier)))

/-- Version falling, build falling, identifier, supported types. -/
def compareSetupRuntimes (locale : Collation) (left right : Runtime) : Ordering :=
  (compareVersions (right.version.getD "") (left.version.getD "")).then
    ((locale.localeCompareNumeric (right.buildVersion.getD "") (left.buildVersion.getD "")).then
      ((locale.localeCompare left.identifier right.identifier).then
        (locale.localeCompare (setupRuntimeSupportedTypeKey left)
          (setupRuntimeSupportedTypeKey right))))

/-- A runtime without device types of its own has those of the inventory. -/
def runtimeSupportedDeviceTypes (runtime : Runtime) (inventory : SimctlInventory) :
    List DeviceType :=
  if runtime.supportedDeviceTypes = [] then inventory.deviceTypes
  else runtime.supportedDeviceTypes

def runtimeSuppliesDeviceFamily (runtime : Runtime) (inventory : SimctlInventory)
    (deviceFamily : DeviceFamily) : Bool :=
  (runtimeSupportedDeviceTypes runtime inventory).any (isCompleteSetupDeviceType deviceFamily)

/-! ## Selection -/

def matchingRuntimes (inventory : SimctlInventory) (iosVersion : Option String) : List Runtime :=
  (inventory.runtimes.filter isAvailableIosRuntime).filter fun runtime =>
    runtimeMatchesRequestedVersion runtime (iosVersion.getD "")

/-- The matching runtimes that supply the family, the preferred one first. -/
def supplyingRuntimes (locale : Collation) (inventory : SimctlInventory) (iosVersion : Option String)
    (deviceFamily : DeviceFamily) : List Runtime :=
  ((matchingRuntimes inventory iosVersion).filter fun runtime =>
    runtimeSuppliesDeviceFamily runtime inventory deviceFamily).insertionSort fun left right =>
      compareSetupRuntimes locale left right ≠ .gt

def selectRuntimeFromInventory (locale : Collation) (inventory : SimctlInventory)
    (iosVersion : Option String) (deviceFamily : DeviceFamily) : Except BlockingReason Runtime :=
  if matchingRuntimes inventory iosVersion = [] then .error .runtimeNotFound
  else match supplyingRuntimes locale inventory iosVersion deviceFamily with
    | [] => .error .deviceTypeNotFound
    | runtime :: _ => .ok runtime

/-- `selectPreferredDeviceType` of the runtime's types of the family. -/
def selectDeviceTypeFromInventory (locale : Collation) (inventory : SimctlInventory)
    (runtime : Runtime) (deviceFamily : DeviceFamily) : Except BlockingReason DeviceType :=
  let supported := (runtimeSupportedDeviceTypes runtime inventory).filter fun deviceType =>
    deviceType.productFamily = some deviceFamily
  match preferredDeviceTypes locale { runtime with supportedDeviceTypes := supported }
      deviceFamily with
  | [] => .error .deviceTypeNotFound
  | deviceType :: _ => .ok deviceType

structure Provisioning where
  runtime : Runtime
  deviceType : DeviceType
  deriving DecidableEq, Repr

def capacityProvisioningForRequirement (locale : Collation) (inventory : Option SimctlInventory)
    (requirement : Requirement) : Except BlockingReason Provisioning :=
  match inventory with
  | none => .error .inventoryUnavailable
  | some inventory => do
      let runtime ←
        selectRuntimeFromInventory locale inventory requirement.iosVersion requirement.deviceFamily
      let deviceType ←
        selectDeviceTypeFromInventory locale inventory runtime requirement.deviceFamily
      return { runtime, deviceType }

/-! ## What is selected -/

variable {locale : Collation} {inventory : SimctlInventory} {iosVersion : Option String}
  {deviceFamily : DeviceFamily}

theorem selectRuntimeFromInventory_mem {runtime : Runtime}
    (hselected : selectRuntimeFromInventory locale inventory iosVersion deviceFamily = .ok runtime) :
    runtime ∈ matchingRuntimes inventory iosVersion ∧
      runtimeSuppliesDeviceFamily runtime inventory deviceFamily = true := by
  unfold selectRuntimeFromInventory at hselected
  split at hselected
  · cases hselected
  · cases hsupplying : supplyingRuntimes locale inventory iosVersion deviceFamily with
    | nil => simp [hsupplying] at hselected
    | cons first rest =>
        simp only [hsupplying] at hselected
        cases hselected
        have hmem : runtime ∈ supplyingRuntimes locale inventory iosVersion deviceFamily := by
          rw [hsupplying]
          exact List.mem_cons_self
        exact List.mem_filter.mp ((List.mem_insertionSort _).mp hmem)

end SimulatorBroker.Capacity
