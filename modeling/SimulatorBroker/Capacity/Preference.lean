import SimulatorBroker.Capacity.Provisioning
import SimulatorBroker.Ranking.Permuted

/-!
# What an inventory prefers

The runtime and the device type a requirement is provisioned with are the ones
that rank first in the setup orders, which are total preorders.
-/

namespace SimulatorBroker.Capacity

open State Broker Ranking

/-! ## The setup orders -/

/-- A missing part counts as zero. -/
theorem compareVersionParts_step (left right : List Nat) :
    compareVersionParts left right =
      (compare (left.headD 0) (right.headD 0)).then
        (compareVersionParts left.tail right.tail) := by
  cases left with
  | nil =>
      cases right with
      | nil => simp [compareVersionParts]
      | cons part rest => simp [compareVersionParts]
  | cons part rest =>
      cases right with
      | nil => simp [compareVersionParts]
      | cons other tail => simp [compareVersionParts]

theorem compareVersionParts_swap (left right : List Nat) :
    compareVersionParts left right = (compareVersionParts right left).swap := by
  induction hlength : left.length + right.length using Nat.strongRecOn generalizing left right with
  | ind length ih =>
      by_cases hnil : left = [] ∧ right = []
      · obtain ⟨rfl, rfl⟩ := hnil
        simp [compareVersionParts]
      · rw [compareVersionParts_step left right, compareVersionParts_step right left,
          Ordering.swap_then, ← Std.OrientedCmp.eq_swap,
          ih (left.tail.length + right.tail.length) ?_ left.tail right.tail rfl]
        cases left <;> cases right <;> simp at hnil hlength ⊢ <;> omega

theorem compareVersionParts_trans (left middle right : List Nat)
    (hleft : (compareVersionParts left middle).isLE)
    (hright : (compareVersionParts middle right).isLE) :
    (compareVersionParts left right).isLE := by
  induction hlength : left.length + middle.length + right.length using Nat.strongRecOn
    generalizing left middle right with
  | ind length ih =>
      by_cases hnil : left = [] ∧ middle = [] ∧ right = []
      · obtain ⟨rfl, rfl, rfl⟩ := hnil
        simp [compareVersionParts]
      · rw [compareVersionParts_step, Ordering.isLE_then_iff_and] at hleft hright ⊢
        obtain ⟨hhead, htail⟩ := hleft
        obtain ⟨hhead', htail'⟩ := hright
        refine ⟨Std.TransCmp.isLE_trans hhead hhead', ?_⟩
        rcases htail with hlt | htail
        · exact .inl (Std.TransCmp.lt_of_lt_of_isLE hlt hhead')
        · rcases htail' with hlt | htail'
          · exact .inl (Std.TransCmp.lt_of_isLE_of_lt hhead hlt)
          · refine .inr (ih _ ?_ left.tail middle.tail right.tail htail htail' rfl)
            cases left <;> cases middle <;> cases right <;> simp at hnil hlength ⊢ <;> omega

instance : Std.TransCmp compareVersionParts where
  eq_swap := compareVersionParts_swap _ _
  isLE_trans := compareVersionParts_trans _ _ _

instance : Std.TransCmp compareVersions :=
  transCmp_on parseVersionParts

instance : Std.TransCmp compareUnits :=
  transCmp_on fun text : String => (Text.stringUnits text).map UInt16.toNat

theorem sortTexts_perm {left right : List String} (hperm : left.Perm right) :
    sortTexts left = sortTexts right := by
  refine insertionSort_eq_of_perm _ hperm fun left _ right _ heq => ?_
  unfold compareUnits at heq
  rw [Std.LawfulEqCmp.compare_eq_iff_eq] at heq
  exact Text.stringUnits_injective
    (List.map_injective_iff.mpr (fun _ _ => UInt16.toNat_inj.mp) heq)

/-- The key does not depend on how the device types are listed. -/
theorem setupRuntimeSupportedTypeKey_perm {left right : Runtime}
    (hperm : left.supportedDeviceTypes.Perm right.supportedDeviceTypes) :
    setupRuntimeSupportedTypeKey left = setupRuntimeSupportedTypeKey right :=
  congrArg (String.intercalate "\n") (sortTexts_perm (hperm.map _))

instance (locale : Collation) : Std.TransCmp (compareSetupRuntimes locale) :=
  transCmp_then (transCmp_falling fun runtime : Runtime => runtime.version.getD "")
    (transCmp_then (transCmp_falling fun runtime : Runtime => runtime.buildVersion.getD "")
      (transCmp_then (transCmp_on fun runtime : Runtime => runtime.identifier)
        (transCmp_on setupRuntimeSupportedTypeKey)))

instance (locale : Collation) : Std.TransCmp (compareSetupDeviceTypes locale) :=
  transCmp_then (transCmp_on fun deviceType : DeviceType => deviceType.identifier)
    (transCmp_on fun deviceType : DeviceType => deviceType.name)

/-- Newer names first. -/
def comparePreferredDeviceTypes (locale : Collation) (left right : DeviceType) : Ordering :=
  (compareVersions right.name left.name).then (compareSetupDeviceTypes locale left right)

instance (locale : Collation) : Std.TransCmp (comparePreferredDeviceTypes locale) :=
  transCmp_then (transCmp_falling fun deviceType : DeviceType => deviceType.name)
    inferInstance

/-! ## The first in the order -/

/-- The runtimes among which a requirement chooses. -/
def supplying (inventory : SimctlInventory) (requirement : Requirement) : List Runtime :=
  (matchingRuntimes inventory requirement.iosVersion).filter fun runtime =>
    runtimeSuppliesDeviceFamily runtime inventory requirement.deviceFamily

/-- Of the runtimes that supply the requirement, `runtime` ranks first. -/
def PreferredRuntime (locale : Collation) (inventory : SimctlInventory) (requirement : Requirement)
    (runtime : Runtime) : Prop :=
  RanksFirst (compareSetupRuntimes locale) (supplying inventory requirement) runtime

/-- The complete device types of the family a runtime supports. -/
def completeDeviceTypes (inventory : SimctlInventory) (runtime : Runtime)
    (deviceFamily : DeviceFamily) : List DeviceType :=
  (runtimeSupportedDeviceTypes runtime inventory).filter (isCompleteSetupDeviceType deviceFamily)

/-- `deviceType` ranks first among the types with a preferred name, or among all when there are
none. -/
def PreferredDeviceType (locale : Collation) (inventory : SimctlInventory) (runtime : Runtime)
    (deviceFamily : DeviceFamily) (deviceType : DeviceType) : Prop :=
  let complete := completeDeviceTypes inventory runtime deviceFamily
  let preferred := complete.filter fun other => isPreferredDeviceName deviceFamily other.name
  RanksFirst (comparePreferredDeviceTypes locale) preferred deviceType ∨
    preferred = [] ∧ RanksFirst (compareSetupDeviceTypes locale) complete deviceType

structure Preferred (locale : Collation) (inventory : SimctlInventory) (requirement : Requirement)
    (provisioning : Provisioning) : Prop where
  runtime : PreferredRuntime locale inventory requirement provisioning.runtime
  deviceType : PreferredDeviceType locale inventory provisioning.runtime requirement.deviceFamily
    provisioning.deviceType

variable {locale : Collation} {inventory : SimctlInventory} {requirement : Requirement} {runtime : Runtime}
  {deviceType : DeviceType} {deviceFamily : DeviceFamily}

theorem selectRuntimeFromInventory_iff :
    selectRuntimeFromInventory locale inventory requirement.iosVersion requirement.deviceFamily
        = .ok runtime ↔
      PreferredRuntime locale inventory requirement runtime := by
  unfold PreferredRuntime supplying
  rw [← head?_insertionSort]
  unfold selectRuntimeFromInventory
  by_cases hmatching : matchingRuntimes inventory requirement.iosVersion = []
  · simp [hmatching]
  · rw [if_neg hmatching]
    unfold supplyingRuntimes
    cases ((matchingRuntimes inventory requirement.iosVersion).filter fun runtime =>
        runtimeSuppliesDeviceFamily runtime inventory
          requirement.deviceFamily).insertionSort
        fun left right => compareSetupRuntimes locale left right ≠ .gt with
    | nil => simp
    | cons first rest => simp

theorem completeDeviceTypes_eq :
    ((runtimeSupportedDeviceTypes runtime inventory).filter fun deviceType =>
        deviceType.productFamily = some deviceFamily).filter
      (isCompleteSetupDeviceType deviceFamily) =
      completeDeviceTypes inventory runtime deviceFamily := by
  unfold completeDeviceTypes
  rw [List.filter_filter]
  refine List.filter_congr fun deviceType _ => ?_
  unfold isCompleteSetupDeviceType
  cases decide (deviceType.productFamily = some deviceFamily) with
  | false => rfl
  | true => simp

theorem selectDeviceTypeFromInventory_iff :
    selectDeviceTypeFromInventory locale inventory runtime deviceFamily = .ok deviceType ↔
      PreferredDeviceType locale inventory runtime deviceFamily deviceType := by
  unfold selectDeviceTypeFromInventory preferredDeviceTypes PreferredDeviceType
  simp only [completeDeviceTypes_eq]
  rw [← head?_insertionSort, ← head?_insertionSort]
  unfold comparePreferredDeviceTypes
  cases hpreferred : (completeDeviceTypes inventory runtime deviceFamily).filter
      fun deviceType => isPreferredDeviceName deviceFamily deviceType.name with
  | nil =>
      cases (completeDeviceTypes inventory runtime deviceFamily).insertionSort
          fun left right => compareSetupDeviceTypes locale left right ≠ .gt with
      | nil => simp
      | cons first rest => simp
  | cons head tail =>
      have hlength : 0 < ((head :: tail).insertionSort fun left right =>
          (compareVersions right.name left.name).then (compareSetupDeviceTypes locale left right)
            ≠ .gt).length := by
        rw [List.length_insertionSort]
        exact Nat.succ_pos _
      revert hlength
      cases (head :: tail).insertionSort fun left right =>
          (compareVersions right.name left.name).then (compareSetupDeviceTypes locale left right)
            ≠ .gt with
      | nil => simp
      | cons first rest => simp

/-- A requirement is provisioned with what the inventory prefers for it. -/
theorem capacityProvisioningForRequirement_iff {provisioning : Provisioning} :
    capacityProvisioningForRequirement locale (some inventory) requirement = .ok provisioning ↔
      Preferred locale inventory requirement provisioning := by
  constructor
  · intro hprovisioned
    unfold capacityProvisioningForRequirement at hprovisioned
    simp only [bind, Except.bind, pure, Except.pure] at hprovisioned
    split at hprovisioned
    · cases hprovisioned
    · next runtime hruntime =>
        split at hprovisioned
        · cases hprovisioned
        · next deviceType hdeviceType =>
            cases hprovisioned
            exact ⟨selectRuntimeFromInventory_iff.mp hruntime,
              selectDeviceTypeFromInventory_iff.mp hdeviceType⟩
  · rintro ⟨hruntime, hdeviceType⟩
    rw [← selectRuntimeFromInventory_iff] at hruntime
    rw [← selectDeviceTypeFromInventory_iff] at hdeviceType
    simp only [capacityProvisioningForRequirement, hruntime, hdeviceType, bind, Except.bind, pure,
      Except.pure]

/-- A runtime that supplies the family prefers one of its types. -/
theorem exists_preferredDeviceType (locale : Collation)
    (hsupplies : runtimeSuppliesDeviceFamily runtime inventory deviceFamily = true) :
    ∃ deviceType, PreferredDeviceType locale inventory runtime deviceFamily deviceType := by
  obtain ⟨complete, hcomplete, hfamily⟩ := List.any_eq_true.mp hsupplies
  have hmem : complete ∈ completeDeviceTypes inventory runtime deviceFamily :=
    List.mem_filter.mpr ⟨hcomplete, hfamily⟩
  unfold PreferredDeviceType
  dsimp only
  by_cases hpreferred : ((completeDeviceTypes inventory runtime deviceFamily).filter fun other =>
      isPreferredDeviceName deviceFamily other.name) = []
  · obtain ⟨deviceType, hfirst⟩ := exists_ranksFirst (compareSetupDeviceTypes locale)
      (List.ne_nil_of_mem hmem)
    exact ⟨deviceType, .inr ⟨hpreferred, hfirst⟩⟩
  · obtain ⟨deviceType, hfirst⟩ := exists_ranksFirst (comparePreferredDeviceTypes locale)
      hpreferred
    exact ⟨deviceType, .inl hfirst⟩

theorem exists_preferred (locale : Collation) (hsupplying : supplying inventory requirement ≠ []) :
    ∃ provisioning, Preferred locale inventory requirement provisioning := by
  obtain ⟨runtime, hfirst⟩ := exists_ranksFirst (compareSetupRuntimes locale) hsupplying
  obtain ⟨deviceType, hpreferred⟩ :=
    exists_preferredDeviceType locale (List.mem_filter.mp hfirst.mem).2
  exact ⟨{ runtime, deviceType }, hfirst, hpreferred⟩

theorem Preferred.unique {provisioning other : Provisioning}
    (hleft : Preferred locale inventory requirement provisioning)
    (hright : Preferred locale inventory requirement other) : provisioning = other := by
  rw [← capacityProvisioningForRequirement_iff] at hleft hright
  rw [hleft] at hright
  cases hright
  rfl

/-- Only a runtime with a version matches. -/
theorem Preferred.version {provisioning : Provisioning}
    (hpreferred : Preferred locale inventory requirement provisioning) :
    ∃ version, provisioning.runtime.version = some version := by
  have hmem := hpreferred.runtime.mem
  unfold supplying matchingRuntimes runtimeMatchesRequestedVersion at hmem
  cases hversion : provisioning.runtime.version with
  | none => simp [hversion] at hmem
  | some version => exact ⟨version, rfl⟩

/-- Both inventories prefer the same runtime, in the same version, and the same device type. -/
def PreferredAlike (locale : Collation) (requirement : Requirement) (left right : SimctlInventory) : Prop :=
  ∃ provisioning other, Preferred locale left requirement provisioning ∧
    Preferred locale right requirement other ∧
      provisioning.runtime.identifier = other.runtime.identifier ∧
        provisioning.runtime.version = other.runtime.version ∧
          provisioning.deviceType.identifier = other.deviceType.identifier

end SimulatorBroker.Capacity
