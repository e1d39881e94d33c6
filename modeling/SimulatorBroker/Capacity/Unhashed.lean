import SimulatorBroker.Capacity.Confirmed

/-!
# What the plan id does not hash

Of a runtime the plan id hashes identifier, availability and version; of the host everything
but its id. Where the rest is the same too, one plan id stands for one set of creations.
-/

namespace SimulatorBroker.Capacity

open State Broker Ranking

variable {locale : Collation}

/-! ## The condition -/

/-- A selected purpose needs the requirement, and no alias of the host has it. -/
structure Lacking (locale : Collation) (purposeId : Option PurposeId)
    (evaluation : CapacityEvaluation) (state : BrokerState) (purpose : Purpose)
    (requirement : Requirement) : Prop where
  selected : ∃ project, evaluation.project = some project ∧
    purpose ∈ selectCapacityPurposes locale project purposeId ∧
      structuralCandidates state project purpose = []
  required : capacityProvisioningPolicy purpose = some requirement

def compareIdentifiers (locale : Collation) (left right : DeviceType) : Ordering :=
  locale.localeCompare left.identifier right.identifier

instance : Std.TransCmp (compareIdentifiers locale) :=
  transCmp_on fun deviceType : DeviceType => deviceType.identifier

def sortedByIdentifier (locale : Collation) (deviceTypes : List DeviceType) : List DeviceType :=
  deviceTypes.insertionSort fun left right => compareIdentifiers locale left right ≠ .gt

/-- Records of one identifier, availability and version also agree in their builds and their
device types, as far as they are available, match the requested version and supply the family. -/
def RecordsAgree (locale : Collation) (requirement : Requirement) (left right : SimctlInventory) :
    Prop :=
  ∀ runtime ∈ matchingRuntimes left requirement.iosVersion,
    ∀ other ∈ matchingRuntimes right requirement.iosVersion,
      runtimeFingerprint runtime = runtimeFingerprint other →
      (runtimeSuppliesDeviceFamily runtime left requirement.deviceFamily = true ∨
        runtimeSuppliesDeviceFamily other right requirement.deviceFamily = true) →
      runtime.buildVersion = other.buildVersion ∧
        sortedByIdentifier locale runtime.supportedDeviceTypes =
          sortedByIdentifier locale other.supportedDeviceTypes

/-- Wherever something is lacking that could be supplied, the hosts have one id, and their
records agree. -/
def UnhashedAgrees (locale : Collation) (purposeId : Option PurposeId)
    (left right : CapacityEvaluation) : Prop :=
  ∀ state otherState inventory otherInventory purpose requirement,
    left.state = some state → right.state = some otherState →
    left.inventory = some inventory → right.inventory = some otherInventory →
    Lacking locale purposeId left state purpose requirement →
    supplying inventory requirement ≠ [] →
      state.hostConfig.hostId = otherState.hostConfig.hostId ∧
        RecordsAgree locale requirement inventory otherInventory

/-! ## Runtimes -/

def compareRuntimeFingerprints (locale : Collation) (left right : RuntimeFingerprint) : Ordering :=
  locale.localeCompare left.identifier right.identifier

instance : Std.TransCmp (compareRuntimeFingerprints locale) :=
  transCmp_on fun runtime : RuntimeFingerprint => runtime.identifier

def compareRuntimeIdentifiers (locale : Collation) (left right : Runtime) : Ordering :=
  locale.localeCompare left.identifier right.identifier

instance : Std.TransCmp (compareRuntimeIdentifiers locale) :=
  transCmp_on fun runtime : Runtime => runtime.identifier

theorem runtimeFingerprint_eq_iff {first second : Runtime} :
    runtimeFingerprint first = runtimeFingerprint second ↔
      first.identifier = second.identifier ∧ first.isAvailable = second.isAvailable ∧
        first.version = second.version := by
  simp [runtimeFingerprint]

/-- A runtime with its device types sorted. -/
def relisted (locale : Collation) (runtime : Runtime) : Runtime :=
  { runtime with supportedDeviceTypes := sortedByIdentifier locale runtime.supportedDeviceTypes }

theorem compareSetupRuntimes_relisted (left right : Runtime) :
    compareSetupRuntimes locale (relisted locale left) (relisted locale right) =
      compareSetupRuntimes locale left right := by
  have hkey : ∀ runtime : Runtime, setupRuntimeSupportedTypeKey (relisted locale runtime) =
      setupRuntimeSupportedTypeKey runtime :=
    fun runtime => setupRuntimeSupportedTypeKey_perm (List.perm_insertionSort _ _)
  unfold compareSetupRuntimes
  rw [hkey, hkey]
  rfl

/-- Both lists show the same, record by record. -/
theorem map_filter_eq {α β : Type} {rel : α → α → Prop} {first second : List α}
    (hrelated : List.Forall₂ rel first second) {test otherTest : α → Bool} (image : α → β)
    (htest : ∀ item ∈ first, ∀ other ∈ second, rel item other → test item = otherTest other)
    (himage : ∀ item ∈ first, ∀ other ∈ second, rel item other → test item = true →
      image item = image other) :
    (first.filter test).map image = (second.filter otherTest).map image := by
  induction hrelated with
  | nil => rfl
  | @cons item other rest others hrel _ ih =>
      have hrest := ih
        (fun item hitem other hother =>
          htest item (List.mem_cons_of_mem _ hitem) other (List.mem_cons_of_mem _ hother))
        fun item hitem other hother =>
          himage item (List.mem_cons_of_mem _ hitem) other (List.mem_cons_of_mem _ hother)
      have hsame := htest item List.mem_cons_self other List.mem_cons_self hrel
      rw [List.filter_cons, List.filter_cons, ← hsame]
      split
      · next hpasses =>
          rw [List.map_cons, List.map_cons, hrest,
            himage item List.mem_cons_self other List.mem_cons_self hrel hpasses]
      · exact hrest

section Classes

variable {left right : SimctlInventory} {requirement : Requirement}

/-- The lists of device types that two runtimes choose from. -/
theorem sameClasses_supported {runtime other : Runtime}
    (hglobal : sortedByIdentifier locale left.deviceTypes =
      sortedByIdentifier locale right.deviceTypes)
    (hown : sortedByIdentifier locale runtime.supportedDeviceTypes =
      sortedByIdentifier locale other.supportedDeviceTypes) :
    SameClasses (compareIdentifiers locale) (runtimeSupportedDeviceTypes runtime left)
      (runtimeSupportedDeviceTypes other right) := by
  have hempty : runtime.supportedDeviceTypes = [] ↔ other.supportedDeviceTypes = [] := by
    have hlength := congrArg List.length hown
    unfold sortedByIdentifier at hlength
    rw [List.length_insertionSort, List.length_insertionSort] at hlength
    rw [← List.length_eq_zero_iff, hlength, List.length_eq_zero_iff]
  unfold runtimeSupportedDeviceTypes
  by_cases hnone : other.supportedDeviceTypes = []
  · rw [if_pos (hempty.mpr hnone), if_pos hnone]
    exact sameClasses_of_insertionSort hglobal
  · rw [if_neg (hempty.not.mpr hnone), if_neg hnone]
    exact sameClasses_of_insertionSort hown

theorem supplies_of_sameClasses {runtime other : Runtime} {deviceFamily : DeviceFamily}
    (hsame : SameClasses (compareIdentifiers locale) (runtimeSupportedDeviceTypes runtime left)
      (runtimeSupportedDeviceTypes other right))
    (hsupplies : runtimeSuppliesDeviceFamily runtime left deviceFamily = true) :
    runtimeSuppliesDeviceFamily other right deviceFamily = true := by
  obtain ⟨deviceType, hmem, hcomplete⟩ := List.any_eq_true.mp hsupplies
  exact List.any_eq_true.mpr ⟨deviceType, hsame.mem hmem, hcomplete⟩

/-- Runtimes that choose from the same classes prefer the same device type. -/
theorem preferredDeviceType_unique {runtime other : Runtime} {deviceFamily : DeviceFamily}
    (hsame : SameClasses (compareIdentifiers locale) (runtimeSupportedDeviceTypes runtime left)
      (runtimeSupportedDeviceTypes other right)) {deviceType otherType : DeviceType}
    (hleft : PreferredDeviceType locale left runtime deviceFamily deviceType)
    (hright : PreferredDeviceType locale right other deviceFamily otherType) :
    deviceType = otherType := by
  have hcomplete : SameClasses (compareIdentifiers locale)
      (completeDeviceTypes left runtime deviceFamily)
      (completeDeviceTypes right other deviceFamily) := hsame.filter _
  have hpreferred := hcomplete.filter fun other => isPreferredDeviceName deviceFamily other.name
  have hcoarse : ∀ first second : DeviceType, compareSetupDeviceTypes locale first second = .eq →
      compareIdentifiers locale first second = .eq :=
    fun _ _ heq => (Ordering.then_eq_eq.mp heq).1
  have hfiner : ∀ first second : DeviceType, comparePreferredDeviceTypes locale first second = .eq →
      compareIdentifiers locale first second = .eq :=
    fun _ _ heq => hcoarse _ _ (Ordering.then_eq_eq.mp heq).2
  rcases hleft with hleft | ⟨hnone, hleft⟩
  · rcases hright with hright | ⟨hnone, -⟩
    · exact hleft.same_of_classes hfiner hpreferred hright
    · have hmem := hpreferred.mem hleft.mem
      rw [hnone] at hmem
      cases hmem
  · rcases hright with hright | ⟨-, hright⟩
    · have hmem := hpreferred.symm.mem hright.mem
      rw [hnone] at hmem
      cases hmem
    · exact hleft.same_of_classes hcoarse hcomplete hright

/-- Whether a record supplies a requirement. -/
def supplies (inventory : SimctlInventory) (requirement : Requirement) (runtime : Runtime) : Bool :=
  isAvailableIosRuntime runtime &&
    runtimeMatchesRequestedVersion runtime (requirement.iosVersion.getD "") &&
      runtimeSuppliesDeviceFamily runtime inventory requirement.deviceFamily

theorem supplying_eq :
    supplying left requirement = left.runtimes.filter (supplies left requirement) := by
  unfold supplying matchingRuntimes supplies
  rw [List.filter_filter, List.filter_filter]
  refine List.filter_congr fun runtime _ => ?_
  rw [Bool.and_comm, Bool.and_comm (runtimeSuppliesDeviceFamily _ _ _), Bool.and_assoc]

theorem mem_matchingRuntimes_iff {iosVersion : Option String} {runtime : Runtime} :
    runtime ∈ matchingRuntimes left iosVersion ↔
      runtime ∈ left.runtimes ∧ isAvailableIosRuntime runtime = true ∧
        runtimeMatchesRequestedVersion runtime (iosVersion.getD "") = true := by
  unfold matchingRuntimes
  rw [List.mem_filter, List.mem_filter, and_assoc]

/-- What decides whether a record matches is hashed. -/
theorem matches_of_runtimeFingerprint {runtime other : Runtime}
    (hsame : runtimeFingerprint runtime = runtimeFingerprint other) (requested : String) :
    isAvailableIosRuntime runtime = isAvailableIosRuntime other ∧
      runtimeMatchesRequestedVersion runtime requested =
        runtimeMatchesRequestedVersion other requested := by
  obtain ⟨hidentifier, havailable, hversion⟩ := runtimeFingerprint_eq_iff.mp hsame
  unfold isAvailableIosRuntime runtimeMatchesRequestedVersion
  rw [hidentifier, havailable, hversion]
  exact ⟨rfl, rfl⟩

variable (hglobal : sortedByIdentifier locale left.deviceTypes =
    sortedByIdentifier locale right.deviceTypes)
  (hagree : RecordsAgree locale requirement left right)

include hglobal hagree

theorem supplies_of_recordsAgree {runtime other : Runtime} (hmem : runtime ∈ left.runtimes)
    (hother : other ∈ right.runtimes)
    (hsame : runtimeFingerprint runtime = runtimeFingerprint other) :
    supplies left requirement runtime = supplies right requirement other := by
  obtain ⟨havailable, hmatches⟩ :=
    matches_of_runtimeFingerprint hsame (requirement.iosVersion.getD "")
  unfold supplies
  rw [havailable, hmatches]
  by_cases hmatching : isAvailableIosRuntime other = true ∧
      runtimeMatchesRequestedVersion other (requirement.iosVersion.getD "") = true
  · have hlisted := hagree runtime
      (mem_matchingRuntimes_iff.mpr ⟨hmem, havailable.trans hmatching.1, hmatches.trans hmatching.2⟩)
      other (mem_matchingRuntimes_iff.mpr ⟨hother, hmatching⟩) hsame
    rw [hmatching.1, hmatching.2, Bool.true_and, Bool.true_and, Bool.eq_iff_iff]
    constructor
    · intro hsupplies
      obtain ⟨-, hown⟩ := hlisted (.inl hsupplies)
      exact supplies_of_sameClasses (sameClasses_supported hglobal hown) hsupplies
    · intro hsupplies
      obtain ⟨-, hown⟩ := hlisted (.inr hsupplies)
      exact supplies_of_sameClasses (sameClasses_supported hglobal hown).symm hsupplies
  · have hfalse : (isAvailableIosRuntime other &&
        runtimeMatchesRequestedVersion other (requirement.iosVersion.getD "")) = false := by
      rw [← Bool.not_eq_true, Bool.and_eq_true]
      exact hmatching
    rw [hfalse, Bool.false_and, Bool.false_and]

omit hglobal in
theorem relisted_of_recordsAgree {runtime other : Runtime} (hmem : runtime ∈ left.runtimes)
    (hother : other ∈ right.runtimes)
    (hsame : runtimeFingerprint runtime = runtimeFingerprint other)
    (hsupplies : supplies left requirement runtime = true) :
    relisted locale runtime = relisted locale other := by
  obtain ⟨havailable, hmatches⟩ :=
    matches_of_runtimeFingerprint hsame (requirement.iosVersion.getD "")
  unfold supplies at hsupplies
  rw [Bool.and_eq_true, Bool.and_eq_true] at hsupplies
  obtain ⟨⟨hios, hversion⟩, hfamily⟩ := hsupplies
  obtain ⟨hbuild, hown⟩ := hagree runtime (mem_matchingRuntimes_iff.mpr ⟨hmem, hios, hversion⟩)
    other (mem_matchingRuntimes_iff.mpr ⟨hother, havailable ▸ hios, hmatches ▸ hversion⟩) hsame
    (.inl hfamily)
  obtain ⟨hidentifier, hisAvailable, hruntimeVersion⟩ := runtimeFingerprint_eq_iff.mp hsame
  unfold relisted
  rw [hown]
  cases runtime
  cases other
  simp only at hidentifier hisAvailable hruntimeVersion hbuild
  rw [hidentifier, hisAvailable, hruntimeVersion, hbuild]

/-- The runtimes that supply the requirement, class by class. -/
theorem sameClasses_supplying
    (hruntimes : SameClasses (compareRuntimeFingerprints locale)
      (left.runtimes.map runtimeFingerprint) (right.runtimes.map runtimeFingerprint)) :
    SameClasses (compareRuntimeIdentifiers locale)
      ((supplying left requirement).map (relisted locale))
      ((supplying right requirement).map (relisted locale)) := by
  intro key
  have hclass := hruntimes (runtimeFingerprint key)
  rw [List.filter_map, List.filter_map] at hclass
  have hrelated : List.Forall₂
      (fun runtime other => runtimeFingerprint runtime = runtimeFingerprint other)
      (left.runtimes.filter fun other => compareRuntimeIdentifiers locale other key = .eq)
      (right.runtimes.filter fun other => compareRuntimeIdentifiers locale other key = .eq) :=
    List.forall₂_map_right_iff.mp (List.forall₂_map_left_iff.mp
      (List.forall₂_eq_eq_eq ▸ hclass))
  have hmapped := map_filter_eq hrelated (relisted locale)
    (fun runtime hmem other hother hsame => supplies_of_recordsAgree hglobal hagree
      (List.mem_of_mem_filter hmem) (List.mem_of_mem_filter hother) hsame)
    fun runtime hmem other hother hsame hsupplies => relisted_of_recordsAgree hagree
      (List.mem_of_mem_filter hmem) (List.mem_of_mem_filter hother) hsame hsupplies
  rw [List.filter_comm, List.filter_comm (l := right.runtimes), ← supplying_eq, ← supplying_eq]
    at hmapped
  rw [List.filter_map, List.filter_map]
  exact hmapped

end Classes

/-! ## The creations -/

/-- Where the records agree the inventories prefer the same. -/
theorem preferredAlike_of_recordsAgree {left right : SimctlInventory} {requirement : Requirement}
    {provisioning : Provisioning}
    (hglobal : sortedByIdentifier locale left.deviceTypes =
      sortedByIdentifier locale right.deviceTypes)
    (hruntimes : SameClasses (compareRuntimeFingerprints locale)
      (left.runtimes.map runtimeFingerprint) (right.runtimes.map runtimeFingerprint))
    (hagree : RecordsAgree locale requirement left right)
    (hpreferred : Preferred locale left requirement provisioning) :
    PreferredAlike locale requirement left right := by
  have hclasses := sameClasses_supplying hglobal hagree hruntimes
  have hmem := hclasses.mem (List.mem_map_of_mem hpreferred.runtime.mem)
  obtain ⟨served, hserved, -⟩ := List.mem_map.mp hmem
  obtain ⟨other, hother⟩ := exists_preferred locale (List.ne_nil_of_mem hserved)
  have hcoarse : ∀ first second, compareSetupRuntimes locale first second = .eq →
      compareRuntimeIdentifiers locale first second = .eq :=
    fun _ _ heq => (Ordering.then_eq_eq.mp
      (Ordering.then_eq_eq.mp (Ordering.then_eq_eq.mp heq).2).2).1
  have hsame : relisted locale provisioning.runtime = relisted locale other.runtime :=
    (hpreferred.runtime.map compareSetupRuntimes_relisted).same_of_classes hcoarse hclasses
      (hother.runtime.map compareSetupRuntimes_relisted)
  simp only [relisted, Runtime.mk.injEq] at hsame
  obtain ⟨hidentifier, -, -, hown, hversion⟩ := hsame
  have hdevice := preferredDeviceType_unique (sameClasses_supported hglobal hown)
    hpreferred.deviceType hother.deviceType
  exact ⟨provisioning, other, hpreferred, hother, hidentifier, hversion, by rw [hdevice]⟩

/-- What equal fingerprints say of the inventories. -/
theorem inventories_of_hostFingerprint {left right : CapacityEvaluation} {state : BrokerState}
    {inventory : SimctlInventory}
    (hhost : buildCapacityHostFingerprint locale left = buildCapacityHostFingerprint locale right)
    (hstate : left.state = some state) (hinventory : left.inventory = some inventory) :
    ∃ otherState otherInventory, right.state = some otherState ∧
      right.inventory = some otherInventory ∧
        sortedByIdentifier locale inventory.deviceTypes =
          sortedByIdentifier locale otherInventory.deviceTypes ∧
        SameClasses (compareRuntimeFingerprints locale)
          (inventory.runtimes.map runtimeFingerprint)
          (otherInventory.runtimes.map runtimeFingerprint) := by
  unfold buildCapacityHostFingerprint at hhost
  cases hright : right.state with
  | none => simp [hstate, hright] at hhost
  | some otherState =>
      simp only [hstate, hright, hinventory, HostFingerprint.read.injEq] at hhost
      obtain ⟨-, hdeviceTypes, hruntimes, hfresh⟩ := hhost
      obtain ⟨otherInventory, hother⟩ := Option.isSome_iff_exists.mp hfresh.symm
      rw [hother] at hdeviceTypes hruntimes
      exact ⟨otherState, otherInventory, rfl, hother, hdeviceTypes,
        sameClasses_of_insertionSort hruntimes⟩

/-- A confirmed plan id fixes the creations where what it does not hash agrees. -/
theorem confirmedPlan_creations {PlanId : Type} (locale : Collation)
    (digest : PlanFingerprint → PlanId) (hdigest : Function.Injective digest)
    (leftPurpose rightPurpose : Option PurposeId) (left right : CapacityEvaluation)
    (hconfirmed : (reconcilePlan locale digest leftPurpose left).planId =
      (reconcilePlan locale digest rightPurpose right).planId)
    (hagrees : UnhashedAgrees locale leftPurpose left right) :
    (reconcilePlan locale digest leftPurpose left).actions =
      (reconcilePlan locale digest rightPurpose right).actions := by
  have hfingerprint := hdigest hconfirmed
  refine (plannedActions_eq_iff hfingerprint).mpr ?_
  intro state inventory purpose requirement provisioning hmissing
  obtain ⟨otherState, otherInventory, hstate, hinventory, hglobal, hruntimes⟩ :=
    inventories_of_hostFingerprint (congrArg PlanFingerprint.host hfingerprint)
      hmissing.stateRead hmissing.inventoryRead
  obtain ⟨hhostId, hagree⟩ := hagrees state otherState inventory otherInventory purpose requirement
    hmissing.stateRead hstate hmissing.inventoryRead hinventory
    ⟨hmissing.selected, hmissing.required⟩ (List.ne_nil_of_mem hmissing.preferred.runtime.mem)
  exact ⟨otherState, otherInventory, hstate, hinventory, hhostId,
    preferredAlike_of_recordsAgree hglobal hruntimes hagree hmissing.preferred⟩

def deviceTypeNamed (name : String) : DeviceType where
  identifier := "com.apple.CoreSimulator.SimDeviceType." ++ name
  name := name
  productFamily := some .iPhone

/-- One purpose, a host without aliases, one runtime. -/
def buildOnly (supported : List DeviceType) : CapacityEvaluation where
  project := some { projectId := "app", purposes := [{ id := "build", capability := "build-fast" }] }
  hostConfigured := true
  inventory := some {
    deviceTypes := [deviceTypeNamed "iPhone 16", deviceTypeNamed "iPhone 17"], devices := []
    runtimes := [{
      identifier := "com.apple.CoreSimulator.SimRuntime.iOS-26-4", version := some "26.4"
      supportedDeviceTypes := supported }] }
  state := some {
    hostConfig := { aliases := [], hostId := "mac" }, knownProjects := [], leases := []
    leasesByAlias := fun _ => none, pins := [], pinsByAlias := fun _ => none
    registry := { aliases := fun _ => none }, timestamp := 0 }

def padMini : DeviceType where
  identifier := "com.apple.CoreSimulator.SimDeviceType.iPad mini"
  name := "iPad mini"
  productFamily := some .iPad

/-- The same device types in two orders are the same to a plan. -/
def listedUp : CapacityEvaluation :=
  buildOnly [padMini, deviceTypeNamed "iPhone 16"]

def listedDown : CapacityEvaluation :=
  buildOnly [deviceTypeNamed "iPhone 16", padMini]

theorem planFingerprint_listed :
    planFingerprint .root none listedUp = planFingerprint .root none listedDown := by
  have hactions : publicActions (actionGroups .root none listedUp) =
      publicActions (actionGroups .root none listedDown) := by
    decide +kernel
  have hblocked : blockedReasons .root none listedUp = blockedReasons .root none listedDown := by
    decide +kernel
  have hhost : buildCapacityHostFingerprint .root listedUp =
      buildCapacityHostFingerprint .root listedDown := by
    decide +kernel
  have hproject : projectFingerprint .root none listedUp =
      projectFingerprint .root none listedDown := by
    decide +kernel
  simp only [planFingerprint, hactions, hblocked, hhost, hproject]

theorem unhashedAgrees_listed : UnhashedAgrees .root none listedUp listedDown := by
  rintro _ _ _ _ purpose requirement ⟨⟩ ⟨⟩ ⟨⟩ ⟨⟩ - -
  refine ⟨rfl, fun runtime hmem other hother _ _ => ?_⟩
  obtain ⟨hlisted, -⟩ := mem_matchingRuntimes_iff.mp hmem
  obtain ⟨hother, -⟩ := mem_matchingRuntimes_iff.mp hother
  rw [List.mem_singleton] at hlisted hother
  rw [hlisted, hother]
  exact ⟨rfl, by decide +kernel⟩

theorem confirmedPlan_creations_listed :
    (reconcilePlan .root id none listedUp).actions =
      (reconcilePlan .root id none listedDown).actions :=
  confirmedPlan_creations .root id Function.injective_id none none _ _ planFingerprint_listed
    unhashedAgrees_listed

/-! ## A runtime that comes to support other device types -/

/-- The host when the plan is shown, -/
def previewed : CapacityEvaluation :=
  buildOnly [deviceTypeNamed "iPhone 16"]

/-- and when it is applied: the runtime supports another device type. -/
def current : CapacityEvaluation :=
  buildOnly [deviceTypeNamed "iPhone 17"]

theorem planFingerprint_previewed :
    planFingerprint .root none previewed = planFingerprint .root none current := by
  have hactions : publicActions (actionGroups .root none previewed) =
      publicActions (actionGroups .root none current) := by
    decide +kernel
  have hblocked : blockedReasons .root none previewed = blockedReasons .root none current := by
    decide +kernel
  have hhost : buildCapacityHostFingerprint .root previewed =
      buildCapacityHostFingerprint .root current := by
    decide +kernel
  have hproject : projectFingerprint .root none previewed =
      projectFingerprint .root none current := by
    decide +kernel
  simp only [planFingerprint, hactions, hblocked, hhost, hproject]

/-- The plan id stays the same, the device type of the new simulator does not. -/
theorem confirmedPlan_otherDeviceType :
    (∀ (PlanId : Type) (digest : PlanFingerprint → PlanId),
      (reconcilePlan .root digest none previewed).planId =
        (reconcilePlan .root digest none current).planId) ∧
    (plannedActions .root none previewed).map (·.deviceTypeIdentifier) =
      ["com.apple.CoreSimulator.SimDeviceType.iPhone 16"] ∧
    (plannedActions .root none current).map (·.deviceTypeIdentifier) =
      ["com.apple.CoreSimulator.SimDeviceType.iPhone 17"] :=
  ⟨fun _ digest => congrArg digest planFingerprint_previewed, by decide +kernel, by decide +kernel⟩

end SimulatorBroker.Capacity
