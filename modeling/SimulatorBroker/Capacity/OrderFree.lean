import SimulatorBroker.Capacity.Reordered
import SimulatorBroker.Capacity.Unhashed

/-!
# When a plan does not depend on the listing

The plan id hashes the runtimes and the device types in the order of their identifiers.
Records that share one stay in the order in which they are listed, so a plan is free of the
listing exactly where such records look the same to it.
-/

namespace SimulatorBroker.Capacity

open State Broker Ranking

variable {locale : Collation}

/-! ## The promise -/

/-- The same plan id, the same requirements, and for each of them the same creation. -/
structure SamePlan (locale : Collation) (purposeId : Option PurposeId)
    (left right : CapacityEvaluation) : Prop where
  planId : ∀ (PlanId : Type) (digest : PlanFingerprint → PlanId),
    (reconcilePlan locale digest purposeId left).planId =
      (reconcilePlan locale digest purposeId right).planId
  requirements : (actionGroups locale purposeId left).map (·.requirement) =
    (actionGroups locale purposeId right).map (·.requirement)
  actions : plannedActions locale purposeId left = plannedActions locale purposeId right

/-- Every listing of the host has the same plan. -/
def OrderFree (locale : Collation) (purposeId : Option PurposeId) (evaluation : CapacityEvaluation) :
    Prop :=
  ∀ other, Reordered evaluation other → SamePlan locale purposeId evaluation other

/-! ## The condition -/

/-- Of the runtimes that supply the requirement none ranks before this one. -/
def Foremost (locale : Collation) (inventory : SimctlInventory) (requirement : Requirement)
    (runtime : Runtime) : Prop :=
  runtime ∈ supplying inventory requirement ∧
    ∀ other ∈ supplying inventory requirement, compareSetupRuntimes locale runtime other ≠ .gt

/-- Records that share an identifier look the same to the plan. -/
structure Separated (locale : Collation) (purposeId : Option PurposeId)
    (evaluation : CapacityEvaluation) (state : BrokerState) (inventory : SimctlInventory) : Prop where
  deviceTypes : ∀ left ∈ inventory.deviceTypes, ∀ right ∈ inventory.deviceTypes,
    left.identifier = right.identifier → left = right
  runtimes : ∀ left ∈ inventory.runtimes, ∀ right ∈ inventory.runtimes,
    left.identifier = right.identifier →
      left.isAvailable = right.isAvailable ∧ left.version = right.version
  starters : ∀ purpose requirement, Lacking locale purposeId evaluation state purpose requirement →
    ∀ left right, Foremost locale inventory requirement left →
      Foremost locale inventory requirement right →
      ∀ deviceType otherType,
        PreferredDeviceType locale inventory left requirement.deviceFamily deviceType →
        PreferredDeviceType locale inventory right requirement.deviceFamily otherType →
        deviceType.identifier = otherType.identifier

variable {purposeId : Option PurposeId} {evaluation left right : CapacityEvaluation}
  {state : BrokerState} {inventory : SimctlInventory}

def compareAliasFingerprints (locale : Collation) (left right : AliasFingerprint) : Ordering :=
  locale.localeCompare left.aliasName right.aliasName

instance : Std.TransCmp (compareAliasFingerprints locale) :=
  transCmp_on fun hostAlias : AliasFingerprint => hostAlias.aliasName

theorem mem_inventoryTexts_of_runtime {runtime : Runtime} (hmem : runtime ∈ inventory.runtimes) :
    runtime.identifier ∈ inventoryTexts inventory :=
  List.mem_append_right _ (List.mem_flatMap.mpr ⟨runtime, hmem, List.mem_cons_self⟩)

theorem mem_inventoryTexts_of_deviceType {deviceType : DeviceType}
    (hmem : deviceType ∈ inventory.deviceTypes) :
    deviceType.identifier ∈ inventoryTexts inventory :=
  List.mem_append_left _ (List.mem_flatMap.mpr ⟨deviceType, hmem, List.mem_cons_self⟩)

theorem separates_runtimes (hdistinct : locale.Distinguishes (inventoryTexts inventory))
    (hruntimes : ∀ left ∈ inventory.runtimes, ∀ right ∈ inventory.runtimes,
      left.identifier = right.identifier →
        left.isAvailable = right.isAvailable ∧ left.version = right.version) :
    Separates (compareRuntimeFingerprints locale) (inventory.runtimes.map runtimeFingerprint) := by
  intro _ hmapped _ hotherMapped heq
  obtain ⟨first, hfirst, rfl⟩ := List.mem_map.mp hmapped
  obtain ⟨second, hsecond, rfl⟩ := List.mem_map.mp hotherMapped
  have hsame := hdistinct _ (mem_inventoryTexts_of_runtime hfirst) _
    (mem_inventoryTexts_of_runtime hsecond) heq
  exact runtimeFingerprint_eq_iff.mpr ⟨hsame, hruntimes first hfirst second hsecond hsame⟩

/-! ## Enough -/

theorem aliasFingerprint_same {state other : BrokerState} {hostAlias otherAlias : HostAlias}
    (hstate : ReorderedState state other) (hsame : SameAlias hostAlias otherAlias) :
    aliasFingerprint state hostAlias = aliasFingerprint other otherAlias := by
  obtain ⟨capabilities, hperm, rfl⟩ := hsame
  obtain ⟨aliases, -, rfl⟩ := hstate
  unfold aliasFingerprint
  simp only [sortTexts_perm hperm]

/-- Aliases have names of their own. -/
theorem aliasFingerprints_same {state other : BrokerState} (hstate : ReorderedState state other)
    (hdistinct : locale.Distinguishes state.hostConfig.aliasNames)
    (hvalid : state.hostConfig.Valid) :
    ((state.hostConfig.aliases.map (aliasFingerprint state)).insertionSort fun left right =>
        locale.localeCompare left.aliasName right.aliasName ≠ .gt) =
      (other.hostConfig.aliases.map (aliasFingerprint other)).insertionSort fun left right =>
        locale.localeCompare left.aliasName right.aliasName ≠ .gt := by
  have hstate' := hstate
  obtain ⟨aliases, hrelisted, hother⟩ := hstate'
  have haliases : other.hostConfig.aliases = aliases := by
    rw [hother]
  have hmapped := hrelisted.map_perm (aliasFingerprint other) fun first second hsame =>
    (aliasFingerprint_same hstate (SameAlias.refl first)).symm.trans
      (aliasFingerprint_same hstate hsame)
  have himages : aliasFingerprint state = aliasFingerprint other :=
    funext fun hostAlias => aliasFingerprint_same hstate (SameAlias.refl hostAlias)
  rw [himages, haliases]
  refine insertionSort_eq_of_perm (compareAliasFingerprints locale) hmapped ?_
  intro _ hleft _ hright heq
  obtain ⟨first, hfirst, rfl⟩ := List.mem_map.mp hleft
  obtain ⟨second, hsecond, rfl⟩ := List.mem_map.mp hright
  have hname : first.aliasName = second.aliasName :=
    hdistinct _ (List.mem_map_of_mem hfirst) _ (List.mem_map_of_mem hsecond) heq
  rw [List.inj_on_of_nodup_map hvalid.names hfirst hsecond hname]

theorem runtimeFingerprints_perm {other : SimctlInventory}
    (hinventory : ReorderedInventory inventory other) :
    (inventory.runtimes.map runtimeFingerprint).Perm (other.runtimes.map runtimeFingerprint) :=
  hinventory.runtimes.map_perm _ fun _ _ ⟨_, _, hsame⟩ => hsame ▸ rfl

theorem hostFingerprint_same (hreordered : Reordered left right) (hwell : WellFormed locale left)
    (hseparated : ∀ state inventory, left.state = some state → left.inventory = some inventory →
      Separated locale purposeId left state inventory) :
    buildCapacityHostFingerprint locale left = buildCapacityHostFingerprint locale right := by
  have hfresh : left.inventory.isSome = right.inventory.isSome := by
    rcases optionRel_cases hreordered.inventory with ⟨hleft, hright⟩ | ⟨_, _, hleft, hright, -⟩
    · rw [hleft, hright]
    · rw [hleft, hright]
      rfl
  unfold buildCapacityHostFingerprint
  rcases optionRel_cases hreordered.state with ⟨hleft, hright⟩ | ⟨state, other, hleft, hright, hstate⟩
  · simp only [hleft, hright, hreordered.hostConfigured, hfresh]
  · simp only [hleft, hright]
    rw [aliasFingerprints_same hstate (hwell.aliasesDistinct hleft) (hwell.state state hleft),
      hfresh]
    rcases optionRel_cases hreordered.inventory with
      ⟨hnone, hnone'⟩ | ⟨inventory, otherInventory, hsome, hsome', hinventory⟩
    · rw [hnone, hnone']
    · obtain ⟨hdeviceTypes, hruntimes, -⟩ := hseparated state inventory hleft hsome
      rw [hsome, hsome']
      have hdistinct := hwell.inventoryDistinct hsome
      have htypes := insertionSort_eq_of_perm (compareIdentifiers locale) hinventory.deviceTypes
        fun first hfirst second hsecond heq =>
          hdeviceTypes first hfirst second hsecond (hdistinct _
            (mem_inventoryTexts_of_deviceType hfirst) _ (mem_inventoryTexts_of_deviceType hsecond)
            heq)
      have hsorted := insertionSort_eq_of_perm (compareRuntimeFingerprints locale)
        (runtimeFingerprints_perm hinventory) (separates_runtimes hdistinct hruntimes)
      unfold compareIdentifiers at htypes
      unfold compareRuntimeFingerprints at hsorted
      simp only [Option.elim_some, htypes, hsorted]

theorem RanksFirst.foremost {requirement : Requirement} {runtime : Runtime}
    (hfirst : PreferredRuntime locale inventory requirement runtime) :
    Foremost locale inventory requirement runtime :=
  ⟨hfirst.mem, fun _ hmem => hfirst.notBefore hmem⟩

theorem Foremost.same {other : SimctlInventory} {requirement : Requirement}
    {runtime otherRuntime : Runtime} (hinventory : ReorderedInventory inventory other)
    (hforemost : Foremost locale other requirement otherRuntime)
    (hmem : runtime ∈ supplying inventory requirement) (hsame : SameRuntime runtime otherRuntime) :
    Foremost locale inventory requirement runtime := by
  refine ⟨hmem, fun found hfound => ?_⟩
  obtain ⟨relisted, hrelisted, hfoundSame⟩ :=
    (supplying_relisted hinventory requirement).mem_left hfound
  rw [compareSetupRuntimes_same hsame hfoundSame]
  exact hforemost.2 relisted hrelisted

theorem Foremost.mem {requirement : Requirement} {runtime : Runtime}
    (hforemost : Foremost locale inventory requirement runtime) : runtime ∈ inventory.runtimes :=
  List.mem_of_mem_filter (List.mem_of_mem_filter (List.mem_of_mem_filter hforemost.1))

/-- Two foremost runtimes share their identifier. -/
theorem Foremost.identifier {requirement : Requirement} {first second : Runtime}
    (hdistinct : locale.Distinguishes (inventoryTexts inventory))
    (hfirst : Foremost locale inventory requirement first)
    (hsecond : Foremost locale inventory requirement second) : first.identifier = second.identifier := by
  have heq := eq_of_not_gt (hfirst.2 second hsecond.1) (hsecond.2 first hfirst.1)
  unfold compareSetupRuntimes at heq
  rw [Ordering.then_eq_eq, Ordering.then_eq_eq, Ordering.then_eq_eq] at heq
  exact hdistinct _ (mem_inventoryTexts_of_runtime hfirst.mem) _
    (mem_inventoryTexts_of_runtime hsecond.mem) heq.2.2.1

/-- Whatever is missing is supplied alike in every listing. -/
theorem suppliesAlike_of_separated (hreordered : Reordered left right)
    (hwell : WellFormed locale left)
    (hseparated : ∀ state inventory, left.state = some state → left.inventory = some inventory →
      Separated locale purposeId left state inventory) :
    SuppliesAlike locale purposeId left right := by
  intro state inventory purpose requirement provisioning hmissing
  obtain ⟨-, hruntimes, hstarters⟩ :=
    hseparated state inventory hmissing.stateRead hmissing.inventoryRead
  rcases optionRel_cases hreordered.state with ⟨hleft, -⟩ | ⟨_, other, hleft, hright, hstate⟩
  · exact absurd (hleft.symm.trans hmissing.stateRead) (by simp)
  cases hleft.symm.trans hmissing.stateRead
  rcases optionRel_cases hreordered.inventory with
    ⟨hnone, -⟩ | ⟨_, otherInventory, hsome, hsome', hinventory⟩
  · exact absurd (hnone.symm.trans hmissing.inventoryRead) (by simp)
  cases hsome.symm.trans hmissing.inventoryRead
  refine ⟨other, otherInventory, hright, hsome', ?_, ?_⟩
  · obtain ⟨aliases, -, rfl⟩ := hstate
    rfl
  have hrelisted := supplying_relisted hinventory requirement
  have hsupplying : supplying otherInventory requirement ≠ [] :=
    hrelisted.eq_nil_iff.not.mp (List.ne_nil_of_mem hmissing.preferred.runtime.mem)
  obtain ⟨chosen, hchosen⟩ := exists_preferred locale hsupplying
  obtain ⟨runtime, hmem, hsame⟩ := hrelisted.mem_right hchosen.runtime.mem
  have hforemost := RanksFirst.foremost hmissing.preferred.runtime
  have hother := Foremost.same hinventory (RanksFirst.foremost hchosen.runtime) hmem hsame
  have hdistinct := hwell.inventoryDistinct hmissing.inventoryRead
  have hidentifier := hforemost.identifier hdistinct hother
  obtain ⟨-, hversion⟩ := hruntimes _ hforemost.mem _ hother.mem hidentifier
  have hdevice := hstarters purpose requirement ⟨hmissing.selected, hmissing.required⟩ _ _ hforemost
    hother _ _ hmissing.preferred.deviceType
    ((preferredDeviceType_same hinventory hdistinct hother.mem hsame).mpr hchosen.deviceType)
  obtain ⟨types, -, hchosenRuntime⟩ := hsame
  refine ⟨provisioning, chosen, hmissing.preferred, hchosen, ?_, ?_, hdevice⟩
  · rw [hchosenRuntime]
    exact hidentifier
  · rw [hchosenRuntime]
    exact hversion

theorem samePlan_of_separated (hreordered : Reordered left right) (hwell : WellFormed locale left)
    (hseparated : ∀ state inventory, left.state = some state → left.inventory = some inventory →
      Separated locale purposeId left state inventory) : SamePlan locale purposeId left right := by
  have hfingerprint : planFingerprint locale purposeId left = planFingerprint locale purposeId right :=
    (planFingerprint_same_iff hreordered hwell).mpr
      (hostFingerprint_same hreordered hwell hseparated)
  constructor
  · intro PlanId digest
    exact congrArg digest hfingerprint
  · exact publicActions_requirements (publicActions_same hreordered hwell)
  · exact (plannedActions_eq_iff hfingerprint).mpr (suppliesAlike_of_separated hreordered hwell hseparated)

/-! ## Necessary -/

/-- The same host with its runtimes and device types listed otherwise. -/
def withInventory (evaluation : CapacityEvaluation) (inventory : SimctlInventory) :
    CapacityEvaluation :=
  { evaluation with inventory := some inventory }

theorem reordered_withInventory (other : SimctlInventory)
    (hread : evaluation.inventory = some inventory)
    (hdeviceTypes : inventory.deviceTypes.Perm other.deviceTypes)
    (hdevices : inventory.devices = other.devices)
    (hruntimes : inventory.runtimes.Perm other.runtimes) :
    Reordered evaluation (withInventory evaluation other) where
  hostConfigured := rfl
  inventory := by
    rw [hread]
    exact .some ⟨hdeviceTypes, hdevices, relisted_of_perm SameRuntime.refl hruntimes⟩
  project := optionRel_refl ReorderedProject.refl _
  state := optionRel_refl ReorderedState.refl _

/-- Equal fingerprints list the same device types and runtimes. -/
theorem hostFingerprint_inventory {other : SimctlInventory}
    (hstate : evaluation.state = some state) (hread : evaluation.inventory = some inventory)
    (hsame : planFingerprint locale purposeId evaluation =
      planFingerprint locale purposeId (withInventory evaluation other)) :
    (inventory.deviceTypes.insertionSort fun left right => compareIdentifiers locale left right ≠ .gt) =
        (other.deviceTypes.insertionSort fun left right => compareIdentifiers locale left right ≠ .gt) ∧
      ((inventory.runtimes.map runtimeFingerprint).insertionSort
          fun left right => compareRuntimeFingerprints locale left right ≠ .gt) =
        (other.runtimes.map runtimeFingerprint).insertionSort
          fun left right => compareRuntimeFingerprints locale left right ≠ .gt := by
  have hhost := congrArg PlanFingerprint.host hsame
  simp only [planFingerprint, buildCapacityHostFingerprint, withInventory, hstate,
    hread, Option.elim_some, HostFingerprint.read.injEq] at hhost
  exact ⟨hhost.2.1, hhost.2.2.1⟩

theorem planFingerprint_of_orderFree (hfree : OrderFree locale purposeId evaluation)
    (hreordered : Reordered evaluation right) :
    planFingerprint locale purposeId evaluation = planFingerprint locale purposeId right :=
  (hfree right hreordered).planId PlanFingerprint id

theorem deviceTypes_of_orderFree (hfree : OrderFree locale purposeId evaluation)
    (hstate : evaluation.state = some state) (hread : evaluation.inventory = some inventory) :
    Separates (compareIdentifiers locale) inventory.deviceTypes := by
  have hseparates : Separates (compareIdentifiers locale) (inventory.deviceTypes.map id) :=
    separates_of_insertionSort fun other hperm => by
      have hreordered := reordered_withInventory { inventory with deviceTypes := other } hread
        hperm rfl (.refl _)
      rw [List.map_id, List.map_id]
      exact (hostFingerprint_inventory hstate hread
        (planFingerprint_of_orderFree hfree hreordered)).1.symm
  rwa [List.map_id] at hseparates

theorem runtimes_of_orderFree (hfree : OrderFree locale purposeId evaluation)
    (hstate : evaluation.state = some state) (hread : evaluation.inventory = some inventory) :
    Separates (compareRuntimeFingerprints locale) (inventory.runtimes.map runtimeFingerprint) := by
  refine separates_of_insertionSort fun other hperm => ?_
  have hreordered := reordered_withInventory { inventory with runtimes := other } hread (.refl _) rfl
    hperm
  exact (hostFingerprint_inventory hstate hread
    (planFingerprint_of_orderFree hfree hreordered)).2.symm

/-- Listed first, a foremost runtime is what the requirement is provisioned with. -/
theorem preferred_of_front (hdistinct : locale.Distinguishes (inventoryTexts inventory))
    {requirement : Requirement} {runtime : Runtime} {deviceType : DeviceType}
    {rest : List Runtime} (hperm : inventory.runtimes.Perm (runtime :: rest))
    (hforemost : Foremost locale inventory requirement runtime)
    (hpreferred : PreferredDeviceType locale inventory runtime requirement.deviceFamily deviceType) :
    Preferred locale { inventory with runtimes := runtime :: rest } requirement
      { runtime, deviceType } := by
  have hinventory : ReorderedInventory inventory { inventory with runtimes := runtime :: rest } :=
    ⟨.refl _, rfl, relisted_of_perm SameRuntime.refl hperm⟩
  refine ⟨?_, (preferredDeviceType_same hinventory hdistinct hforemost.mem
    (SameRuntime.refl runtime)).mp hpreferred⟩
  obtain ⟨hmatching, hsupplies⟩ := List.mem_filter.mp hforemost.1
  obtain ⟨havailable, hversion⟩ := List.mem_filter.mp hmatching
  have havailable := (List.mem_filter.mp havailable).2
  refine ⟨[], ((rest.filter isAvailableIosRuntime).filter fun found =>
    runtimeMatchesRequestedVersion found (requirement.iosVersion.getD "")).filter fun found =>
      runtimeSuppliesDeviceFamily found { inventory with runtimes := runtime :: rest }
        requirement.deviceFamily, ?_, ?_, ?_⟩
  · rw [supplies_same hinventory (SameRuntime.refl runtime)] at hsupplies
    simp only [supplying, matchingRuntimes, List.filter_cons, havailable, hversion, hsupplies, ↓reduceIte,
      List.nil_append]
  · intro other hother
    cases hother
  · intro other hother
    obtain ⟨hmem, hsupplies'⟩ := List.mem_filter.mp hother
    obtain ⟨hmem, hversion'⟩ := List.mem_filter.mp hmem
    obtain ⟨hmem, havailable'⟩ := List.mem_filter.mp hmem
    refine hforemost.2 other (List.mem_filter.mpr ⟨List.mem_filter.mpr ⟨List.mem_filter.mpr
      ⟨?_, havailable'⟩, hversion'⟩, hsupplies'⟩)
    exact hperm.mem_iff.mpr (List.mem_cons_of_mem _ hmem)

theorem Preferred.same_unique {other : SimctlInventory} {requirement : Requirement}
    {provisioning otherProvisioning : Provisioning}
    (hleft : Preferred locale inventory requirement provisioning)
    (hright : Preferred locale other requirement otherProvisioning)
    (halike : PreferredAlike locale requirement inventory other) :
    provisioning.deviceType.identifier = otherProvisioning.deviceType.identifier := by
  obtain ⟨first, second, hfirst, hsecond, -, -, hdevice⟩ := halike
  rw [hfirst.unique hleft, hsecond.unique hright] at hdevice
  exact hdevice

theorem starters_of_orderFree (hfree : OrderFree locale purposeId evaluation)
    (hwell : WellFormed locale evaluation)
    (hstate : evaluation.state = some state) (hread : evaluation.inventory = some inventory)
    {purpose : Purpose} {requirement : Requirement}
    (hlacking : Lacking locale purposeId evaluation state purpose requirement)
    {first second : Runtime} (hfirst : Foremost locale inventory requirement first)
    (hsecond : Foremost locale inventory requirement second) {deviceType otherType : DeviceType}
    (hpreferred : PreferredDeviceType locale inventory first requirement.deviceFamily deviceType)
    (hother : PreferredDeviceType locale inventory second requirement.deviceFamily otherType) :
    deviceType.identifier = otherType.identifier := by
  obtain ⟨rest, hperm⟩ := exists_perm_cons hfirst.mem
  obtain ⟨otherRest, hotherPerm⟩ := exists_perm_cons hsecond.mem
  have hleft := reordered_withInventory { inventory with runtimes := first :: rest } hread
    (.refl _) rfl hperm
  have hright := reordered_withInventory { inventory with runtimes := second :: otherRest } hread
    (.refl _) rfl hotherPerm
  -- both listings have the plan of the first, so they supply alike what is missing
  have hfingerprint := (planFingerprint_of_orderFree hfree hleft).symm.trans
    (planFingerprint_of_orderFree hfree hright)
  have hactions := (hfree _ hleft).actions.symm.trans (hfree _ hright).actions
  have halike := (plannedActions_eq_iff hfingerprint).mp hactions
  have hdistinct := hwell.inventoryDistinct hread
  have hfront := preferred_of_front hdistinct hperm hfirst hpreferred
  obtain ⟨-, read, -, hread', -, hpreferredAlike⟩ := halike state _ purpose requirement _
    ⟨hlacking.selected, hstate, rfl, hlacking.required, hfront⟩
  cases hread'
  exact hfront.same_unique (preferred_of_front hdistinct hotherPerm hsecond hother) hpreferredAlike

/-- The plan does not depend on the listing exactly where records that share an identifier look
the same to it. -/
theorem orderFree_iff (locale : Collation) (purposeId : Option PurposeId) (evaluation : CapacityEvaluation)
    (hwell : WellFormed locale evaluation) :
    OrderFree locale purposeId evaluation ↔
      ∀ state inventory, evaluation.state = some state → evaluation.inventory = some inventory →
        Separated locale purposeId evaluation state inventory := by
  constructor
  · intro hfree state inventory hstate hread
    constructor
    · intro first hfirst second hsecond hsame
      refine deviceTypes_of_orderFree hfree hstate hread first hfirst second hsecond ?_
      unfold compareIdentifiers
      rw [hsame]
      exact Std.ReflCmp.compare_self
    · intro first hfirst second hsecond hsame
      refine (runtimeFingerprint_eq_iff.mp (runtimes_of_orderFree hfree hstate hread _
        (List.mem_map_of_mem hfirst) _ (List.mem_map_of_mem hsecond) ?_)).2
      unfold compareRuntimeFingerprints runtimeFingerprint
      rw [hsame]
      exact Std.ReflCmp.compare_self
    · intro purpose requirement hlacking first second hfirst hsecond _ _ hpreferred hother
      exact starters_of_orderFree hfree hwell hstate hread hlacking hfirst hsecond hpreferred hother
  · exact fun hseparated other hreordered => samePlan_of_separated hreordered hwell hseparated

/-! ## One runtime listed twice -/

/-- A host whose service lists these runtimes. -/
def offering (runtimes : List Runtime) : CapacityEvaluation :=
  withInventory previewed {
    deviceTypes := [deviceTypeNamed "iPhone 16", deviceTypeNamed "iPhone 17"], devices := []
    runtimes }

def runtimeRecord (isAvailable : Bool) : Runtime where
  identifier := "com.apple.CoreSimulator.SimRuntime.iOS-26-4"
  isAvailable := isAvailable
  version := some "26.4"
  supportedDeviceTypes := [deviceTypeNamed "iPhone 16"]

theorem wellFormed_offering (runtimes : List Runtime) : WellFormed .root (offering runtimes) where
  distinct := Collation.distinguishes_root _
  state := by
    rintro _ ⟨⟩
    exact ⟨List.nodup_nil, List.nodup_nil, by decide +kernel⟩
  project := by
    rintro _ ⟨⟩
    simp

theorem orderFree_offering_iff :
    OrderFree .root none (offering [runtimeRecord true]) ↔
      ∀ state inventory, (offering [runtimeRecord true]).state = some state →
        (offering [runtimeRecord true]).inventory = some inventory →
          Separated .root none (offering [runtimeRecord true]) state inventory :=
  orderFree_iff .root none _ (wellFormed_offering _)

/-- The records of one runtime, one of them unavailable: the plan id tells which comes first. -/
theorem listedTwice_not_orderFree :
    ¬∀ (locale : Collation) (purposeId : Option PurposeId) (evaluation : CapacityEvaluation),
      WellFormed locale evaluation → OrderFree locale purposeId evaluation := by
  intro hall
  have hfree := hall .root none (offering [runtimeRecord true, runtimeRecord false])
    (wellFormed_offering _)
  have hreordered : Reordered (offering [runtimeRecord true, runtimeRecord false])
      (offering [runtimeRecord false, runtimeRecord true]) :=
    reordered_withInventory _ rfl (.refl _) rfl (.swap _ _ _)
  have hsame := congrArg PlanFingerprint.host
    ((hfree _ hreordered).planId PlanFingerprint id)
  revert hsame
  decide +kernel

end SimulatorBroker.Capacity
