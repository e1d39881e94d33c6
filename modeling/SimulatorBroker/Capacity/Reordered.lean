import SimulatorBroker.Capacity.Confirmed

/-!
# Another listing of the same host

The aliases, the purposes, the runtimes, the device types and the capabilities of an alias
in another order, and what an evaluation does not see of it.
-/

namespace SimulatorBroker.Capacity

open State Broker Ranking

variable {locale : Collation}

/-! ## Listings -/

/-- The items in another order, each listed in its own way. -/
def Relisted {α : Type} (same : α → α → Prop) (left right : List α) : Prop :=
  ∃ middle, left.Perm middle ∧ List.Forall₂ same middle right

/-- The same alias, with its capabilities in another order. -/
def SameAlias (left right : HostAlias) : Prop :=
  ∃ capabilities, left.capabilities.Perm capabilities ∧ right = { left with capabilities }

/-- The same runtime, with its device types in another order. -/
def SameRuntime (left right : Runtime) : Prop :=
  ∃ supportedDeviceTypes, left.supportedDeviceTypes.Perm supportedDeviceTypes ∧
    right = { left with supportedDeviceTypes }

structure ReorderedInventory (left right : SimctlInventory) : Prop where
  deviceTypes : left.deviceTypes.Perm right.deviceTypes
  devices : left.devices = right.devices
  runtimes : Relisted SameRuntime left.runtimes right.runtimes

def ReorderedProject (left right : ProjectConfig) : Prop :=
  ∃ purposes, left.purposes.Perm purposes ∧ right = { left with purposes }

def ReorderedState (left right : BrokerState) : Prop :=
  ∃ aliases, Relisted SameAlias left.hostConfig.aliases aliases ∧
    right = { left with hostConfig := { left.hostConfig with aliases } }

/-- The same state, project and inventory in another listing. -/
structure Reordered (left right : CapacityEvaluation) : Prop where
  hostConfigured : left.hostConfigured = right.hostConfigured
  inventory : Option.Rel ReorderedInventory left.inventory right.inventory
  project : Option.Rel ReorderedProject left.project right.project
  state : Option.Rel ReorderedState left.state right.state

def deviceTypeTexts (deviceType : DeviceType) : List String :=
  [deviceType.identifier, deviceType.name]

def inventoryTexts (inventory : SimctlInventory) : List String :=
  inventory.deviceTypes.flatMap deviceTypeTexts ++ inventory.runtimes.flatMap fun runtime =>
    runtime.identifier :: runtime.supportedDeviceTypes.flatMap deviceTypeTexts

/-- The texts by which the lists of an evaluation are sorted. -/
def sortedTexts (evaluation : CapacityEvaluation) : List String :=
  evaluation.state.elim [] (·.hostConfig.aliasNames)
    ++ evaluation.project.elim [] (·.purposes.map (·.id))
    ++ evaluation.inventory.elim [] inventoryTexts

/-- What the readers of a host config and of a project file check, and that the order of texts is
total on what is sorted. -/
structure WellFormed (locale : Collation) (evaluation : CapacityEvaluation) : Prop where
  distinct : locale.Distinguishes (sortedTexts evaluation)
  state : ∀ state, evaluation.state = some state → state.hostConfig.Valid
  project : ∀ project, evaluation.project = some project → (project.purposes.map (·.id)).Nodup

namespace WellFormed

variable {evaluation : CapacityEvaluation}

theorem aliasesDistinct (hwell : WellFormed locale evaluation) {state : BrokerState}
    (hstate : evaluation.state = some state) :
    locale.Distinguishes state.hostConfig.aliasNames := by
  refine hwell.distinct.mono fun text hmem => ?_
  unfold sortedTexts
  rw [hstate]
  exact List.mem_append_left _ (List.mem_append_left _ hmem)

theorem purposesDistinct (hwell : WellFormed locale evaluation) {project : ProjectConfig}
    (hproject : evaluation.project = some project) :
    locale.Distinguishes (project.purposes.map (·.id)) := by
  refine hwell.distinct.mono fun text hmem => ?_
  unfold sortedTexts
  rw [hproject]
  exact List.mem_append_left _ (List.mem_append_right _ hmem)

theorem inventoryDistinct (hwell : WellFormed locale evaluation) {inventory : SimctlInventory}
    (hinventory : evaluation.inventory = some inventory) :
    locale.Distinguishes (inventoryTexts inventory) := by
  refine hwell.distinct.mono fun text hmem => ?_
  unfold sortedTexts
  rw [hinventory]
  exact List.mem_append_right _ hmem

end WellFormed

section Relisted

variable {α β : Type} {same : α → α → Prop} {left right : List α}

/-- What does not depend on the listing of an item is the same up to the order. -/
theorem Relisted.map_perm (hrelisted : Relisted same left right) (image : α → β)
    (himage : ∀ first second, same first second → image first = image second) :
    (left.map image).Perm (right.map image) := by
  obtain ⟨middle, hperm, hsame⟩ := hrelisted
  refine (hperm.map image).trans ?_
  clear hperm
  induction hsame with
  | nil => exact .refl _
  | cons hhead _ ih =>
      rw [List.map_cons, List.map_cons, himage _ _ hhead]
      exact ih.cons _

theorem Relisted.filter (hrelisted : Relisted same left right) {test otherTest : α → Bool}
    (htest : ∀ first second, same first second → test first = otherTest second) :
    Relisted same (left.filter test) (right.filter otherTest) := by
  obtain ⟨middle, hperm, hsame⟩ := hrelisted
  refine ⟨middle.filter test, hperm.filter test, ?_⟩
  clear hperm
  induction hsame with
  | nil => exact .nil
  | cons hhead _ ih =>
      rw [List.filter_cons, List.filter_cons, htest _ _ hhead]
      split
      · exact .cons hhead ih
      · exact ih

theorem Relisted.mem_right (hrelisted : Relisted same left right) {second : α}
    (hmem : second ∈ right) : ∃ first ∈ left, same first second := by
  obtain ⟨middle, hperm, hsame⟩ := hrelisted
  induction hsame generalizing left with
  | nil => cases hmem
  | @cons first other middle right hhead _ ih =>
      rcases List.mem_cons.mp hmem with rfl | hrest
      · exact ⟨first, hperm.mem_iff.mpr List.mem_cons_self, hhead⟩
      · obtain ⟨found, hfound, hsame⟩ := ih hrest (.refl _)
        exact ⟨found, hperm.mem_iff.mpr (List.mem_cons_of_mem _ hfound), hsame⟩

theorem Relisted.mem_left (hrelisted : Relisted same left right) {first : α}
    (hmem : first ∈ left) : ∃ second ∈ right, same first second := by
  obtain ⟨middle, hperm, hsame⟩ := hrelisted
  have hmem := hperm.mem_iff.mp hmem
  clear hperm
  induction hsame with
  | nil => cases hmem
  | cons hhead _ ih =>
      rcases List.mem_cons.mp hmem with rfl | hrest
      · exact ⟨_, List.mem_cons_self, hhead⟩
      · obtain ⟨found, hfound, hsame⟩ := ih hrest
        exact ⟨found, List.mem_cons_of_mem _ hfound, hsame⟩

theorem Relisted.eq_nil_iff (hrelisted : Relisted same left right) : left = [] ↔ right = [] := by
  obtain ⟨middle, hperm, hsame⟩ := hrelisted
  rw [← List.length_eq_zero_iff, ← List.length_eq_zero_iff, hperm.length_eq, hsame.length_eq]

/-- Only the order differs. -/
theorem relisted_of_perm (hrefl : ∀ item, same item item) (hperm : left.Perm right) :
    Relisted same left right :=
  ⟨right, hperm, List.forall₂_same.mpr fun item _ => hrefl item⟩

end Relisted

theorem SameAlias.refl (hostAlias : HostAlias) : SameAlias hostAlias hostAlias :=
  ⟨hostAlias.capabilities, .refl _, rfl⟩

theorem SameRuntime.refl (runtime : Runtime) : SameRuntime runtime runtime :=
  ⟨runtime.supportedDeviceTypes, .refl _, rfl⟩

theorem ReorderedState.refl (state : BrokerState) : ReorderedState state state :=
  ⟨state.hostConfig.aliases, relisted_of_perm SameAlias.refl (.refl _), rfl⟩

theorem ReorderedProject.refl (project : ProjectConfig) : ReorderedProject project project :=
  ⟨project.purposes, .refl _, rfl⟩

theorem optionRel_refl {α : Type} {same : α → α → Prop} (hrefl : ∀ item, same item item)
    (item : Option α) : Option.Rel same item item := by
  cases item with
  | none => exact .none
  | some item => exact .some (hrefl item)

theorem optionRel_cases {α : Type} {same : α → α → Prop} {left right : Option α}
    (hrel : Option.Rel same left right) :
    (left = none ∧ right = none) ∨
      ∃ first second, left = some first ∧ right = some second ∧ same first second := by
  cases hrel with
  | none => exact .inl ⟨rfl, rfl⟩
  | some hsame => exact .inr ⟨_, _, rfl, rfl, hsame⟩

/-! ## Texts -/

theorem compareSetupRuntimes_same {left left' right right' : Runtime}
    (hleft : SameRuntime left left') (hright : SameRuntime right right') :
    compareSetupRuntimes locale left right = compareSetupRuntimes locale left' right' := by
  have hkey : ∀ {runtime other : Runtime}, SameRuntime runtime other →
      setupRuntimeSupportedTypeKey runtime = setupRuntimeSupportedTypeKey other := by
    rintro runtime _ ⟨types, hperm, rfl⟩
    exact setupRuntimeSupportedTypeKey_perm hperm
  have hleftKey := hkey hleft
  have hrightKey := hkey hright
  obtain ⟨types, -, rfl⟩ := hleft
  obtain ⟨otherTypes, -, rfl⟩ := hright
  unfold compareSetupRuntimes
  rw [hleftKey, hrightKey]

/-! ## Provisioning -/

section Provisioning

variable {inventory other : SimctlInventory} {runtime otherRuntime : Runtime}
  {deviceFamily : DeviceFamily} {requirement : Requirement}

theorem runtimeSupportedDeviceTypes_perm (hinventory : ReorderedInventory inventory other)
    (hsame : SameRuntime runtime otherRuntime) :
    (runtimeSupportedDeviceTypes runtime inventory).Perm
      (runtimeSupportedDeviceTypes otherRuntime other) := by
  obtain ⟨types, hperm, rfl⟩ := hsame
  unfold runtimeSupportedDeviceTypes
  have hnil : runtime.supportedDeviceTypes = [] ↔ types = [] := by
    rw [← List.length_eq_zero_iff, ← List.length_eq_zero_iff, hperm.length_eq]
  by_cases hempty : types = []
  · rw [if_pos (hnil.mpr hempty), if_pos hempty]
    exact hinventory.deviceTypes
  · rw [if_neg (hnil.not.mpr hempty), if_neg hempty]
    exact hperm

theorem supplies_same (hinventory : ReorderedInventory inventory other)
    (hsame : SameRuntime runtime otherRuntime) :
    runtimeSuppliesDeviceFamily runtime inventory deviceFamily =
      runtimeSuppliesDeviceFamily otherRuntime other deviceFamily := by
  unfold runtimeSuppliesDeviceFamily
  exact (runtimeSupportedDeviceTypes_perm hinventory hsame).any_eq

theorem matchingRuntimes_relisted (hinventory : ReorderedInventory inventory other)
    (iosVersion : Option String) :
    Relisted SameRuntime (matchingRuntimes inventory iosVersion)
      (matchingRuntimes other iosVersion) := by
  unfold matchingRuntimes
  refine (hinventory.runtimes.filter ?_).filter ?_
  · rintro first _ ⟨types, -, rfl⟩
    rfl
  · rintro first _ ⟨types, -, rfl⟩
    rfl

theorem supplying_relisted (hinventory : ReorderedInventory inventory other)
    (requirement : Requirement) :
    Relisted SameRuntime (supplying inventory requirement) (supplying other requirement) := by
  unfold supplying
  exact (matchingRuntimes_relisted hinventory requirement.iosVersion).filter
    fun _ _ hsame => supplies_same hinventory hsame

theorem mem_inventoryTexts (hruntime : runtime ∈ inventory.runtimes) {deviceType : DeviceType}
    (hmem : deviceType ∈ completeDeviceTypes inventory runtime deviceFamily) :
    deviceType.identifier ∈ inventoryTexts inventory ∧
      deviceType.name ∈ inventoryTexts inventory := by
  have htexts : ∀ text ∈ deviceTypeTexts deviceType, text ∈ inventoryTexts inventory := by
    intro text htext
    have hsupported := List.mem_of_mem_filter hmem
    unfold runtimeSupportedDeviceTypes at hsupported
    split at hsupported
    · exact List.mem_append_left _ (List.mem_flatMap.mpr ⟨deviceType, hsupported, htext⟩)
    · exact List.mem_append_right _ (List.mem_flatMap.mpr ⟨runtime, hruntime,
        List.mem_cons_of_mem _ (List.mem_flatMap.mpr ⟨deviceType, hsupported, htext⟩)⟩)
  exact ⟨htexts _ List.mem_cons_self, htexts _ (List.mem_cons_of_mem _ List.mem_cons_self)⟩

/-- The types are of one family, so their names and identifiers are all of them. -/
theorem separates_completeDeviceTypes (hdistinct : locale.Distinguishes (inventoryTexts inventory))
    (hruntime : runtime ∈ inventory.runtimes) :
    Separates (compareSetupDeviceTypes locale)
      (completeDeviceTypes inventory runtime deviceFamily) := by
  intro left hleft right hright heq
  unfold compareSetupDeviceTypes at heq
  rw [Ordering.then_eq_eq] at heq
  obtain ⟨hleftIdentifier, hleftName⟩ := mem_inventoryTexts hruntime hleft
  obtain ⟨hrightIdentifier, hrightName⟩ := mem_inventoryTexts hruntime hright
  have hidentifier := hdistinct _ hleftIdentifier _ hrightIdentifier heq.1
  have hname := hdistinct _ hleftName _ hrightName heq.2
  have hfamily : ∀ deviceType ∈ completeDeviceTypes inventory runtime deviceFamily,
      deviceType.productFamily = some deviceFamily := by
    intro deviceType hmem
    have hcomplete := (List.mem_filter.mp hmem).2
    simp only [isCompleteSetupDeviceType, Bool.and_eq_true, decide_eq_true_eq] at hcomplete
    exact hcomplete.1
  have hsame := (hfamily left hleft).trans (hfamily right hright).symm
  cases left
  cases right
  simp only at hidentifier hname hsame
  rw [hidentifier, hname, hsame]

theorem completeDeviceTypes_perm (hinventory : ReorderedInventory inventory other)
    (hsame : SameRuntime runtime otherRuntime) :
    (completeDeviceTypes inventory runtime deviceFamily).Perm
      (completeDeviceTypes other otherRuntime deviceFamily) :=
  (runtimeSupportedDeviceTypes_perm hinventory hsame).filter _

/-- A preferred device type does not depend on the listing. -/
theorem preferredDeviceType_same {deviceType : DeviceType}
    (hinventory : ReorderedInventory inventory other)
    (hdistinct : locale.Distinguishes (inventoryTexts inventory))
    (hruntime : runtime ∈ inventory.runtimes) (hsame : SameRuntime runtime otherRuntime) :
    PreferredDeviceType locale inventory runtime deviceFamily deviceType ↔
      PreferredDeviceType locale other otherRuntime deviceFamily deviceType := by
  have hperm : (completeDeviceTypes inventory runtime deviceFamily).Perm
      (completeDeviceTypes other otherRuntime deviceFamily) :=
    completeDeviceTypes_perm hinventory hsame
  have hall : Separates (compareSetupDeviceTypes locale)
      (completeDeviceTypes inventory runtime deviceFamily) :=
    separates_completeDeviceTypes hdistinct hruntime
  have hpreferred : Separates (comparePreferredDeviceTypes locale)
      ((completeDeviceTypes inventory runtime deviceFamily).filter fun other =>
        isPreferredDeviceName deviceFamily other.name) := by
    intro left hleft right hright heq
    unfold comparePreferredDeviceTypes at heq
    rw [Ordering.then_eq_eq] at heq
    exact hall left (List.mem_of_mem_filter hleft) right (List.mem_of_mem_filter hright) heq.2
  unfold PreferredDeviceType
  dsimp only
  rw [← head?_insertionSort, ← head?_insertionSort, ← head?_insertionSort, ← head?_insertionSort,
    insertionSort_eq_of_perm _ hperm hall, insertionSort_eq_of_perm _ (hperm.filter _) hpreferred]
  have hnil := (hperm.filter fun other => isPreferredDeviceName deviceFamily other.name).length_eq
  rw [← List.length_eq_zero_iff, hnil, List.length_eq_zero_iff]

/-- Stands for any runtime and device type. -/
def anyProvisioning : Provisioning where
  runtime := { identifier := "", version := none }
  deviceType := { identifier := "", name := "", productFamily := none }

/-- Both provisionings fail alike, or neither fails. -/
def ProvisionedAlike (left right : Except BlockingReason Provisioning) : Prop :=
  (left.map fun _ => anyProvisioning) = right.map fun _ => anyProvisioning

/-- How a provisioning ends. -/
theorem capacityProvisioningForRequirement_map :
    ((capacityProvisioningForRequirement locale (some inventory) requirement).map
        fun _ => anyProvisioning) =
      if matchingRuntimes inventory requirement.iosVersion = [] then .error .runtimeNotFound
      else if supplying inventory requirement = [] then .error .deviceTypeNotFound
      else .ok anyProvisioning := by
  by_cases hsupplying : supplying inventory requirement = []
  · have hsorted : supplyingRuntimes locale inventory requirement.iosVersion requirement.deviceFamily =
        [] := by
      unfold supplyingRuntimes
      unfold supplying at hsupplying
      rw [hsupplying]
      rfl
    by_cases hmatching : matchingRuntimes inventory requirement.iosVersion = []
    · have hruntime : selectRuntimeFromInventory locale inventory requirement.iosVersion
          requirement.deviceFamily = .error .runtimeNotFound := if_pos hmatching
      rw [if_pos hmatching, capacityProvisioningForRequirement]
      simp only [hruntime]
      rfl
    · have hruntime : selectRuntimeFromInventory locale inventory requirement.iosVersion
          requirement.deviceFamily = .error .deviceTypeNotFound := by
        unfold selectRuntimeFromInventory
        rw [if_neg hmatching, hsorted]
      rw [if_neg hmatching, if_pos hsupplying, capacityProvisioningForRequirement]
      simp only [hruntime]
      rfl
  · have hmatching : matchingRuntimes inventory requirement.iosVersion ≠ [] := by
      intro hnone
      unfold supplying at hsupplying
      exact hsupplying (by rw [hnone]; rfl)
    obtain ⟨provisioning, hpreferred⟩ := exists_preferred locale hsupplying
    rw [if_neg hmatching, if_neg hsupplying,
      capacityProvisioningForRequirement_iff.mpr hpreferred]
    rfl

theorem provisionedAlike_requirement {left right : Option SimctlInventory}
    (hinventory : Option.Rel ReorderedInventory left right) (requirement : Requirement) :
    ProvisionedAlike (capacityProvisioningForRequirement locale left requirement)
      (capacityProvisioningForRequirement locale right requirement) := by
  unfold ProvisionedAlike
  cases hinventory with
  | none => rfl
  | some hinventory =>
      rw [capacityProvisioningForRequirement_map, capacityProvisioningForRequirement_map]
      have hmatching := (matchingRuntimes_relisted hinventory requirement.iosVersion).eq_nil_iff
      have hsupplying := (supplying_relisted hinventory requirement).eq_nil_iff
      simp only [hmatching, hsupplying]

theorem provisionedAlike {left right : Option SimctlInventory}
    (hinventory : Option.Rel ReorderedInventory left right) (purpose : Purpose) :
    ProvisionedAlike (capacityProvisioning locale left purpose) (capacityProvisioning locale right purpose) := by
  unfold capacityProvisioning
  cases capacityProvisioningPolicy purpose with
  | none => rfl
  | some requirement => exact provisionedAlike_requirement hinventory requirement

end Provisioning

/-! ## Candidates -/

section Candidates

variable {state other : BrokerState} {project otherProject : ProjectConfig} {purpose : Purpose}

/-- The reasons against the aliases of the right kind. -/
def structuralReasons (state : BrokerState) (project : ProjectConfig) (purpose : Purpose) :
    List (List CandidateReason) :=
  (structuralCandidates state project purpose).map (·.reasons)

/-- The reasons against one alias; `none` when it is of another kind. -/
def aliasReasons (state : BrokerState) (project : ProjectConfig) (purpose : Purpose)
    (hostAlias : HostAlias) : Option (List CandidateReason) :=
  if structuralCapacityMatches hostAlias purpose (capacityProvisioningPolicy purpose) then
    (state.entry hostAlias.aliasName).map
      (candidateReasons state purpose project none hostAlias)
  else none

theorem structuralReasons_eq :
    structuralReasons state project purpose =
      state.hostConfig.aliases.filterMap (aliasReasons state project purpose) := by
  unfold structuralReasons structuralCandidates buildCandidateAnalysis
  rw [List.filter_filterMap, List.map_filterMap]
  conv_rhs => rw [← List.zipIdx_map_fst 0 state.hostConfig.aliases, List.filterMap_map]
  refine List.filterMap_congr fun listed _ => ?_
  unfold aliasReasons
  dsimp only [Function.comp_apply]
  cases state.entry listed.1.aliasName with
  | none => simp
  | some entry =>
      simp only [Option.map_some, Option.filter_some]
      split
      · rfl
      · rfl

theorem aliasReasons_same {hostAlias otherAlias : HostAlias} (hsame : SameAlias hostAlias otherAlias)
    (hstate : ReorderedState state other) (hproject : ReorderedProject project otherProject) :
    aliasReasons state project purpose hostAlias =
      aliasReasons other otherProject purpose otherAlias := by
  obtain ⟨capabilities, hperm, rfl⟩ := hsame
  obtain ⟨aliases, -, rfl⟩ := hstate
  obtain ⟨purposes, -, rfl⟩ := hproject
  unfold aliasReasons structuralCapacityMatches candidateReasons
  simp only [hperm.mem_iff]
  rfl

theorem structuralReasons_perm (purpose : Purpose) (hstate : ReorderedState state other)
    (hproject : ReorderedProject project otherProject) :
    (structuralReasons state project purpose).Perm
      (structuralReasons other otherProject purpose) := by
  have hstate' := hstate
  obtain ⟨aliases, hrelisted, hother⟩ := hstate'
  have haliases : other.hostConfig.aliases = aliases := by
    rw [hother]
  have hmapped := hrelisted.map_perm
    (aliasReasons state project purpose) fun first second hsame =>
      (aliasReasons_same hsame hstate hproject).trans
        (aliasReasons_same (SameAlias.refl second) hstate hproject).symm
  rw [structuralReasons_eq, structuralReasons_eq, haliases]
  have hreasons : aliasReasons other otherProject purpose = aliasReasons state project purpose :=
    funext fun hostAlias => (aliasReasons_same (SameAlias.refl hostAlias) hstate hproject).symm
  rw [hreasons]
  have hfiltered := hmapped.filterMap id
  rwa [List.filterMap_map, List.filterMap_map] at hfiltered

theorem availableCandidates_eq_nil_iff :
    availableCandidates state project purpose = [] ↔
      [] ∉ structuralReasons state project purpose := by
  unfold availableCandidates structuralReasons
  rw [List.filter_eq_nil_iff, List.mem_map]
  constructor
  · rintro hnone ⟨candidate, hmem, hempty⟩
    exact hnone candidate hmem (by rw [hempty]; rfl)
  · intro hnone candidate hmem hempty
    exact hnone ⟨candidate, hmem, List.isEmpty_iff.mp hempty⟩

theorem structuralCandidates_eq_nil_iff :
    structuralCandidates state project purpose = [] ↔
      structuralReasons state project purpose = [] := by
  unfold structuralReasons
  exact List.map_eq_nil_iff.symm

theorem nodup_eraseDups (reasons : List BlockingReason) : reasons.eraseDups.Nodup := by
  induction hlength : reasons.length using Nat.strong_induction_on generalizing reasons with
  | _ length ih =>
      cases reasons with
      | nil => exact List.nodup_nil
      | cons reason rest =>
          rw [List.eraseDups_cons, List.nodup_cons]
          constructor
          · rw [List.mem_eraseDups, List.mem_filter]
            simp
          · refine ih _ ?_ _ rfl
            rw [← hlength, List.length_cons]
            exact Nat.lt_succ_of_le (List.length_filter_le _ _)

theorem candidateReasonCodes_perm {left right : List Candidate}
    (hperm : (left.map (·.reasons)).Perm (right.map (·.reasons))) :
    (candidateReasonCodes left).Perm (candidateReasonCodes right) := by
  unfold candidateReasonCodes
  have hflat : (left.flatMap (·.reasons)).Perm (right.flatMap (·.reasons)) := by
    have hjoined := hperm.flatten
    rwa [← List.flatMap_def, ← List.flatMap_def] at hjoined
  refine (List.perm_ext_iff_of_nodup (nodup_eraseDups _) (nodup_eraseDups _)).mpr ?_
  intro reason
  rw [List.mem_eraseDups, List.mem_eraseDups]
  exact (hflat.filterMap _).mem_iff

end Candidates

/-! ## Evaluations -/

/-- An evaluation without the runtime and the device type it would be provisioned with. -/
def PurposeEvaluation.outline (evaluated : PurposeEvaluation) : PurposeEvaluation :=
  { evaluated with provisioning := evaluated.provisioning.map fun _ => anyProvisioning }

def ActionGroup.outline (group : ActionGroup) : ActionGroup :=
  { group with first := group.first.outline, others := group.others.map (·.outline) }

section Evaluations

variable {inventory otherInventory : Option SimctlInventory} {state other : BrokerState}
  {project otherProject : ProjectConfig} {purpose : Purpose}

theorem recommendedUnlessBlocked_alike {left right : Except BlockingReason Provisioning}
    {otherwise : RecommendedAction} (halike : ProvisionedAlike left right) :
    recommendedUnlessBlocked left otherwise = recommendedUnlessBlocked right otherwise := by
  unfold ProvisionedAlike at halike
  cases left with
  | error blocker =>
      cases right with
      | error blocker' =>
          cases halike
          rfl
      | ok provisioning => cases halike
  | ok provisioning =>
      cases right with
      | error blocker => cases halike
      | ok provisioning' => rfl

theorem evaluateMissingCapacity_outline
    (halike : ProvisionedAlike (capacityProvisioning locale inventory purpose)
      (capacityProvisioning locale otherInventory purpose)) :
    (evaluateMissingCapacity locale inventory purpose).outline =
      (evaluateMissingCapacity locale otherInventory purpose).outline := by
  unfold evaluateMissingCapacity
  dsimp only
  unfold ProvisionedAlike at halike
  cases capacityProvisioningPolicy purpose with
  | none => simp only [PurposeEvaluation.outline, halike]
  | some requirement =>
      cases hleft : capacityProvisioning locale inventory purpose with
      | error blocker =>
          cases hright : capacityProvisioning locale otherInventory purpose with
          | error blocker' =>
              rw [hleft, hright] at halike
              cases halike
              rfl
          | ok provisioning =>
              rw [hleft, hright] at halike
              cases halike
      | ok provisioning =>
          cases hright : capacityProvisioning locale otherInventory purpose with
          | error blocker =>
              rw [hleft, hright] at halike
              cases halike
          | ok provisioning' => rfl

theorem evaluateBlockedCapacity_outline {left right : List Candidate}
    (halike : ProvisionedAlike (capacityProvisioning locale inventory purpose)
      (capacityProvisioning locale otherInventory purpose))
    (hcodes : (candidateReasonCodes left).Perm (candidateReasonCodes right)) :
    (evaluateBlockedCapacity locale inventory purpose left).outline =
      (evaluateBlockedCapacity locale otherInventory purpose right).outline := by
  unfold evaluateBlockedCapacity
  dsimp only
  have hrepair : candidateReasonCodes left = [.repairNeeded] ↔
      candidateReasonCodes right = [.repairNeeded] := by
    constructor
    · intro hleft
      exact List.perm_singleton.mp (hleft ▸ hcodes.symm)
    · intro hright
      exact List.perm_singleton.mp (hright ▸ hcodes)
  have hempty : candidateReasonCodes left = [] ↔ candidateReasonCodes right = [] := by
    rw [← List.length_eq_zero_iff, hcodes.length_eq, List.length_eq_zero_iff]
  have hsorted : sortReasonCodes (candidateReasonCodes left) =
      sortReasonCodes (candidateReasonCodes right) := by
    unfold sortReasonCodes
    simp only [hcodes.mem_iff]
  have halike' := halike
  unfold ProvisionedAlike at halike'
  by_cases honly : candidateReasonCodes right = [.repairNeeded]
  · rw [if_pos (hrepair.mpr honly), if_pos honly]
    simp only [PurposeEvaluation.outline, halike', recommendedUnlessBlocked_alike halike]
  · rw [if_neg (hrepair.not.mpr honly), if_neg honly]
    simp only [PurposeEvaluation.outline, halike', hempty, hsorted, hcodes.mem_iff]

theorem evaluatePurposeCapacity_outline (hstate : ReorderedState state other)
    (hproject : ReorderedProject project otherProject)
    (halike : ProvisionedAlike (capacityProvisioning locale inventory purpose)
      (capacityProvisioning locale otherInventory purpose)) :
    (evaluatePurposeCapacity locale inventory project state purpose).outline =
      (evaluatePurposeCapacity locale otherInventory otherProject other purpose).outline := by
  have hreasons := structuralReasons_perm purpose hstate hproject
  have havailable : availableCandidates state project purpose = [] ↔
      availableCandidates other otherProject purpose = [] := by
    rw [availableCandidates_eq_nil_iff, availableCandidates_eq_nil_iff, hreasons.mem_iff]
  have hstructural : structuralCandidates state project purpose = [] ↔
      structuralCandidates other otherProject purpose = [] := by
    rw [structuralCandidates_eq_nil_iff, structuralCandidates_eq_nil_iff,
      ← List.length_eq_zero_iff, hreasons.length_eq, List.length_eq_zero_iff]
  unfold evaluatePurposeCapacity
  by_cases hnone : availableCandidates other otherProject purpose = []
  · rw [if_neg (not_not.mpr (havailable.mpr hnone)), if_neg (not_not.mpr hnone)]
    cases hleft : structuralCandidates state project purpose with
    | nil =>
        rw [hstructural.mp hleft]
        exact evaluateMissingCapacity_outline halike
    | cons first rest =>
        cases hright : structuralCandidates other otherProject purpose with
        | nil => exact absurd (hleft.symm.trans (hstructural.mpr hright)) (List.cons_ne_nil _ _)
        | cons first' rest' =>
            refine evaluateBlockedCapacity_outline halike (candidateReasonCodes_perm ?_)
            rw [← hleft, ← hright]
            exact hreasons
  · rw [if_pos (havailable.not.mpr hnone), if_pos hnone]
    unfold ProvisionedAlike at halike
    simp only [PurposeEvaluation.outline, halike]

/-- The purposes asked for do not depend on the listing. -/
theorem selectCapacityPurposes_same (hproject : ReorderedProject project otherProject)
    (hdistinct : locale.Distinguishes (project.purposes.map (·.id)))
    (hids : (project.purposes.map (·.id)).Nodup) (purposeId : Option PurposeId) :
    selectCapacityPurposes locale project purposeId = selectCapacityPurposes locale otherProject purposeId := by
  obtain ⟨purposes, hperm, rfl⟩ := hproject
  unfold selectCapacityPurposes
  cases purposeId with
  | none =>
      have hseparates : Separates (fun left right : Purpose => locale.localeCompare left.id right.id)
          project.purposes := by
        intro left hleft right hright heq
        exact List.inj_on_of_nodup_map hids hleft hright (hdistinct _ (List.mem_map_of_mem hleft) _
          (List.mem_map_of_mem hright) heq)
      have htrans : Std.TransCmp fun left right : Purpose => locale.localeCompare left.id right.id :=
        transCmp_on fun purpose : Purpose => purpose.id
      exact insertionSort_eq_of_perm _ hperm hseparates
  | some purposeId =>
      refine congrArg Option.toList ?_
      have hfound : ∀ {left right : List Purpose} {found : Purpose}, left.Perm right →
          (left.map (·.id)).Nodup → (left.find? fun purpose => purpose.id = purposeId) = some found →
          (right.find? fun purpose => purpose.id = purposeId) = some found := by
        intro left right found hperm hids hfind
        have hid : found.id = purposeId := by simpa using List.find?_some hfind
        have hmem := List.mem_of_find?_eq_some hfind
        cases hother : right.find? fun purpose => purpose.id = purposeId with
        | none =>
            have habsent := List.find?_eq_none.mp hother found (hperm.mem_iff.mp hmem)
            simp [hid] at habsent
        | some other =>
            have hotherId : other.id = purposeId := by simpa using List.find?_some hother
            have hotherMem := hperm.mem_iff.mpr (List.mem_of_find?_eq_some hother)
            rw [List.inj_on_of_nodup_map hids hotherMem hmem (hotherId.trans hid.symm)]
      have hids' : (purposes.map (·.id)).Nodup := (hperm.map _).nodup_iff.mp hids
      cases hleft : project.purposes.find? fun purpose => purpose.id = purposeId with
      | some found => exact (hfound hperm hids hleft).symm
      | none =>
          cases hright : purposes.find? fun purpose => purpose.id = purposeId with
          | none => rfl
          | some found => exact absurd (hleft.symm.trans (hfound hperm.symm hids' hright)) (by simp)

end Evaluations

/-! ## Plans -/

section Plans

variable {left right : CapacityEvaluation} {purposeId : Option PurposeId}

theorem purposeEvaluations_outline (hreordered : Reordered left right) (hwell : WellFormed locale left)
    (purposeId : Option PurposeId) :
    (purposeEvaluations locale purposeId left).map (·.outline) =
      (purposeEvaluations locale purposeId right).map (·.outline) := by
  obtain ⟨project, hostConfigured, inventory, state⟩ := left
  obtain ⟨otherProject, otherConfigured, otherInventory, other⟩ := right
  obtain ⟨rfl, hinventory, hproject, hstate⟩ := hreordered
  unfold purposeEvaluations
  cases hproject with
  | none => rfl
  | @some project otherProject hproject =>
      have hpurposes := selectCapacityPurposes_same hproject (hwell.purposesDistinct rfl)
        (hwell.project project rfl) purposeId
      cases hstate with
      | none =>
          simp only [hpurposes]
      | some hstate =>
          simp only [hpurposes, List.map_map]
          refine List.map_congr_left fun purpose _ => ?_
          exact evaluatePurposeCapacity_outline hstate hproject (provisionedAlike hinventory purpose)

theorem planBlockerForEvaluation_outline (evaluated : PurposeEvaluation) :
    planBlockerForEvaluation evaluated.outline = planBlockerForEvaluation evaluated := by
  unfold planBlockerForEvaluation
  dsimp only [PurposeEvaluation.outline, blockedBy]
  cases evaluated.provisioning with
  | error blocker => rfl
  | ok provisioning => rfl

theorem joinGroup_outline (evaluated : PurposeEvaluation) (requirement : Requirement)
    (groups : List ActionGroup) :
    (joinGroup evaluated requirement groups).map (·.outline) =
      joinGroup evaluated.outline requirement (groups.map (·.outline)) := by
  induction groups with
  | nil => rfl
  | cons group rest ih =>
      rw [joinGroup, List.map_cons, joinGroup]
      by_cases hsame : group.requirement = requirement
      · rw [if_pos hsame, if_pos (show group.outline.requirement = requirement from hsame)]
        simp [ActionGroup.outline]
      · rw [if_neg hsame, if_neg (show group.outline.requirement ≠ requirement from hsame),
          List.map_cons, ih]

theorem groupEvaluation_outline (groups : List ActionGroup) (evaluated : PurposeEvaluation) :
    (groupEvaluation groups evaluated).map (·.outline) =
      groupEvaluation (groups.map (·.outline)) evaluated.outline := by
  unfold groupEvaluation
  rw [planBlockerForEvaluation_outline]
  by_cases hskipped : (planBlockerForEvaluation evaluated).isSome = true ∨
      evaluated.createCapacity = false
  · rw [if_pos hskipped, if_pos (show _ ∨ evaluated.outline.createCapacity = false from hskipped)]
  · rw [if_neg hskipped, if_neg (show ¬ (_ ∨ evaluated.outline.createCapacity = false) from hskipped),
      show evaluated.outline.requirement = evaluated.requirement from rfl]
    cases evaluated.requirement with
    | none => rfl
    | some requirement => exact joinGroup_outline evaluated requirement groups

theorem foldl_outline (evaluations : List PurposeEvaluation) (groups : List ActionGroup) :
    (evaluations.foldl groupEvaluation groups).map (·.outline) =
      (evaluations.map (·.outline)).foldl groupEvaluation (groups.map (·.outline)) := by
  induction evaluations generalizing groups with
  | nil => rfl
  | cons evaluated rest ih =>
      rw [List.foldl_cons, ih, groupEvaluation_outline]
      rfl

/-- `left` is not sorted after `right`. -/
def ActionGroup.notAfter (locale : Collation) (left right : ActionGroup) : Prop :=
  locale.localeCompare (requirementTupleKey left.requirement)
    (requirementTupleKey right.requirement) ≠ .gt

instance (left right : ActionGroup) : Decidable (ActionGroup.notAfter locale left right) :=
  inferInstanceAs (Decidable (_ ≠ _))

theorem actionGroups_outline (purposeId : Option PurposeId) (evaluation : CapacityEvaluation) :
    (actionGroups locale purposeId evaluation).map (·.outline) =
      (((purposeEvaluations locale purposeId evaluation).map (·.outline)).foldl groupEvaluation
        []).insertionSort (ActionGroup.notAfter locale) := by
  rw [← List.map_nil (f := ActionGroup.outline), ← foldl_outline]
  exact List.map_insertionSort (ActionGroup.notAfter locale) (ActionGroup.notAfter locale)
    ActionGroup.outline _ fun _ _ _ _ => Iff.rfl

theorem publicActions_outline (groups : List ActionGroup) :
    publicActions (groups.map (·.outline)) = publicActions groups := by
  unfold publicActions
  rw [List.zipIdx_map, List.map_map]
  refine List.map_congr_left fun listed _ => ?_
  have hids : listed.1.outline.purposeIds = listed.1.purposeIds := by
    simp [ActionGroup.purposeIds, ActionGroup.outline, PurposeEvaluation.outline,
      Function.comp_def]
  simp only [Function.comp_apply, Prod.map_fst, Prod.map_snd, hids]
  rfl

theorem publicActions_same (hreordered : Reordered left right) (hwell : WellFormed locale left) :
    publicActions (actionGroups locale purposeId left) = publicActions (actionGroups locale purposeId right) := by
  rw [← publicActions_outline, ← publicActions_outline (actionGroups locale purposeId right),
    actionGroups_outline, actionGroups_outline, purposeEvaluations_outline hreordered hwell]

theorem blockedReasons_same (hreordered : Reordered left right) (hwell : WellFormed locale left) :
    blockedReasons locale purposeId left = blockedReasons locale purposeId right := by
  have hblockers : ∀ evaluations : List PurposeEvaluation,
      evaluations.filterMap planBlockerForEvaluation =
        (evaluations.map (·.outline)).filterMap planBlockerForEvaluation := by
    intro evaluations
    rw [List.filterMap_map]
    exact List.filterMap_congr fun evaluated _ => (planBlockerForEvaluation_outline evaluated).symm
  have hproject : left.project.isNone = right.project.isNone := by
    rcases optionRel_cases hreordered.project with ⟨hleft, hright⟩ | ⟨_, _, hleft, hright, -⟩
    · rw [hleft, hright]
    · rw [hleft, hright]
      rfl
  unfold blockedReasons
  rw [hblockers, hblockers (purposeEvaluations locale purposeId right),
    purposeEvaluations_outline hreordered hwell, hproject]

theorem projectFingerprint_same (hreordered : Reordered left right) (hwell : WellFormed locale left) :
    projectFingerprint locale purposeId left = projectFingerprint locale purposeId right := by
  have hpurposes : ∀ evaluation : CapacityEvaluation,
      ((purposeEvaluations locale purposeId evaluation).map fun evaluated =>
        { capability := evaluated.purpose.capability, id := evaluated.purpose.id
          requires := evaluated.purpose.requires : PurposeFingerprint }) =
      ((purposeEvaluations locale purposeId evaluation).map (·.outline)).map fun evaluated =>
        { capability := evaluated.purpose.capability, id := evaluated.purpose.id
          requires := evaluated.purpose.requires : PurposeFingerprint } := by
    intro evaluation
    rw [List.map_map]
    rfl
  unfold projectFingerprint
  rw [hpurposes, hpurposes right, purposeEvaluations_outline hreordered hwell]
  rcases optionRel_cases hreordered.project with ⟨hleft, hright⟩ | ⟨_, _, hleft, hright, hproject⟩
  · rw [hleft, hright]
  · obtain ⟨purposes, -, rfl⟩ := hproject
    rw [hleft, hright]
    rfl

/-- A plan shows the listing only through what it hashes of the host. -/
theorem planFingerprint_same_iff (hreordered : Reordered left right) (hwell : WellFormed locale left) :
    planFingerprint locale purposeId left = planFingerprint locale purposeId right ↔
      buildCapacityHostFingerprint locale left = buildCapacityHostFingerprint locale right := by
  unfold planFingerprint
  dsimp only
  rw [publicActions_same hreordered hwell, blockedReasons_same hreordered hwell,
    projectFingerprint_same hreordered hwell, PlanFingerprint.mk.injEq]
  simp only [true_and, and_true]

end Plans

end SimulatorBroker.Capacity
