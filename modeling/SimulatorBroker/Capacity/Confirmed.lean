import SimulatorBroker.Capacity.Plan
import SimulatorBroker.Capacity.Preference

/-!
# What a confirmed plan id fixes

Equal plan ids fix the missing requirements and the names of the new aliases, not
the host id, and not the runtime and device type an inventory prefers.
-/

namespace SimulatorBroker.Capacity

open State Broker

variable {locale : Collation}

/-! ## Missing requirements -/

/-- A selected purpose needs the requirement, no alias of the host has it, and the inventory
prefers `provisioning` for it. -/
structure Missing (locale : Collation) (purposeId : Option PurposeId)
    (evaluation : CapacityEvaluation) (state : BrokerState) (inventory : SimctlInventory) (purpose : Purpose)
    (requirement : Requirement) (provisioning : Provisioning) : Prop where
  selected : ∃ project, evaluation.project = some project ∧
    purpose ∈ selectCapacityPurposes locale project purposeId ∧
      structuralCandidates state project purpose = []
  stateRead : evaluation.state = some state
  inventoryRead : evaluation.inventory = some inventory
  required : capacityProvisioningPolicy purpose = some requirement
  preferred : Preferred locale inventory requirement provisioning

/-- What a purpose with a missing requirement evaluates to. -/
def missingCapacity (purpose : Purpose) (requirement : Requirement) (provisioning : Provisioning) :
    PurposeEvaluation where
  createCapacity := true
  blockingReasons := [.noMatchingCapacity]
  provisioning := .ok provisioning
  purpose
  recommendedAction := .createCapacity
  requirement := some requirement
  status := .unavailable

section Missing

variable {purposeId : Option PurposeId} {evaluation : CapacityEvaluation} {purpose : Purpose}
  {requirement : Requirement} {provisioning : Provisioning}

theorem Missing.mem {state : BrokerState} {inventory : SimctlInventory}
    (hmissing : Missing locale purposeId evaluation state inventory purpose requirement provisioning) :
    missingCapacity purpose requirement provisioning ∈
      purposeEvaluations locale purposeId evaluation := by
  obtain ⟨⟨project, hproject, hpurpose, hnone⟩, hstate, hinventory, hrequirement, hpreferred⟩ :=
    hmissing
  unfold purposeEvaluations
  rw [hproject]
  simp only [hstate]
  refine List.mem_map.mpr ⟨purpose, hpurpose, ?_⟩
  have havailable : availableCandidates state project purpose = [] := by
    rw [availableCandidates, hnone]
    rfl
  have hprovisioning :
      capacityProvisioning locale evaluation.inventory purpose = .ok provisioning := by
    unfold capacityProvisioning
    rw [hrequirement, hinventory]
    exact capacityProvisioningForRequirement_iff.mpr hpreferred
  unfold evaluatePurposeCapacity
  rw [if_neg (by rw [havailable]; exact fun hne => hne rfl), hnone]
  simp only [evaluateMissingCapacity, hrequirement, hprovisioning]
  rfl

/-- Only a missing requirement asks for a simulator. -/
theorem creates_of_mem {evaluated : PurposeEvaluation}
    (hmem : evaluated ∈ purposeEvaluations locale purposeId evaluation)
    (hcreates : evaluated.createCapacity = true) :
    ∃ state inventory purpose requirement provisioning,
      Missing locale purposeId evaluation state inventory purpose requirement provisioning ∧
        evaluated = missingCapacity purpose requirement provisioning := by
  unfold purposeEvaluations at hmem
  cases hproject : evaluation.project with
  | none => simp [hproject] at hmem
  | some project =>
      simp only [hproject] at hmem
      cases hstate : evaluation.state with
      | none =>
          simp only [hstate] at hmem
          split at hmem
          all_goals
            obtain ⟨purpose, -, rfl⟩ := List.mem_map.mp hmem
            cases hcreates
      | some state =>
          simp only [hstate] at hmem
          obtain ⟨purpose, hpurpose, rfl⟩ := List.mem_map.mp hmem
          obtain ⟨hnone, provisioning, hprovisioning⟩ := createCapacity_iff.mp hcreates
          cases hrequirement : capacityProvisioningPolicy purpose with
          | none => simp [capacityProvisioning, hrequirement] at hprovisioning
          | some requirement =>
              have hprovisioned := hprovisioning
              simp only [capacityProvisioning, hrequirement] at hprovisioned
              cases hinventory : evaluation.inventory with
              | none => simp [hinventory, capacityProvisioningForRequirement] at hprovisioned
              | some inventory =>
                  rw [hinventory, capacityProvisioningForRequirement_iff] at hprovisioned
                  refine ⟨state, inventory, purpose, requirement, provisioning,
                    ⟨⟨project, hproject, hpurpose, hnone⟩, hstate, hinventory, hrequirement,
                      hprovisioned⟩, ?_⟩
                  have havailable : availableCandidates state project purpose = [] := by
                    rw [availableCandidates, hnone]
                    rfl
                  unfold evaluatePurposeCapacity
                  rw [if_neg (by rw [havailable]; exact fun hne => hne rfl), hnone]
                  simp only [evaluateMissingCapacity, hrequirement, ← hinventory, hprovisioning]
                  rfl

end Missing

/-! ## The groups of a plan -/

section Groups

variable {groups : List ActionGroup} {group : ActionGroup} {evaluated : PurposeEvaluation}
  {requirement : Requirement}

theorem mem_joinGroup (hmem : group ∈ joinGroup evaluated requirement groups) :
    (∃ old ∈ groups, old.requirement = group.requirement ∧ old.first = group.first) ∨
      group.requirement = requirement ∧ group.first = evaluated := by
  induction groups with
  | nil =>
      rw [joinGroup, List.mem_singleton] at hmem
      rw [hmem]
      exact .inr ⟨rfl, rfl⟩
  | cons head rest ih =>
      rw [joinGroup] at hmem
      split at hmem
      · rcases List.mem_cons.mp hmem with rfl | hrest
        · exact .inl ⟨head, List.mem_cons_self, rfl, rfl⟩
        · exact .inl ⟨group, List.mem_cons_of_mem _ hrest, rfl, rfl⟩
      · rcases List.mem_cons.mp hmem with rfl | hrest
        · exact .inl ⟨group, List.mem_cons_self, rfl, rfl⟩
        · rcases ih hrest with ⟨old, hold, hsame⟩ | hnew
          · exact .inl ⟨old, List.mem_cons_of_mem _ hold, hsame⟩
          · exact .inr hnew

theorem mem_map_joinGroup {other : Requirement} :
    other ∈ (joinGroup evaluated requirement groups).map (·.requirement) ↔
      other = requirement ∨ other ∈ groups.map (·.requirement) := by
  induction groups with
  | nil => simp [joinGroup]
  | cons head rest ih =>
      rw [joinGroup]
      split
      · next hsame =>
          simp only [List.map_cons, List.mem_cons, hsame]
          tauto
      · simp only [List.map_cons, List.mem_cons, ih]
        tauto

/-- A group stands for the evaluation that opened it. -/
def Opened (evaluations : List PurposeEvaluation) (group : ActionGroup) : Prop :=
  group.first ∈ evaluations ∧ group.first.createCapacity = true ∧
    group.first.requirement = some group.requirement

theorem groupEvaluation_opened {evaluations : List PurposeEvaluation}
    (hopened : ∀ group ∈ groups, Opened evaluations group) (hevaluated : evaluated ∈ evaluations)
    (hmem : group ∈ groupEvaluation groups evaluated) : Opened evaluations group := by
  unfold groupEvaluation at hmem
  split at hmem
  · exact hopened group hmem
  · next hcreates =>
      cases hrequirement : evaluated.requirement with
      | none =>
          simp only [hrequirement] at hmem
          exact hopened group hmem
      | some requirement =>
          simp only [hrequirement] at hmem
          rcases mem_joinGroup hmem with ⟨old, hold, hsame, hfirst⟩ | ⟨hsame, hfirst⟩
          · unfold Opened
            rw [← hsame, ← hfirst]
            exact hopened old hold
          · unfold Opened
            rw [hsame, hfirst]
            refine ⟨hevaluated, ?_, hrequirement⟩
            rw [not_or] at hcreates
            simpa using hcreates.2

theorem foldl_opened {evaluations rest : List PurposeEvaluation}
    (hopened : ∀ group ∈ groups, Opened evaluations group) (hrest : rest ⊆ evaluations) :
    ∀ group ∈ rest.foldl groupEvaluation groups, Opened evaluations group := by
  induction rest generalizing groups with
  | nil => exact hopened
  | cons head tail ih =>
      refine ih (fun group hmem => ?_) fun _ hmem => hrest (List.mem_cons_of_mem _ hmem)
      exact groupEvaluation_opened hopened (hrest List.mem_cons_self) hmem

theorem actionGroups_opened {purposeId : Option PurposeId} {evaluation : CapacityEvaluation}
    (hmem : group ∈ actionGroups locale purposeId evaluation) :
    Opened (purposeEvaluations locale purposeId evaluation) group :=
  foldl_opened (by simp) (fun _ hmem => hmem) group ((List.mem_insertionSort _).mp hmem)

theorem groupEvaluation_keeps {other : Requirement}
    (hmem : other ∈ groups.map (·.requirement)) :
    other ∈ (groupEvaluation groups evaluated).map (·.requirement) := by
  unfold groupEvaluation
  split
  · exact hmem
  · split
    · exact hmem
    · exact mem_map_joinGroup.mpr (.inr hmem)

theorem foldl_keeps {rest : List PurposeEvaluation} {other : Requirement}
    (hmem : other ∈ groups.map (·.requirement)) :
    other ∈ (rest.foldl groupEvaluation groups).map (·.requirement) := by
  induction rest generalizing groups with
  | nil => exact hmem
  | cons head tail ih => exact ih (groupEvaluation_keeps hmem)

/-- Every evaluation that asks for a simulator ends up in a group. -/
theorem foldl_covers {rest : List PurposeEvaluation} {purpose : Purpose}
    {provisioning : Provisioning}
    (hmem : missingCapacity purpose requirement provisioning ∈ rest) :
    requirement ∈ (rest.foldl groupEvaluation groups).map (·.requirement) := by
  induction rest generalizing groups with
  | nil => exact absurd hmem List.not_mem_nil
  | cons head tail ih =>
      rcases List.mem_cons.mp hmem with rfl | htail
      · have hjoined : requirement ∈ (groupEvaluation groups
            (missingCapacity purpose requirement provisioning)).map (·.requirement) :=
          mem_map_joinGroup.mpr (.inl rfl)
        rw [List.foldl_cons]
        exact foldl_keeps hjoined
      · exact ih htail

end Groups

/-! ## Needs -/

section Needs

variable {purposeId : Option PurposeId} {evaluation : CapacityEvaluation}

/-- Every group has its need: what the inventory prefers for a missing requirement. -/
theorem actionGroups_need {group : ActionGroup}
    (hmem : group ∈ actionGroups locale purposeId evaluation) :
    ∃ state inventory purpose provisioning,
      Missing locale purposeId evaluation state inventory purpose group.requirement provisioning ∧
        group.need = some (capacityNeed group.requirement provisioning) := by
  obtain ⟨hfirst, hcreates, hrequirement⟩ := actionGroups_opened hmem
  obtain ⟨state, inventory, purpose, requirement, provisioning, hmissing, heq⟩ :=
    creates_of_mem hfirst hcreates
  rw [heq] at hrequirement
  cases hrequirement
  refine ⟨state, inventory, purpose, provisioning, hmissing, ?_⟩
  unfold ActionGroup.need
  rw [heq]
  rfl

theorem mem_actionGroups_of_missing {state : BrokerState} {inventory : SimctlInventory}
    {purpose : Purpose} {requirement : Requirement} {provisioning : Provisioning}
    (hmissing : Missing locale purposeId evaluation state inventory purpose requirement provisioning) :
    ∃ group ∈ actionGroups locale purposeId evaluation, group.requirement = requirement := by
  obtain ⟨group, hgroup, hsame⟩ := List.mem_map.mp (foldl_covers hmissing.mem)
  exact ⟨group, (List.mem_insertionSort _).mpr hgroup, hsame⟩

/-- The needs of a plan are those of its groups, one by one. -/
theorem capacityNeeds_eq_map :
    (capacityNeeds locale purposeId evaluation).map (·.requirement) =
      (actionGroups locale purposeId evaluation).map fun group =>
        group.requirement.toCapacityRequirement := by
  unfold capacityNeeds
  have hneeds : ∀ groups : List ActionGroup, groups ⊆ actionGroups locale purposeId evaluation →
      (groups.filterMap (·.need)).map (·.requirement) =
        groups.map fun group => group.requirement.toCapacityRequirement := by
    intro groups hgroups
    induction groups with
    | nil => rfl
    | cons head rest ih =>
        obtain ⟨_, _, _, provisioning, -, hneed⟩ := actionGroups_need (hgroups List.mem_cons_self)
        rw [List.filterMap_cons_some hneed, List.map_cons, List.map_cons,
          ih fun _ hmem => hgroups (List.mem_cons_of_mem _ hmem)]
        rfl
  exact hneeds _ fun _ hmem => hmem

end Needs

/-! ## Equal fingerprints -/

section Equal

theorem publicActions_requirements {left right : List ActionGroup}
    (hactions : publicActions left = publicActions right) :
    left.map (·.requirement) = right.map (·.requirement) := by
  have hmap : ∀ groups : List ActionGroup,
      (publicActions groups).map (·.requirement) = groups.map (·.requirement) := by
    intro groups
    unfold publicActions
    rw [List.map_map]
    conv_rhs => rw [← List.zipIdx_map_fst 0 groups, List.map_map]
    rfl
  rw [← hmap left, hactions, hmap right]

/-- The fingerprint holds the names of the aliases. -/
theorem hostFingerprint_aliasNames {left right : CapacityEvaluation} {state : BrokerState}
    (hhost : buildCapacityHostFingerprint locale left = buildCapacityHostFingerprint locale right)
    (hleft : left.state = some state) :
    ∃ other, right.state = some other ∧
      state.hostConfig.aliasNames.Perm other.hostConfig.aliasNames := by
  unfold buildCapacityHostFingerprint at hhost
  cases hright : right.state with
  | none => simp [hleft, hright] at hhost
  | some other =>
      simp only [hleft, hright, HostFingerprint.read.injEq] at hhost
      refine ⟨other, rfl, ?_⟩
      have hnames : ∀ state : BrokerState, state.hostConfig.aliasNames =
          (state.hostConfig.aliases.map (aliasFingerprint state)).map (·.aliasName) := by
        intro state
        rw [List.map_map]
        rfl
      rw [hnames state, hnames other]
      refine List.Perm.map _ ?_
      have hsorted := (List.perm_insertionSort
        (fun left right : AliasFingerprint =>
          locale.localeCompare left.aliasName right.aliasName ≠ .gt)
        (state.hostConfig.aliases.map (aliasFingerprint state))).symm
      rw [hhost.1] at hsorted
      exact hsorted.trans (List.perm_insertionSort _ _)

end Equal

/-! ## Creations -/

theorem nextCapacityAlias_perm {existing other : List AliasName} (hperm : existing.Perm other)
    (requirement : CapacityRequirement) :
    nextCapacityAlias existing requirement = nextCapacityAlias other requirement := by
  unfold nextCapacityAlias
  simp only [hperm.length_eq, hperm.mem_iff]

theorem simulatorDisplayName_inj {hostId otherHostId : String} {name : AliasName}
    (hnames : simulatorDisplayName hostId name = simulatorDisplayName otherHostId name) :
    hostId = otherHostId := by
  unfold simulatorDisplayName at hnames
  simpa [String.append_assoc] using hnames

/-- An action shows everything of its need. -/
theorem capacityAction_need {hostId otherHostId : String} {name otherName : AliasName}
    {need otherNeed : CapacityNeed} (hrequirement : need.requirement = otherNeed.requirement)
    (haction : capacityAction hostId name need = capacityAction otherHostId otherName otherNeed) :
    need = otherNeed := by
  cases need
  cases otherNeed
  simp only [capacityAction, CapacityAction.mk.injEq] at haction
  simp_all

/-- The host id and the needs are what the creations are made of, besides the names taken. -/
theorem capacityActions_eq_iff {hostId otherHostId : String} {existing other : List AliasName}
    {left right : List CapacityNeed} (hperm : existing.Perm other)
    (hrequirements : left.map (·.requirement) = right.map (·.requirement)) :
    capacityActions hostId existing left = capacityActions otherHostId other right ↔
      (left ≠ [] → hostId = otherHostId) ∧ left = right := by
  induction left generalizing existing other right with
  | nil =>
      cases right with
      | nil => simp [capacityActions]
      | cons need rest => simp at hrequirements
  | cons need rest ih =>
      cases right with
      | nil => simp at hrequirements
      | cons otherNeed otherRest =>
          simp only [List.map_cons, List.cons.injEq] at hrequirements
          obtain ⟨hrequirement, hrest⟩ := hrequirements
          have hname : nextCapacityAlias existing need.requirement =
              nextCapacityAlias other otherNeed.requirement := by
            rw [nextCapacityAlias_perm hperm, hrequirement]
          have hnext : (existing ++ [nextCapacityAlias existing need.requirement]).Perm
              (other ++ [nextCapacityAlias other otherNeed.requirement]) := by
            rw [hname]
            exact hperm.append_right _
          have htail := ih hnext hrest
          simp only [capacityActions, List.cons.injEq, htail]
          constructor
          · rintro ⟨haction, -, hneeds⟩
            have hhost : hostId = otherHostId := by
              have hnames := congrArg CapacityAction.simulatorName haction
              simp only [capacityAction, hname] at hnames
              exact simulatorDisplayName_inj hnames
            exact ⟨fun _ => hhost, capacityAction_need hrequirement haction, hneeds⟩
          · rintro ⟨hhost, hneed, hneeds⟩
            rw [hhost (by simp), hname, hneed]
            exact ⟨rfl, fun _ => rfl, hneeds⟩

theorem capacityNeed_eq_iff {requirement : Requirement} {left right : SimctlInventory}
    {provisioning other : Provisioning} (hleft : Preferred locale left requirement provisioning)
    (hright : Preferred locale right requirement other) :
    capacityNeed requirement provisioning = capacityNeed requirement other ↔
      PreferredAlike locale requirement left right := by
  obtain ⟨version, hversion⟩ := hleft.version
  obtain ⟨otherVersion, hother⟩ := hright.version
  constructor
  · intro hneed
    simp only [capacityNeed, hversion, hother, CapacityNeed.mk.injEq, Option.getD_some] at hneed
    obtain ⟨-, hdevice, hios, hruntime⟩ := hneed
    exact ⟨provisioning, other, hleft, hright, hruntime, by rw [hversion, hother, hios], hdevice⟩
  · rintro ⟨first, second, hfirst, hsecond, hruntime, hios, hdevice⟩
    rw [hfirst.unique hleft, hsecond.unique hright] at hruntime hios hdevice
    simp only [capacityNeed, hruntime, hios, hdevice]

/-- A group whose need is what `inventory` prefers. -/
def Supplied (locale : Collation) (inventory : SimctlInventory) (group : ActionGroup) : Prop :=
  ∃ provisioning, Preferred locale inventory group.requirement provisioning ∧
    group.need = some (capacityNeed group.requirement provisioning)

theorem needs_eq_iff {left right : SimctlInventory} {groups others : List ActionGroup}
    (hgroups : ∀ group ∈ groups, Supplied locale left group)
    (hothers : ∀ group ∈ others, Supplied locale right group)
    (hrequirements : groups.map (·.requirement) = others.map (·.requirement)) :
    groups.filterMap (·.need) = others.filterMap (·.need) ↔
      ∀ group ∈ groups, PreferredAlike locale group.requirement left right := by
  induction groups generalizing others with
  | nil =>
      cases others with
      | nil => simp
      | cons other rest => simp at hrequirements
  | cons group rest ih =>
      cases others with
      | nil => simp at hrequirements
      | cons other otherRest =>
          simp only [List.map_cons, List.cons.injEq] at hrequirements
          obtain ⟨hrequirement, hrest⟩ := hrequirements
          obtain ⟨provisioning, hpreferred, hneed⟩ := hgroups group List.mem_cons_self
          obtain ⟨otherProvisioning, hother, hotherNeed⟩ := hothers other List.mem_cons_self
          rw [← hrequirement] at hother hotherNeed
          rw [List.filterMap_cons_some hneed, List.filterMap_cons_some hotherNeed,
            List.cons.injEq, capacityNeed_eq_iff hpreferred hother,
            ih (fun group hmem => hgroups group (List.mem_cons_of_mem _ hmem))
              (fun group hmem => hothers group (List.mem_cons_of_mem _ hmem)) hrest,
            List.forall_mem_cons]

/-- The two hosts have the same id, and supply alike what the left one is missing. -/
def SuppliesAlike (locale : Collation) (purposeId : Option PurposeId)
    (left right : CapacityEvaluation) : Prop :=
  ∀ state inventory purpose requirement provisioning,
    Missing locale purposeId left state inventory purpose requirement provisioning →
      ∃ otherState otherInventory, right.state = some otherState ∧
        right.inventory = some otherInventory ∧
          state.hostConfig.hostId = otherState.hostConfig.hostId ∧
            PreferredAlike locale requirement inventory otherInventory

/-- Plans of one fingerprint create the same exactly where the hosts supply alike what is
missing. -/
theorem plannedActions_eq_iff {leftPurpose rightPurpose : Option PurposeId}
    {left right : CapacityEvaluation}
    (hfingerprint : planFingerprint locale leftPurpose left =
      planFingerprint locale rightPurpose right) :
    plannedActions locale leftPurpose left = plannedActions locale rightPurpose right ↔
      SuppliesAlike locale leftPurpose left right := by
  have hrequirements := publicActions_requirements (congrArg PlanFingerprint.actions hfingerprint)
  have hhost := congrArg PlanFingerprint.host hfingerprint
  simp only [planFingerprint] at hrequirements hhost
  cases hempty : actionGroups locale leftPurpose left with
  | nil =>
      rw [hempty] at hrequirements
      have hother : actionGroups locale rightPurpose right = [] := by
        cases hright : actionGroups locale rightPurpose right with
        | nil => rfl
        | cons group rest => simp [hright] at hrequirements
      have hnone : ∀ purposeId evaluation, actionGroups locale purposeId evaluation = [] →
          plannedActions locale purposeId evaluation = [] := by
        intro purposeId evaluation hgroups
        unfold plannedActions capacityNeeds
        rw [hgroups]
        cases evaluation.state with
        | none => rfl
        | some state => rfl
      rw [hnone _ _ hempty, hnone _ _ hother]
      refine iff_of_true rfl ?_
      intro state inventory purpose requirement provisioning hmissing
      obtain ⟨group, hgroup, -⟩ := mem_actionGroups_of_missing hmissing
      rw [hempty] at hgroup
      exact absurd hgroup List.not_mem_nil
  | cons first rest =>
      have hfirst : first ∈ actionGroups locale leftPurpose left := by
        rw [hempty]
        exact List.mem_cons_self
      obtain ⟨state, inventory, purpose, provisioning, hmissing, -⟩ := actionGroups_need hfirst
      obtain ⟨otherState, hotherState, hnames⟩ := hostFingerprint_aliasNames hhost hmissing.stateRead
      have hsecond : first.requirement ∈
          (actionGroups locale rightPurpose right).map (·.requirement) := by
        rw [← hrequirements]
        exact List.mem_map_of_mem hfirst
      obtain ⟨second, hsecondMem, -⟩ := List.mem_map.mp hsecond
      obtain ⟨_, otherInventory, _, _, hother, -⟩ := actionGroups_need hsecondMem
      have hsupplied :
          ∀ group ∈ actionGroups locale leftPurpose left, Supplied locale inventory group := by
        intro group hmem
        obtain ⟨_, read, _, provisioning, hmissing', hneed⟩ := actionGroups_need hmem
        have hread := hmissing'.inventoryRead
        rw [hmissing.inventoryRead] at hread
        cases hread
        exact ⟨provisioning, hmissing'.preferred, hneed⟩
      have hotherSupplied :
          ∀ group ∈ actionGroups locale rightPurpose right, Supplied locale otherInventory group := by
        intro group hmem
        obtain ⟨_, read, _, provisioning, hmissing', hneed⟩ := actionGroups_need hmem
        have hread := hmissing'.inventoryRead
        rw [hother.inventoryRead] at hread
        cases hread
        exact ⟨provisioning, hmissing'.preferred, hneed⟩
      have hneedRequirements : (capacityNeeds locale leftPurpose left).map (·.requirement) =
          (capacityNeeds locale rightPurpose right).map (·.requirement) := by
        rw [capacityNeeds_eq_map, capacityNeeds_eq_map]
        have hmapped := congrArg (List.map Requirement.toCapacityRequirement) hrequirements
        rw [List.map_map, List.map_map] at hmapped
        exact hmapped
      have hneeds := needs_eq_iff hsupplied hotherSupplied hrequirements
      unfold plannedActions
      simp only [hmissing.stateRead, hotherState]
      rw [capacityActions_eq_iff hnames hneedRequirements]
      unfold capacityNeeds
      rw [hneeds]
      have hsome : (actionGroups locale leftPurpose left).filterMap (·.need) ≠ [] := by
        obtain ⟨provisioning', -, hneed⟩ := hsupplied first hfirst
        rw [hempty, List.filterMap_cons_some hneed]
        exact List.cons_ne_nil _ _
      constructor
      · rintro ⟨hid, halike⟩ state' inventory' purpose' requirement' provisioning' hmissing'
        have hstate' := hmissing'.stateRead
        rw [hmissing.stateRead] at hstate'
        cases hstate'
        have hinventory' := hmissing'.inventoryRead
        rw [hmissing.inventoryRead] at hinventory'
        cases hinventory'
        obtain ⟨group, hgroup, hsame⟩ := mem_actionGroups_of_missing hmissing'
        exact ⟨otherState, otherInventory, hotherState, hother.inventoryRead, hid hsome,
          hsame ▸ halike group hgroup⟩
      · intro halike
        constructor
        · intro _
          obtain ⟨read, -, hread, -, hid, -⟩ := halike _ _ _ _ _ hmissing
          rw [hotherState] at hread
          cases hread
          exact hid
        · intro group hmem
          obtain ⟨state', inventory', purpose', provisioning', hmissing', -⟩ :=
            actionGroups_need hmem
          obtain ⟨-, read, -, hread, -, hgroup⟩ := halike _ _ _ _ _ hmissing'
          rw [hother.inventoryRead] at hread
          cases hread
          have hinventory' := hmissing'.inventoryRead
          rw [hmissing.inventoryRead] at hinventory'
          cases hinventory'
          exact hgroup

end SimulatorBroker.Capacity
