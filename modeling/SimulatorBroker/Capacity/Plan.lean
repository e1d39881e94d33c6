import SimulatorBroker.Capacity.Evaluation

/-!
# The capacity plan

What a reconcile would create, and the projection of host and project whose
digest is the plan id.
-/

namespace SimulatorBroker.Capacity

open State Broker

/-! ## Blockers -/

/-- `blockedReasons` of a plan; the purpose is null for a missing project file. -/
structure BlockedPurpose where
  blockingReasons : List BlockingReason
  purposeId : Option PurposeId
  recommendedAction : RecommendedAction
  deriving DecidableEq, Repr

def RecommendedAction.text : RecommendedAction → String
  | .none => "none"
  | .configureHost => "configure_host"
  | .configureRepo => "configure_repo"
  | .createCapacity => "create_capacity"
  | .inspectPinConflict => "inspect_pin_conflict"
  | .inspectUnknown => "inspect_unknown"
  | .installRuntime => "install_runtime"
  | .repairMatchingSimulators => "repair_matching_simulators"
  | .retryWhenAvailable => "retry_when_available"
  | .runBrokerDoctor => "run_broker_doctor"

def blockedBy (evaluation : PurposeEvaluation) : BlockedPurpose where
  blockingReasons := evaluation.blockingReasons
  purposeId := some evaluation.purpose.id
  recommendedAction := evaluation.recommendedAction

def planBlockerForEvaluation (evaluation : PurposeEvaluation) : Option BlockedPurpose :=
  if evaluation.status = .setupMissing ∨ evaluation.status = .unknown then
    some (blockedBy evaluation)
  else if evaluation.createCapacity = false ∧ evaluation.status ≠ .available then
    some (blockedBy evaluation)
  else if evaluation.createCapacity then
    match evaluation.provisioning with
    | .error blocker =>
        some {
          blockingReasons := [blocker], purposeId := some evaluation.purpose.id
          recommendedAction := publicRecommendedActionForProvisioningBlocker blocker }
    | .ok _ => none
  else none

def missingProjectBlocker : BlockedPurpose where
  blockingReasons := [.missingProjectFile]
  purposeId := none
  recommendedAction := .configureRepo

def BlockedPurpose.sortKey (blocked : BlockedPurpose) : String :=
  blocked.purposeId.getD "null" ++ ":" ++ blocked.recommendedAction.text

def blockedReasons (locale : Collation) (purposeId : Option PurposeId) (evaluation : CapacityEvaluation) :
    List BlockedPurpose :=
  ((if evaluation.project.isNone then [missingProjectBlocker] else [])
    ++ (purposeEvaluations locale purposeId evaluation).filterMap planBlockerForEvaluation).insertionSort
      fun left right => locale.localeCompare left.sortKey right.sortKey ≠ .gt

/-! ## Actions -/

def ResetPolicy.text : ResetPolicy → String
  | .none => "none"
  | .eraseOnAcquire => "erase-on-acquire"

def quoted (text : String) : String :=
  "\"" ++ text ++ "\""

/-- The canonical JSON text; requirements that ask for a simulator need no escapes in it. -/
def requirementTupleKey (requirement : Requirement) : String :=
  "\x7b" ++ String.intercalate "," [
    "\"capability\":" ++ quoted requirement.capability,
    "\"deviceFamily\":" ++ quoted (DeviceFamily.text requirement.deviceFamily),
    "\"iosVersion\":" ++ (requirement.iosVersion.map quoted).getD "null",
    "\"resetPolicy\":" ++ quoted (ResetPolicy.text requirement.resetPolicy)] ++ "\x7d"

/-- The purposes that ask for the same simulator. -/
structure ActionGroup where
  requirement : Requirement
  first : PurposeEvaluation
  others : List PurposeEvaluation := []

/-- `actionsByTuple.set(key, existing)`; the text of a requirement determines it. -/
def joinGroup (evaluation : PurposeEvaluation) (requirement : Requirement) :
    List ActionGroup → List ActionGroup
  | [] => [{ requirement, first := evaluation }]
  | group :: rest =>
      if group.requirement = requirement then
        { group with others := group.others ++ [evaluation] } :: rest
      else group :: joinGroup evaluation requirement rest

/-- One turn of the loop over the evaluations. -/
def groupEvaluation (groups : List ActionGroup) (evaluation : PurposeEvaluation) :
    List ActionGroup :=
  if (planBlockerForEvaluation evaluation).isSome ∨ evaluation.createCapacity = false then groups
  else match evaluation.requirement with
    | none => groups
    | some requirement => joinGroup evaluation requirement groups

/-- In the order of the keys. -/
def actionGroups (locale : Collation) (purposeId : Option PurposeId) (evaluation : CapacityEvaluation) :
    List ActionGroup :=
  ((purposeEvaluations locale purposeId evaluation).foldl groupEvaluation []).insertionSort
    fun left right =>
      locale.localeCompare (requirementTupleKey left.requirement)
        (requirementTupleKey right.requirement) ≠ .gt

structure PublicAction where
  actionId : String
  purposeIds : List PurposeId
  requirement : Requirement
  deriving DecidableEq, Repr

def ActionGroup.purposeIds (group : ActionGroup) : List PurposeId :=
  sortTexts (((group.first :: group.others).map (·.purpose.id)).eraseDups)

def publicActions (groups : List ActionGroup) : List PublicAction :=
  groups.zipIdx.map fun (group, index) =>
    { actionId := "capacity-" ++ toString (index + 1), purposeIds := group.purposeIds
      requirement := group.requirement }

def capacityNeed (requirement : Requirement) (provisioning : Provisioning) : CapacityNeed where
  requirement := requirement.toCapacityRequirement
  deviceTypeIdentifier := provisioning.deviceType.identifier
  iosVersion := provisioning.runtime.version.getD ""
  runtimeIdentifier := provisioning.runtime.identifier

/-- What the first purpose of the group would be provisioned with. -/
def ActionGroup.need (group : ActionGroup) : Option CapacityNeed :=
  match group.first.provisioning with
  | .error _ => none
  | .ok provisioning => some (capacityNeed group.requirement provisioning)

def capacityNeeds (locale : Collation) (purposeId : Option PurposeId) (evaluation : CapacityEvaluation) :
    List CapacityNeed :=
  (actionGroups locale purposeId evaluation).filterMap (·.need)

/-! ## The fingerprint -/

/-- A holder, as the fingerprint names it. -/
structure HolderFingerprint where
  projectId : ProjectId
  purposeId : Option PurposeId
  deriving DecidableEq, Repr

structure AliasFingerprint where
  activeLease : Option HolderFingerprint
  aliasName : AliasName
  capabilities : List String
  deviceFamily : DeviceFamily
  health : Option Health
  iosVersion : String
  pin : Option HolderFingerprint
  resetPolicy : ResetPolicy
  simulatorId : SimulatorId
  deriving DecidableEq, Repr

structure RuntimeFingerprint where
  identifier : String
  isAvailable : Bool
  version : Option String
  deriving DecidableEq, Repr

/-- Without a state only what could be read is known. -/
inductive HostFingerprint where
  | unread (configured inventoryFresh : Bool)
  | read (aliases : List AliasFingerprint) (deviceTypes : List DeviceType)
      (runtimes : List RuntimeFingerprint) (inventoryFresh : Bool)
  deriving DecidableEq, Repr

def aliasFingerprint (state : BrokerState) (hostAlias : HostAlias) : AliasFingerprint where
  activeLease := (state.leasesByAlias hostAlias.aliasName).map fun lease =>
    { projectId := lease.projectId, purposeId := some lease.purposeId }
  aliasName := hostAlias.aliasName
  capabilities := sortTexts hostAlias.capabilities
  deviceFamily := hostAlias.deviceFamily
  health := (state.registry.aliases hostAlias.aliasName).map (·.health)
  iosVersion := hostAlias.iosVersion
  pin := (state.pinsByAlias hostAlias.aliasName).map fun pin =>
    { projectId := pin.projectId, purposeId := pin.purposeId }
  resetPolicy := hostAlias.resetPolicy
  simulatorId := hostAlias.simulatorId

def runtimeFingerprint (runtime : Runtime) : RuntimeFingerprint where
  identifier := runtime.identifier
  isAvailable := runtime.isAvailable
  version := runtime.version

def buildCapacityHostFingerprint (locale : Collation) (evaluation : CapacityEvaluation) :
    HostFingerprint :=
  match evaluation.state with
  | none => .unread evaluation.hostConfigured evaluation.inventory.isSome
  | some state =>
      .read
        ((state.hostConfig.aliases.map (aliasFingerprint state)).insertionSort fun left right =>
          locale.localeCompare left.aliasName right.aliasName ≠ .gt)
        ((evaluation.inventory.elim [] (·.deviceTypes)).insertionSort fun left right =>
          locale.localeCompare left.identifier right.identifier ≠ .gt)
        (((evaluation.inventory.elim [] (·.runtimes)).map runtimeFingerprint).insertionSort
          fun left right => locale.localeCompare left.identifier right.identifier ≠ .gt)
        evaluation.inventory.isSome

structure PurposeFingerprint where
  capability : String
  id : PurposeId
  requires : Option PurposeRequires
  deriving DecidableEq, Repr

structure ProjectFingerprint where
  projectId : ProjectId
  purposes : List PurposeFingerprint
  deriving DecidableEq, Repr

def projectFingerprint (locale : Collation) (purposeId : Option PurposeId)
    (evaluation : CapacityEvaluation) : Option ProjectFingerprint :=
  evaluation.project.map fun project =>
    { projectId := project.projectId
      purposes := ((purposeEvaluations locale purposeId evaluation).map fun evaluated =>
        { capability := evaluated.purpose.capability, id := evaluated.purpose.id
          requires := evaluated.purpose.requires : PurposeFingerprint }).insertionSort
            fun left right => locale.localeCompare left.id right.id ≠ .gt }

inductive PlanStatus where
  | blocked
  | changesRequired
  | noChanges
  deriving DecidableEq, Repr

/-- What the plan id is the digest of; command and schema version are constant. -/
structure PlanFingerprint where
  actions : List PublicAction
  blockedReasons : List BlockedPurpose
  host : HostFingerprint
  project : Option ProjectFingerprint
  status : PlanStatus
  deriving DecidableEq, Repr

/-! ## The plan -/

def planStatus (blocked : List BlockedPurpose) (actions : List PublicAction) : PlanStatus :=
  if blocked ≠ [] then .blocked else if actions ≠ [] then .changesRequired else .noChanges

def planFingerprint (locale : Collation) (purposeId : Option PurposeId)
    (evaluation : CapacityEvaluation) : PlanFingerprint :=
  let actions := publicActions (actionGroups locale purposeId evaluation)
  let blocked := blockedReasons locale purposeId evaluation
  { actions, blockedReasons := blocked, host := buildCapacityHostFingerprint locale evaluation
    project := projectFingerprint locale purposeId evaluation, status := planStatus blocked actions }

/-- The private actions: what an apply of the plan creates. -/
def plannedActions (locale : Collation) (purposeId : Option PurposeId)
    (evaluation : CapacityEvaluation) : List CapacityAction :=
  match evaluation.state with
  | none => []
  | some state =>
      capacityActions state.hostConfig.hostId state.hostConfig.aliasNames
        (capacityNeeds locale purposeId evaluation)

/-- A plan with its id. -/
structure ReconcilePlan (PlanId : Type) where
  planId : PlanId
  status : PlanStatus
  actions : List CapacityAction

def reconcilePlan {PlanId : Type} (locale : Collation) (digest : PlanFingerprint → PlanId)
    (purposeId : Option PurposeId) (evaluation : CapacityEvaluation) : ReconcilePlan PlanId where
  planId := digest (planFingerprint locale purposeId evaluation)
  status := (planFingerprint locale purposeId evaluation).status
  actions := plannedActions locale purposeId evaluation

def applyBlockedExitReason (blocked : List BlockedPurpose) : ReasonCode :=
  let reasonCodes := blocked.flatMap (·.blockingReasons)
  if .repairNeeded ∈ reasonCodes then .capacityRepairRequired
  else if .unsupportedCapability ∈ reasonCodes then .capacityUnsupportedCapability
  else if .missingHostConfig ∈ reasonCodes then .missingHostConfig
  else if .missingProjectFile ∈ reasonCodes then .missingProjectFile
  else .capacityApplyBlocked

/-- The planner of the reconcile command. -/
def capacityPlanner (locale : Collation) (digest : PlanFingerprint → Nat)
    (purposeId : Option PurposeId) : CapacityPlanner := fun evaluation =>
  let blocked := blockedReasons locale purposeId evaluation
  { planId := digest (planFingerprint locale purposeId evaluation)
    blocked := if blocked = [] then none else some (applyBlockedExitReason blocked)
    needs := capacityNeeds locale purposeId evaluation }

end SimulatorBroker.Capacity
