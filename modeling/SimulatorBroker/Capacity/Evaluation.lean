import SimulatorBroker.Capacity.Provisioning

/-!
# Evaluating the purposes of a project

For each selected purpose: is an alias available, and if not, why not and what
would help.
-/

namespace SimulatorBroker.Capacity

open State Broker

inductive RecommendedAction where
  | none
  | configureHost
  | configureRepo
  | createCapacity
  | inspectPinConflict
  | inspectUnknown
  | installRuntime
  | repairMatchingSimulators
  | retryWhenAvailable
  | runBrokerDoctor
  deriving DecidableEq, Repr

inductive PurposeStatus where
  | available
  | repairNeeded
  | setupMissing
  | unavailable
  | unknown
  deriving DecidableEq, Repr

/-- `actionKind` is the only kind there is, `create_capacity`, or null. -/
structure PurposeEvaluation where
  createCapacity : Bool := false
  blockingReasons : List BlockingReason
  provisioning : Except BlockingReason Provisioning
  purpose : Purpose
  recommendedAction : RecommendedAction
  requirement : Option Requirement
  status : PurposeStatus

def publicRecommendedActionForProvisioningBlocker : BlockingReason → RecommendedAction
  | .runtimeNotFound => .installRuntime
  | .deviceTypeNotFound => .runBrokerDoctor
  | _ => .inspectUnknown

def structuralCapacityMatches (hostAlias : HostAlias) (purpose : Purpose)
    (requirement : Option Requirement) : Bool :=
  decide (purpose.capability ∈ hostAlias.capabilities) &&
    satisfiesRequires hostAlias purpose.requires &&
    requirement.all fun requirement => decide (hostAlias.resetPolicy = requirement.resetPolicy)

/-- The reason codes of the structural candidates, as a capacity report names them. -/
def candidateReasonCodes (candidates : List Candidate) : List BlockingReason :=
  ((candidates.flatMap (·.reasons)).filterMap fun
    | .leaseConflict => some .matchingCapacityBusy
    | .pinnedForOtherProject => some .pinConflict
    | .unhealthyAlias => some .repairNeeded
    | _ => none).eraseDups

/-- `Array.from(reasonCodes).sort()`. -/
def sortReasonCodes (reasonCodes : List BlockingReason) : List BlockingReason :=
  [.matchingCapacityBusy, .pinConflict, .repairNeeded].filter fun reason => reason ∈ reasonCodes

def capacityProvisioning (locale : Collation) (inventory : Option SimctlInventory) (purpose : Purpose) :
    Except BlockingReason Provisioning :=
  match capacityProvisioningPolicy purpose with
  | none => .error .unsupportedCapability
  | some requirement => capacityProvisioningForRequirement locale inventory requirement

def structuralCandidates (state : BrokerState) (project : ProjectConfig) (purpose : Purpose) :
    List Candidate :=
  (buildCandidateAnalysis state purpose project none).filter fun candidate =>
    structuralCapacityMatches candidate.hostAlias purpose (capacityProvisioningPolicy purpose)

def availableCandidates (state : BrokerState) (project : ProjectConfig) (purpose : Purpose) :
    List Candidate :=
  (structuralCandidates state project purpose).filter fun candidate => candidate.reasons.isEmpty

/-- What is recommended where provisioning is blocked, or else another action. -/
def recommendedUnlessBlocked (provisioning : Except BlockingReason Provisioning)
    (otherwise : RecommendedAction) : RecommendedAction :=
  match provisioning with
  | .error blocker => publicRecommendedActionForProvisioningBlocker blocker
  | .ok _ => otherwise

/-- No alias of the right kind exists. -/
def evaluateMissingCapacity (locale : Collation) (inventory : Option SimctlInventory)
    (purpose : Purpose) : PurposeEvaluation :=
  let provisioning := capacityProvisioning locale inventory purpose
  match capacityProvisioningPolicy purpose with
  | none =>
      { blockingReasons := [.unsupportedCapability], provisioning, purpose
        recommendedAction := .inspectUnknown, requirement := none, status := .unknown }
  | some requirement =>
      match provisioning with
      | .error blocker =>
          { blockingReasons := [blocker], provisioning, purpose
            recommendedAction := publicRecommendedActionForProvisioningBlocker blocker
            requirement := some requirement, status := .unavailable }
      | .ok _ =>
          { createCapacity := true, blockingReasons := [.noMatchingCapacity], provisioning, purpose
            recommendedAction := .createCapacity
            requirement := some requirement, status := .unavailable }

/-- Aliases of the right kind exist, none of them available. -/
def evaluateBlockedCapacity (locale : Collation) (inventory : Option SimctlInventory)
    (purpose : Purpose) (candidates : List Candidate) : PurposeEvaluation :=
  let provisioning := capacityProvisioning locale inventory purpose
  let requirement := capacityProvisioningPolicy purpose
  let reasonCodes := candidateReasonCodes candidates
  if reasonCodes = [.repairNeeded] then
    { blockingReasons := [.repairNeeded], provisioning, purpose
      recommendedAction := recommendedUnlessBlocked provisioning .repairMatchingSimulators
      requirement, status := .repairNeeded }
  else
    { blockingReasons :=
        if reasonCodes = [] then [.noEligibleCapacity] else sortReasonCodes reasonCodes
      provisioning, purpose
      recommendedAction :=
        if .pinConflict ∈ reasonCodes then .inspectPinConflict
        else if .matchingCapacityBusy ∈ reasonCodes then .retryWhenAvailable
        else .inspectUnknown
      requirement, status := .unavailable }

def evaluatePurposeCapacity (locale : Collation) (inventory : Option SimctlInventory)
    (project : ProjectConfig) (state : BrokerState) (purpose : Purpose) : PurposeEvaluation :=
  if availableCandidates state project purpose ≠ [] then
    { blockingReasons := [], provisioning := capacityProvisioning locale inventory purpose, purpose
      recommendedAction := .none, requirement := capacityProvisioningPolicy purpose
      status := .available }
  else match structuralCandidates state project purpose with
    | [] => evaluateMissingCapacity locale inventory purpose
    | candidates => evaluateBlockedCapacity locale inventory purpose candidates

/-! ## Reports without a state -/

def setupMissingPurposeReport (purpose : Purpose) (reason : BlockingReason) :
    PurposeEvaluation where
  blockingReasons := [reason]
  provisioning := .error reason
  purpose
  recommendedAction := if reason = .missingHostConfig then .configureHost else .configureRepo
  requirement := capacityProvisioningPolicy purpose
  status := .setupMissing

def unknownPurposeCapacityReport (purpose : Purpose) (reason : BlockingReason) :
    PurposeEvaluation where
  blockingReasons := [reason]
  provisioning := .error reason
  purpose
  recommendedAction := .runBrokerDoctor
  requirement := capacityProvisioningPolicy purpose
  status := .unknown

/-- The purpose asked for, or all of them by their ids. -/
def selectCapacityPurposes (locale : Collation) (project : ProjectConfig)
    (purposeId : Option PurposeId) : List Purpose :=
  match purposeId with
  | some purposeId => (project.purposes.find? fun purpose => purpose.id = purposeId).toList
  | none =>
      project.purposes.insertionSort fun left right =>
        locale.localeCompare left.id right.id ≠ .gt

/-- `evaluation.evaluations` of what has been read. -/
def purposeEvaluations (locale : Collation) (purposeId : Option PurposeId) (evaluation : CapacityEvaluation) :
    List PurposeEvaluation :=
  match evaluation.project with
  | none => []
  | some project =>
      let purposes := selectCapacityPurposes locale project purposeId
      match evaluation.state with
      | some state =>
          purposes.map (evaluatePurposeCapacity locale evaluation.inventory project state)
      | none =>
          if evaluation.hostConfigured then
            purposes.map fun purpose => unknownPurposeCapacityReport purpose .inventoryUnavailable
          else purposes.map fun purpose => setupMissingPurposeReport purpose .missingHostConfig

/-! ## When a purpose is available, and when it asks for a simulator -/

variable {locale : Collation} {inventory : Option SimctlInventory} {project : ProjectConfig} {state : BrokerState}
  {purpose : Purpose}

@[simp] theorem evaluatePurposeCapacity_purpose :
    (evaluatePurposeCapacity locale inventory project state purpose).purpose = purpose := by
  unfold evaluatePurposeCapacity
  split
  · rfl
  · split
    · unfold evaluateMissingCapacity
      cases capacityProvisioningPolicy purpose with
      | none => rfl
      | some requirement =>
          cases capacityProvisioning locale inventory purpose with
          | error blocker => rfl
          | ok provisioning => rfl
    · unfold evaluateBlockedCapacity
      simp only
      split
      all_goals rfl

theorem status_available_iff :
    (evaluatePurposeCapacity locale inventory project state purpose).status = .available ↔
      availableCandidates state project purpose ≠ [] := by
  unfold evaluatePurposeCapacity
  split
  · next havailable => exact iff_of_true rfl havailable
  · next hnone =>
      refine iff_of_false ?_ hnone
      split
      · unfold evaluateMissingCapacity
        cases capacityProvisioningPolicy purpose with
        | none => rintro ⟨⟩
        | some requirement =>
            cases capacityProvisioning locale inventory purpose with
            | error blocker => rintro ⟨⟩
            | ok provisioning => rintro ⟨⟩
      · unfold evaluateBlockedCapacity
        simp only
        split
        all_goals rintro ⟨⟩

/-- A simulator is asked for exactly when no alias of the right kind exists and one can be
provisioned. -/
theorem createCapacity_iff :
    (evaluatePurposeCapacity locale inventory project state purpose).createCapacity = true ↔
      structuralCandidates state project purpose = [] ∧
        ∃ provisioning, capacityProvisioning locale inventory purpose = .ok provisioning := by
  unfold evaluatePurposeCapacity
  split
  · next havailable =>
      constructor
      · rintro ⟨⟩
      · rintro ⟨hnone, -⟩
        exact absurd (by simp [availableCandidates, hnone]) havailable
  · split
    · next hnone =>
        rw [hnone]
        unfold evaluateMissingCapacity capacityProvisioning
        cases hpolicy : capacityProvisioningPolicy purpose with
        | none => simp
        | some requirement =>
            cases hprov : capacityProvisioningForRequirement locale inventory requirement with
            | error blocker => simp [hprov]
            | ok provisioning => simp [hprov]
    · next hsome =>
        constructor
        · unfold evaluateBlockedCapacity
          simp only
          split
          all_goals rintro ⟨⟩
        · rintro ⟨hnone, -⟩
          exact absurd hnone hsome

end SimulatorBroker.Capacity
