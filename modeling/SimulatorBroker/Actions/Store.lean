import Mathlib.Logic.Function.Basic

/-!
# What the dashboard store sets in motion

All of the store runs on the main actor, so one event is one turn between two suspension
points.  A task's later turns begin with the answer it has waited for.  A refresh is known by
what it publishes; how refreshes supersede one another is a matter of its own.  An answer that
the store keeps is kept with the epochs in which it was asked for and received.
-/

namespace SimulatorBroker.Actions

/-! ## What is loaded -/

/-- `BrokerProjectSummary`; the path is trimmed, and there is none where nothing is left. -/
structure Project where
  projectId : String
  projectFilePath : Option String
  deriving DecidableEq, Repr

/-- `BrokerSimulator`, with what the read model says of its lease and its pins. -/
structure Simulator where
  aliasName : String
  health : String
  powerState : String
  leased : Bool
  pinned : Bool
  hasEligiblePinProjects : Bool
  deriving DecidableEq, Repr

structure AppSnapshot where
  projects : List Project := []
  simulators : List Simulator := []
  deriving DecidableEq, Repr

/-- `BrokerLoadedState`; the service stands for its metadata. -/
structure BrokerLoadedState where
  hostConfigExists : Bool := true
  service : Option String := none
  snapshot : Option AppSnapshot := none
  serviceRequiresRestart : Bool := false
  deriving DecidableEq, Repr

/-- How a refresh that publishes anything ends; the recovered state is the one of a partial
failure. -/
inductive RefreshResult where
  | loaded (state : BrokerLoadedState)
  | failed (fileExists : Bool) (recovered : Option BrokerLoadedState)
  deriving DecidableEq, Repr

/-! ## Requests and answers -/

inductive Pane where
  | overview
  | simulators
  | projects
  | events
  deriving DecidableEq, Repr

inductive LifecycleAction where
  | boot
  | shutdown
  | erase
  | repair
  | delete
  deriving DecidableEq, Repr

def LifecycleAction.requiresDestructiveConfirmation : LifecycleAction → Bool
  | .erase | .repair | .delete => true
  | .boot | .shutdown => false

inductive SetupPhase where
  | idle
  | previewing
  | awaitingConfirmation
  | applying
  deriving DecidableEq, Repr

inductive SetupStatus where
  | blocked
  | changesRequired
  | ready
  deriving DecidableEq, Repr

/-- An answer with the epochs in which it was asked for and received. -/
structure Received (α : Type) where
  answer : α
  sent : Nat
  received : Nat
  deriving DecidableEq, Repr

/-- `BrokerPendingIdleCleanupRequest`. -/
structure IdleCleanup where
  eligibleCount : Int
  planId : String
  deriving DecidableEq, Repr

structure CapacityPreview where
  actions : List String
  blockedReasons : List String
  planId : String
  status : String
  deriving DecidableEq, Repr

structure CapacitySheet where
  isLoading : Bool
  preview : Option (Received CapacityPreview)
  previewError : Option String
  projectId : String
  purposeId : Option String
  deriving DecidableEq, Repr

structure LifecycleRequest where
  action : LifecycleAction
  aliasName : String
  deriving DecidableEq, Repr

/-- `BrokerLifecycleOverrideRequest`, with the lease of the current holder. -/
structure LifecycleOverride where
  action : LifecycleAction
  aliasName : String
  leaseId : String
  deriving DecidableEq, Repr

structure SetupPlan where
  planId : String
  status : SetupStatus
  confirmationRequired : Bool
  deriving DecidableEq, Repr

/-- What the store reads of a `BrokerCommandEnvelope`. -/
structure CommandEnvelope where
  actions : Option (List String) := none
  blockedReasons : Option (List String) := none
  eligibleCount : Option Int := none
  planId : Option String := none
  status : Option String := none
  deriving DecidableEq, Repr

/-- `BrokerServiceCommandError`; the holder is known by its lease. -/
structure ServiceCommandError where
  currentHolder : Option String := none
  message : String := ""
  reasonCode : Option String := none
  deriving DecidableEq, Repr

namespace ServiceCommandError

def needsOverrideConfirmation (error : ServiceCommandError) : Bool :=
  error.reasonCode = some "override-required" || error.reasonCode = some "human-override-required"

def overrideRequest (error : ServiceCommandError) (request : LifecycleRequest) :
    Option LifecycleOverride :=
  if error.needsOverrideConfirmation then
    error.currentHolder.map fun leaseId =>
      { action := request.action, aliasName := request.aliasName, leaseId }
  else none

end ServiceCommandError

/-- How `commandClient.send` ends. -/
inductive CommandAnswer where
  | envelope (envelope : CommandEnvelope)
  | rejected (error : ServiceCommandError)
  | failed (message : String)
  deriving DecidableEq, Repr

/-- How a step of the guided setup ends. -/
inductive StepAnswer (α : Type) where
  | answered (answer : α)
  | cancelled
  | failed
  deriving DecidableEq, Repr

/-! ## Tasks -/

/-- What a task does; a lifecycle action and a guided setup carry what they have captured. -/
inductive Job where
  | mutation
  | lifecycle (request : LifecycleRequest) (authorityEpoch : Nat)
  | idleCleanupPreview (previewGeneration : Nat)
  | capacityPreview (projectId : String) (purposeId : Option String)
  | guidedSetup (generation stopGeneration : Nat) (confirmed : Option (Received SetupPlan))
  deriving DecidableEq, Repr

/-- Where a task is: not yet begun, waiting for the command it has sent, for the setup to be
applied, for `requireRefreshAfterMutation`, for the refresh after a failed setup or for
`refreshAfterSetupCancellation`. -/
inductive Stage where
  | absent
  | queued
  | sent (epoch : Nat)
  | applying
  | refreshing
  | concluding
  | recovering
  | ended
  deriving DecidableEq, Repr

structure ActionTask where
  job : Job := .mutation
  stage : Stage := .absent
  cancelled : Bool := false
  deriving DecidableEq, Repr

/-- Where a loop of `start` is: not yet begun, asleep, or waiting for a refresh that it has
started. -/
inductive LoopStage where
  | absent
  | queued
  | asleep
  | refreshing
  | ended
  deriving DecidableEq, Repr

/-- A refresh loop with the stop generation of its start. -/
structure RefreshLoop where
  stopGeneration : Nat := 0
  stage : LoopStage := .absent
  cancelled : Bool := false
  deriving DecidableEq, Repr

/-- A plan or a lease that a confirm action submits. -/
structure Submission where
  identifier : String
  received : Nat
  confirmed : Nat
  recovery : Bool := false
  deriving DecidableEq, Repr

/-- The events of the store.  A refresh may move the inspected alias, and `setupRefreshed` is
one that preserves the guided setup. -/
inductive Event where
  | selectPane (pane : Pane)
  | inspect (aliasName : Option String)
  | requestIdleCleanup
  | confirmIdleCleanup
  | beginAddSimulators
  | updateCapacitySelection (projectId : String) (purposeId : Option String)
  | cancelAddSimulators
  | confirmAddSimulators
  | requestLifecycleAction (action : LifecycleAction)
  | confirmPendingLifecycleAction
  | confirmOverrideRequest (reason : String)
  | mutate
  | requestGuidedSetup
  | confirmGuidedSetup
  | cancelGuidedSetup
  | stopGuidedSetup
  | start
  | stop
  | loopTurn (id : Nat)
  | refreshed (result : RefreshResult) (inspected : Option String)
  | setupRefreshed (id : Nat) (result : RefreshResult) (inspected : Option String)
  | begin (id : Nat)
  | answered (id : Nat) (answer : CommandAnswer)
  | previewed (id : Nat) (answer : StepAnswer SetupPlan)
  | applied (id : Nat) (answer : StepAnswer Unit)
  | returned (id : Nat) (answer : StepAnswer Unit)
  | concluded (id : Nat)
  | recovered (id : Nat)
  deriving DecidableEq, Repr

/-- The store.  `setupFailed` says that a failed setup has kept its plan, and `submissions`
lists what confirm actions have submitted. -/
structure ActionStore where
  loadedState : Option BrokerLoadedState := none
  serviceStatusUnverified : Bool := false
  serviceAuthorityEpoch : Nat := 0
  idleCleanupPreviewGeneration : Nat := 0
  setupGeneration : Nat := 0
  storeStopGeneration : Nat := 0
  selectedPane : Pane := .overview
  inspectedSimulatorAlias : Option String := none
  isApplyingAction : Bool := false
  capacityPreviewPending : Bool := false
  capacitySheet : Option CapacitySheet := none
  pendingIdleCleanupRequest : Option (Received IdleCleanup) := none
  pendingLifecycleRequest : Option LifecycleRequest := none
  pendingOverrideRequest : Option (Received LifecycleOverride) := none
  pendingSetupConfirmation : Option String := none
  setupPhase : SetupPhase := .idle
  setupPlan : Option (Received SetupPlan) := none
  setupTask : Option Nat := none
  refreshTask : Option Nat := none
  tasks : Nat → ActionTask := fun _ => {}
  nextTask : Nat := 0
  loops : Nat → RefreshLoop := fun _ => {}
  nextLoop : Nat := 0
  setupFailed : Bool := false
  submissions : List Submission := []

namespace ActionStore

def setTask (store : ActionStore) (id : Nat) (task : ActionTask) : ActionStore :=
  { store with tasks := Function.update store.tasks id task }

def setStage (store : ActionStore) (id : Nat) (stage : Stage) : ActionStore :=
  store.setTask id { store.tasks id with stage }

def spawn (store : ActionStore) (job : Job) : ActionStore :=
  { store.setTask store.nextTask { job, stage := .queued } with nextTask := store.nextTask + 1 }

/-- `setupTask?.cancel()`. -/
def cancelSetupTask (store : ActionStore) : ActionStore :=
  match store.setupTask with
  | none => store
  | some id => store.setTask id { store.tasks id with cancelled := true }

def submit (store : ActionStore) (identifier : String) (received : Nat) (recovery : Bool := false) :
    ActionStore :=
  { store with
    submissions :=
      { identifier, received, confirmed := store.serviceAuthorityEpoch, recovery } ::
        store.submissions }

/-! ## What may be sent -/

def serviceRequiresRestart (store : ActionStore) : Bool :=
  store.loadedState.any (·.serviceRequiresRestart) && !store.serviceStatusUnverified

def canSendCommands (store : ActionStore) : Bool :=
  store.loadedState.any (·.service.isSome) && !store.serviceRequiresRestart &&
    !store.serviceStatusUnverified

def snapshot (store : ActionStore) : Option AppSnapshot :=
  store.loadedState.bind (·.snapshot)

def selectedSimulator (store : ActionStore) : Option Simulator := do
  let snapshot ← store.snapshot
  let aliasName ← store.inspectedSimulatorAlias
  snapshot.simulators.find? (·.aliasName = aliasName)

end ActionStore

structure CommandAvailability where
  canRefreshSnapshot : Bool
  canBootSimulator : Bool := false
  canShutdownSimulator : Bool := false
  canEraseSimulator : Bool := false
  canRepairSimulator : Bool := false
  canDeleteSimulator : Bool := false
  canReleaseLease : Bool := false
  canCreatePin : Bool := false
  canClearPin : Bool := false
  deriving DecidableEq, Repr

/-- `selectedSimulatorAllowsLifecycleMutation`. -/
def Simulator.allowsLifecycleMutation (simulator : Simulator) : Bool :=
  simulator.health = "healthy" || simulator.health = "state-drift"

namespace ActionStore

def commandAvailability (store : ActionStore) : CommandAvailability :=
  let canMutate := store.canSendCommands && !store.isApplyingAction
  let canRefreshSnapshot := !store.isApplyingAction
  match store.selectedSimulator with
  | none => { canRefreshSnapshot }
  | some simulator =>
      { canRefreshSnapshot
        canBootSimulator :=
          canMutate && simulator.allowsLifecycleMutation && simulator.powerState != "booted"
        canShutdownSimulator :=
          canMutate && simulator.allowsLifecycleMutation && simulator.powerState == "booted"
        canEraseSimulator := canMutate && simulator.allowsLifecycleMutation
        canRepairSimulator := canMutate
        canDeleteSimulator :=
          canMutate && !simulator.leased && !simulator.pinned && simulator.health != "repairing"
        canReleaseLease := canMutate && simulator.leased
        canCreatePin := canMutate && !simulator.pinned && simulator.hasEligiblePinProjects
        canClearPin := canMutate && simulator.pinned }

def lifecycleActionIsEnabled (store : ActionStore) : LifecycleAction → Bool
  | .boot => store.commandAvailability.canBootSimulator
  | .shutdown => store.commandAvailability.canShutdownSimulator
  | .erase => store.commandAvailability.canEraseSimulator
  | .repair => store.commandAvailability.canRepairSimulator
  | .delete => store.commandAvailability.canDeleteSimulator

/-! ## Authority -/

def clearPendingSimulatorPrompts (store : ActionStore) : ActionStore :=
  { store with
    capacityPreviewPending := false
    capacitySheet := none
    pendingLifecycleRequest := none
    pendingOverrideRequest := none }

def cancelGuidedSetup (store : ActionStore) : ActionStore :=
  if store.setupPhase = .applying then store
  else
    { store.cancelSetupTask with
      setupTask := none
      pendingSetupConfirmation := none
      setupPlan := none
      setupPhase := .idle
      isApplyingAction := false }

def clearPendingMutationAffordances (store : ActionStore) (preservingGuidedSetup : Bool) :
    ActionStore :=
  let cleared :=
    { store with
      idleCleanupPreviewGeneration := store.idleCleanupPreviewGeneration + 1
      pendingIdleCleanupRequest := none }.clearPendingSimulatorPrompts
  if preservingGuidedSetup = false ∧
      (store.setupPhase = .previewing ∨ store.setupPhase = .awaitingConfirmation) then
    cleared.cancelGuidedSetup
  else cleared

def advanceServiceAuthorityEpoch (store : ActionStore) (preservingGuidedSetup : Bool) :
    ActionStore :=
  { store with serviceAuthorityEpoch := store.serviceAuthorityEpoch + 1
    }.clearPendingMutationAffordances preservingGuidedSetup

/-- The service or its need of a restart differs from what is cached. -/
def authorityDiffers (store : ActionStore) (state : BrokerLoadedState) : Bool :=
  store.loadedState.bind (·.service) ≠ state.service ||
    store.loadedState.map (·.serviceRequiresRestart) ≠ some state.serviceRequiresRestart

def acceptAuthority (store : ActionStore) (state : BrokerLoadedState)
    (preservingGuidedSetup : Bool) : ActionStore :=
  if store.authorityDiffers state then store.advanceServiceAuthorityEpoch preservingGuidedSetup
  else store

def acceptRecoverablePartialState (store : ActionStore) (recovered : BrokerLoadedState)
    (preservingGuidedSetup : Bool) : ActionStore :=
  { store.acceptAuthority recovered preservingGuidedSetup with
    loadedState := some { recovered with snapshot := store.snapshot }
    serviceStatusUnverified := false }

def replaceCachedServiceAuthority (store : ActionStore) (state : BrokerLoadedState) :
    ActionStore :=
  { store with loadedState := some { state with service := none, serviceRequiresRestart := false } }

def markServiceStatusUnverified (store : ActionStore) : ActionStore :=
  { store.advanceServiceAuthorityEpoch false with serviceStatusUnverified := true }

/-- What a failed load makes of the cached authority. -/
def afterFailure (store : ActionStore) (fileExists : Bool) : ActionStore :=
  let couldAuthorize := store.loadedState.any (·.hostConfigExists) || fileExists
  match store.loadedState with
  | some state =>
      if couldAuthorize then
        (store.replaceCachedServiceAuthority state).markServiceStatusUnverified
      else if state.service.isSome || state.serviceRequiresRestart then
        (store.replaceCachedServiceAuthority state).advanceServiceAuthorityEpoch false
      else store
  | none => if couldAuthorize then store.markServiceStatusUnverified else store

/-- What the newest refresh does with the result of its load. -/
def publish (store : ActionStore) (preservingGuidedSetup : Bool) : RefreshResult → ActionStore
  | .loaded state =>
      { store.acceptAuthority state preservingGuidedSetup with
        loadedState := some state
        serviceStatusUnverified := false }
  | .failed fileExists recovered =>
      match recovered with
      | some state =>
          if state.service = none ∨ state.serviceRequiresRestart = true then
            store.acceptRecoverablePartialState state preservingGuidedSetup
          else store.afterFailure fileExists
      | none => store.afterFailure fileExists

/-- The observer of `selectedPane`. -/
def selectPane (store : ActionStore) (pane : Pane) : ActionStore :=
  let selected := { store with selectedPane := pane }
  let overviewed :=
    if pane ≠ .overview then
      { selected with
        idleCleanupPreviewGeneration := store.idleCleanupPreviewGeneration + 1
        pendingIdleCleanupRequest := none }
    else selected
  if pane ≠ .simulators then overviewed.clearPendingSimulatorPrompts else overviewed

/-! ## Mutations -/

/-- `executeMutation` up to its command; without authority it throws. -/
def executeMutation (store : ActionStore) (id : Nat) : ActionStore :=
  if store.canSendCommands then
    { store.setStage id (.sent store.serviceAuthorityEpoch) with isApplyingAction := true }
  else store.setStage id .ended

/-- `executeMutation` returns or throws. -/
def finishMutation (store : ActionStore) (id : Nat) : ActionStore :=
  { store.setStage id .ended with isApplyingAction := false }

def runLifecycleAction (store : ActionStore) (request : LifecycleRequest) : ActionStore :=
  store.spawn (.lifecycle request store.serviceAuthorityEpoch)

def canPresentSimulatorPrompt (store : ActionStore) (aliasName : String) : Bool :=
  store.selectedPane = .simulators && store.inspectedSimulatorAlias = some aliasName

/-- The prompt after a lifecycle action that was rejected. -/
def presentOverride (store : ActionStore) (request : LifecycleRequest) (authorityEpoch sent : Nat)
    (error : ServiceCommandError) : ActionStore :=
  match error.overrideRequest request with
  | none => store
  | some override =>
      if request.action ≠ .delete ∧ authorityEpoch = store.serviceAuthorityEpoch ∧
          store.canSendCommands ∧ store.canPresentSimulatorPrompt request.aliasName then
        { store with
          pendingOverrideRequest :=
            some { answer := override, sent, received := store.serviceAuthorityEpoch } }
      else store

def requestLifecycleAction (store : ActionStore) (action : LifecycleAction) : ActionStore :=
  match store.inspectedSimulatorAlias with
  | none => store
  | some aliasName =>
      if store.lifecycleActionIsEnabled action then
        if action.requiresDestructiveConfirmation then
          { store with pendingLifecycleRequest := some { action, aliasName } }
        else store.runLifecycleAction { action, aliasName }
      else store

def confirmPendingLifecycleAction (store : ActionStore) : ActionStore :=
  let cleared := { store with pendingLifecycleRequest := none }
  match store.pendingLifecycleRequest with
  | none => cleared
  | some request =>
      if store.canSendCommands then cleared.runLifecycleAction request else cleared

def confirmOverrideRequest (store : ActionStore) (reason : String) : ActionStore :=
  let cleared := { store with pendingOverrideRequest := none }
  if store.canSendCommands then
    match store.pendingOverrideRequest with
    | none => store
    | some override =>
        if reason.toList.any (!·.isWhitespace) then
          (cleared.submit override.answer.leaseId override.received).runLifecycleAction
            { action := override.answer.action, aliasName := override.answer.aliasName }
        else store
  else cleared

/-! ## Idle cleanup -/

def requestIdleCleanup (store : ActionStore) : ActionStore :=
  if store.canSendCommands && !store.isApplyingAction then
    { store.spawn (.idleCleanupPreview (store.idleCleanupPreviewGeneration + 1)) with
      idleCleanupPreviewGeneration := store.idleCleanupPreviewGeneration + 1
      isApplyingAction := true }
  else store

/-- The preview of an idle cleanup ends. -/
def idleCleanupPreviewed (store : ActionStore) (id previewGeneration sent : Nat)
    (answer : CommandAnswer) : ActionStore :=
  let ended := { store.setStage id .ended with isApplyingAction := false }
  match answer with
  | .envelope { eligibleCount := some eligibleCount, planId := some planId, .. } =>
      if planId ≠ "" ∧ store.selectedPane = .overview ∧
          previewGeneration = store.idleCleanupPreviewGeneration then
        if eligibleCount = 0 then { ended with pendingIdleCleanupRequest := none }
        else
          { ended with
            pendingIdleCleanupRequest := some
              { answer := { eligibleCount, planId }, sent
                received := store.serviceAuthorityEpoch } }
      else ended
  | _ => ended

def confirmIdleCleanup (store : ActionStore) : ActionStore :=
  let cleared := { store with pendingIdleCleanupRequest := none }
  match store.pendingIdleCleanupRequest with
  | none => cleared
  | some cleanup =>
      if store.canSendCommands then
        (cleared.submit cleanup.answer.planId cleanup.received).spawn .mutation
      else cleared

/-! ## Capacity -/

def capacityProjects (store : ActionStore) : List Project :=
  match store.snapshot with
  | none => []
  | some snapshot => snapshot.projects.filter (·.projectFilePath.isSome)

def capacityProject (store : ActionStore) (projectId : String) : Option Project :=
  store.capacityProjects.find? (·.projectId = projectId)

def publishCapacityPreviewFailure (store : ActionStore) (message : String) : ActionStore :=
  match store.capacitySheet with
  | none => store
  | some sheet =>
      { store with
        capacitySheet := some
          { sheet with isLoading := false, preview := none, previewError := some message } }

def loadCapacityPreview (store : ActionStore) : ActionStore :=
  match store.capacitySheet with
  | none => { store with capacityPreviewPending := false }
  | some sheet =>
      if store.selectedPane ≠ .simulators then { store with capacityPreviewPending := false }
      else if store.isApplyingAction then { store with capacityPreviewPending := true }
      else
        match store.capacityProject sheet.projectId with
        | none =>
            { store with capacityPreviewPending := false }.publishCapacityPreviewFailure
              "The selected project is missing a project file path."
        | some _ =>
            { store.spawn (.capacityPreview sheet.projectId sheet.purposeId) with
              capacityPreviewPending := false
              isApplyingAction := true }

def beginAddSimulators (store : ActionStore) : ActionStore :=
  if store.canSendCommands && !store.isApplyingAction && store.capacitySheet.isNone &&
      store.selectedPane = .simulators then
    match store.capacityProjects with
    | [] => store
    | project :: _ =>
        { store with
          capacitySheet := some
            { isLoading := true, preview := none, previewError := none
              projectId := project.projectId, purposeId := none } }.loadCapacityPreview
  else store

def updateCapacitySelection (store : ActionStore) (projectId : String)
    (purposeId : Option String) : ActionStore :=
  match store.capacitySheet with
  | none => store
  | some sheet =>
      if sheet.projectId ≠ projectId ∨ sheet.purposeId ≠ purposeId then
        { store with
          capacitySheet := some
            { isLoading := true, preview := none, previewError := none
              projectId, purposeId } }.loadCapacityPreview
      else store

def cancelAddSimulators (store : ActionStore) : ActionStore :=
  { store with capacityPreviewPending := false, capacitySheet := none }

def selectionStillMatches (store : ActionStore) (projectId : String)
    (purposeId : Option String) : Bool :=
  store.selectedPane = .simulators &&
    store.capacitySheet.any fun sheet =>
      sheet.projectId = projectId && sheet.purposeId = purposeId

/-- The end of a capacity preview, which may send the next one. -/
def continueCapacityPreview (store : ActionStore) (shouldContinue : Bool) : ActionStore :=
  let released := { store with isApplyingAction := false }
  if shouldContinue || store.capacityPreviewPending then
    { released with capacityPreviewPending := false }.loadCapacityPreview
  else released

/-- What the sheet shows after an answer for its selection. -/
def showCapacityPreview (store : ActionStore) (sent : Nat) : CommandAnswer → ActionStore
  | .envelope { planId := some planId, status := some status, actions, blockedReasons, .. } =>
      if planId ≠ "" ∧ status ≠ "" then
        { store with
          capacitySheet := store.capacitySheet.map fun sheet =>
            { sheet with
              isLoading := false
              previewError := none
              preview := some
                { answer :=
                    { actions := actions.getD [], blockedReasons := blockedReasons.getD []
                      planId, status }
                  sent, received := store.serviceAuthorityEpoch } } }
      else store.publishCapacityPreviewFailure "Capacity preview did not include a plan."
  | .envelope _ => store.publishCapacityPreviewFailure "Capacity preview did not include a plan."
  | .rejected error => store.publishCapacityPreviewFailure error.message
  | .failed message => store.publishCapacityPreviewFailure message

/-- The preview of a capacity plan ends. -/
def capacityPreviewed (store : ActionStore) (id sent : Nat) (projectId : String)
    (purposeId : Option String) (answer : CommandAnswer) : ActionStore :=
  let ended := store.setStage id .ended
  if store.selectionStillMatches projectId purposeId then
    (ended.showCapacityPreview sent answer).continueCapacityPreview false
  else
    ended.continueCapacityPreview
      (store.capacitySheet.isSome && store.selectedPane = .simulators)

def confirmAddSimulators (store : ActionStore) : ActionStore :=
  match store.capacitySheet with
  | none => store
  | some sheet =>
      match sheet.preview with
      | none => store
      | some preview =>
          if store.canSendCommands ∧ store.isApplyingAction = false ∧
              preview.answer.status = "changes_required" ∧ preview.answer.actions ≠ [] ∧
              (store.capacityProject sheet.projectId).isSome then
            ({ store with capacityPreviewPending := false, capacitySheet := none }.submit
              preview.answer.planId preview.received).spawn .mutation
          else store

/-! ## Guided setup -/

/-- The generations of a setup run are the current ones. -/
def isCurrentSetup (store : ActionStore) (generation stopGeneration : Nat) : Bool :=
  generation = store.setupGeneration && stopGeneration = store.storeStopGeneration

/-- A new setup run takes the place of an earlier one. -/
def replaceSetup (store : ActionStore) (confirmed : Option (Received SetupPlan))
    (setupPhase : SetupPhase) : ActionStore :=
  let cancelled := store.cancelSetupTask
  { cancelled.spawn
      (.guidedSetup (store.setupGeneration + 1) store.storeStopGeneration confirmed) with
    setupGeneration := store.setupGeneration + 1
    setupPhase
    isApplyingAction := true
    setupTask := some store.nextTask }

def requestGuidedSetup (store : ActionStore) : ActionStore :=
  if store.serviceStatusUnverified then store else store.replaceSetup none .previewing

def confirmGuidedSetup (store : ActionStore) : ActionStore :=
  if store.serviceStatusUnverified then
    if store.setupPhase = .awaitingConfirmation then store.cancelGuidedSetup else store
  else
    match store.setupPlan with
    | none => store
    | some plan =>
        if store.setupPhase = .awaitingConfirmation ∧
            store.pendingSetupConfirmation = some plan.answer.planId ∧
            plan.answer.status ≠ .blocked then
          (store.submit plan.answer.planId plan.received store.setupFailed).replaceSetup
            (some plan) .applying
        else store

def stopGuidedSetup (store : ActionStore) : ActionStore :=
  if store.setupPhase = .applying then store.cancelSetupTask else store

/-- A setup run returns; while its generations are current it gives up its place. -/
def finishSetup (store : ActionStore) (id generation stopGeneration : Nat) : ActionStore :=
  let ended := store.setStage id .ended
  if store.isCurrentSetup generation stopGeneration then
    { ended with isApplyingAction := false, setupTask := none }
  else ended

/-- A `CancellationError` leaves the setup for `refreshAfterSetupCancellation`. -/
def abandonSetup (store : ActionStore) (id generation stopGeneration : Nat) : ActionStore :=
  if store.storeStopGeneration = stopGeneration then store.setStage id .recovering
  else store.finishSetup id generation stopGeneration

def clearSetup (store : ActionStore) : ActionStore :=
  { store with pendingSetupConfirmation := none, setupPlan := none, setupPhase := .idle }

/-- `applyGuidedSetup` up to its command. -/
def applyGuidedSetup (store : ActionStore) (id generation stopGeneration : Nat) : ActionStore :=
  if (store.tasks id).cancelled = false ∧ store.isCurrentSetup generation stopGeneration ∧
      store.serviceStatusUnverified = false then
    { store.setStage id .applying with setupPhase := .applying }
  else store.abandonSetup id generation stopGeneration

/-- The first turn of a setup run. -/
def beginSetup (store : ActionStore) (id generation stopGeneration : Nat)
    (confirmed : Option (Received SetupPlan)) : ActionStore :=
  match confirmed with
  | some _ => store.applyGuidedSetup id generation stopGeneration
  | none =>
      if (store.tasks id).cancelled = false ∧ store.isCurrentSetup generation stopGeneration ∧
          store.serviceStatusUnverified = false then
        store.setStage id (.sent store.serviceAuthorityEpoch)
      else store.abandonSetup id generation stopGeneration

/-- What an uncancelled run does with its plan. -/
def admitSetupPlan (store : ActionStore) (id generation stopGeneration sent : Nat)
    (plan : SetupPlan) : ActionStore :=
  let kept : Received SetupPlan :=
    { answer := plan, sent, received := store.serviceAuthorityEpoch }
  if generation ≠ store.setupGeneration ∨ store.serviceStatusUnverified = true then
    store.finishSetup id generation stopGeneration
  else if plan.status = .blocked then
    { store with
      setupPlan := some kept, pendingSetupConfirmation := none
      setupPhase := .awaitingConfirmation, setupFailed := false
      }.finishSetup id generation stopGeneration
  else if plan.confirmationRequired then
    { store with
      setupPlan := some kept, pendingSetupConfirmation := some plan.planId
      setupPhase := .awaitingConfirmation, setupFailed := false
      }.finishSetup id generation stopGeneration
  else
    let cleared := { store with setupPlan := none, pendingSetupConfirmation := none }
    if plan.status = .ready then cleared.setStage id .refreshing
    else cleared.applyGuidedSetup id generation stopGeneration

def setupPreviewed (store : ActionStore) (id generation stopGeneration sent : Nat) :
    StepAnswer SetupPlan → ActionStore
  | .answered plan =>
      if (store.tasks id).cancelled then store.abandonSetup id generation stopGeneration
      else store.admitSetupPlan id generation stopGeneration sent plan
  | .cancelled => store.abandonSetup id generation stopGeneration
  | .failed => store.setStage id .concluding

def setupApplied (store : ActionStore) (id generation stopGeneration : Nat) :
    StepAnswer Unit → ActionStore
  | .answered _ =>
      if (store.tasks id).cancelled then store.abandonSetup id generation stopGeneration
      else store.setStage id .refreshing
  | .cancelled => store.abandonSetup id generation stopGeneration
  | .failed => store.setStage id .concluding

/-- `requireRefreshAfterMutation` returns to a setup run. -/
def setupReturned (store : ActionStore) (id generation stopGeneration : Nat)
    (answer : StepAnswer Unit) : ActionStore :=
  if (store.tasks id).cancelled then store.abandonSetup id generation stopGeneration
  else
    match answer with
    | .answered _ =>
        if store.canSendCommands then store.clearSetup.finishSetup id generation stopGeneration
        else store.setStage id .concluding
    | .cancelled => store.abandonSetup id generation stopGeneration
    | .failed => store.setStage id .concluding

/-- The refresh after a failed setup has ended; a confirmed plan stays for another try. -/
def setupConcluded (store : ActionStore) (id generation stopGeneration : Nat)
    (confirmed : Option (Received SetupPlan)) : ActionStore :=
  let judged :=
    if store.isCurrentSetup generation stopGeneration then
      if (store.tasks id).cancelled then store.clearSetup
      else if confirmed = none ∧ store.setupPlan = none then { store with setupPhase := .idle }
      else { store with setupPhase := .awaitingConfirmation, setupFailed := true }
    else store
  judged.finishSetup id generation stopGeneration

/-- `refreshAfterSetupCancellation` has ended. -/
def setupRecovered (store : ActionStore) (id generation stopGeneration : Nat) : ActionStore :=
  let judged :=
    if store.isCurrentSetup generation stopGeneration then store.clearSetup else store
  judged.finishSetup id generation stopGeneration

/-! ## The refresh loop -/

def setLoop (store : ActionStore) (id : Nat) (loop : RefreshLoop) : ActionStore :=
  { store with loops := Function.update store.loops id loop }

/-- `start`, unless the store has a loop. -/
def start (store : ActionStore) : ActionStore :=
  if store.refreshTask.isSome then store
  else
    { store.setLoop store.nextLoop
        { stopGeneration := store.storeStopGeneration, stage := .queued } with
      refreshTask := some store.nextLoop
      nextLoop := store.nextLoop + 1 }

/-- The loop starts a refresh in this turn: in its first, whatever is being applied, and when it
has slept, unless an action is applied. -/
def loopRefreshes (store : ActionStore) (id : Nat) : Bool :=
  !(store.loops id).cancelled && (store.loops id).stopGeneration == store.storeStopGeneration &&
    match (store.loops id).stage with
    | .queued => true
    | .asleep => !store.isApplyingAction
    | _ => false

/-- A turn of the loop, which ends where it finds itself cancelled. -/
def loopTurn (store : ActionStore) (id : Nat) : ActionStore :=
  let stage : LoopStage :=
    if store.loopRefreshes id then .refreshing
    else if (store.loops id).cancelled then .ended
    else .asleep
  store.setLoop id { store.loops id with stage }

/-- `refreshTask?.cancel()`. -/
def cancelledLoops (store : ActionStore) : Nat → RefreshLoop :=
  match store.refreshTask with
  | none => store.loops
  | some id => Function.update store.loops id { store.loops id with cancelled := true }

/-- `stop`, which cancels the loop and a setup that is active. -/
def stop (store : ActionStore) : ActionStore :=
  let stopped := { store.cancelSetupTask with
    storeStopGeneration := store.storeStopGeneration + 1
    loops := store.cancelledLoops
    refreshTask := none
    setupTask := none }
  if store.setupTask.isSome then { stopped.clearSetup with isApplyingAction := false }
  else stopped

/-! ## Turns -/

/-- A task's first turn. -/
def begin (store : ActionStore) (id : Nat) : ActionStore :=
  match (store.tasks id).job with
  | .mutation | .lifecycle _ _ => store.executeMutation id
  | .idleCleanupPreview _ | .capacityPreview _ _ =>
      store.setStage id (.sent store.serviceAuthorityEpoch)
  | .guidedSetup generation stopGeneration confirmed =>
      store.beginSetup id generation stopGeneration confirmed

/-- The turn after `commandClient.send`. -/
def answered (store : ActionStore) (id sent : Nat) (answer : CommandAnswer) :
    Option ActionStore :=
  match (store.tasks id).job with
  | .mutation =>
      match answer with
      | .envelope _ => some (store.setStage id .refreshing)
      | .rejected _ | .failed _ => some (store.finishMutation id)
  | .lifecycle request authorityEpoch =>
      match answer with
      | .envelope _ => some (store.setStage id .refreshing)
      | .rejected error =>
          some ((store.finishMutation id).presentOverride request authorityEpoch sent error)
      | .failed _ => some (store.finishMutation id)
  | .idleCleanupPreview previewGeneration =>
      some (store.idleCleanupPreviewed id previewGeneration sent answer)
  | .capacityPreview projectId purposeId =>
      some (store.capacityPreviewed id sent projectId purposeId answer)
  | .guidedSetup _ _ _ => none

/-- `requireRefreshAfterMutation` returns. -/
def returned (store : ActionStore) (id : Nat) (answer : StepAnswer Unit) : Option ActionStore :=
  match (store.tasks id).job with
  | .mutation | .lifecycle _ _ => some (store.finishMutation id)
  | .guidedSetup generation stopGeneration _ =>
      some (store.setupReturned id generation stopGeneration answer)
  | .idleCleanupPreview _ | .capacityPreview _ _ => none

/-- A refresh of the setup run may still publish, and preserves the guided setup. -/
def setupMayPublish (store : ActionStore) (id : Nat) : Bool :=
  match (store.tasks id).job, (store.tasks id).stage with
  | .guidedSetup generation stopGeneration _, .refreshing =>
      store.isCurrentSetup generation stopGeneration && !(store.tasks id).cancelled
  | .guidedSetup generation stopGeneration _, .recovering =>
      store.isCurrentSetup generation stopGeneration
  | _, _ => false

def step (store : ActionStore) : Event → Option ActionStore
  | .selectPane pane => some (store.selectPane pane)
  | .inspect aliasName => some { store with inspectedSimulatorAlias := aliasName }
  | .requestIdleCleanup => some store.requestIdleCleanup
  | .confirmIdleCleanup => some store.confirmIdleCleanup
  | .beginAddSimulators => some store.beginAddSimulators
  | .updateCapacitySelection projectId purposeId =>
      some (store.updateCapacitySelection projectId purposeId)
  | .cancelAddSimulators => some store.cancelAddSimulators
  | .confirmAddSimulators => some store.confirmAddSimulators
  | .requestLifecycleAction action => some (store.requestLifecycleAction action)
  | .confirmPendingLifecycleAction => some store.confirmPendingLifecycleAction
  | .confirmOverrideRequest reason => some (store.confirmOverrideRequest reason)
  | .mutate => some (store.spawn .mutation)
  | .requestGuidedSetup => some store.requestGuidedSetup
  | .confirmGuidedSetup => some store.confirmGuidedSetup
  | .cancelGuidedSetup => some store.cancelGuidedSetup
  | .stopGuidedSetup => some store.stopGuidedSetup
  | .start => some store.start
  | .stop => some store.stop
  | .loopTurn id =>
      if (store.loops id).stage = .absent ∨ (store.loops id).stage = .ended then none
      else some (store.loopTurn id)
  | .refreshed result inspected =>
      some { store.publish false result with inspectedSimulatorAlias := inspected }
  | .setupRefreshed id result inspected =>
      if store.setupMayPublish id then
        some { store.publish true result with inspectedSimulatorAlias := inspected }
      else none
  | .begin id => if (store.tasks id).stage = .queued then some (store.begin id) else none
  | .answered id answer =>
      match (store.tasks id).stage with
      | .sent epoch => store.answered id epoch answer
      | _ => none
  | .previewed id answer =>
      match (store.tasks id).job, (store.tasks id).stage with
      | .guidedSetup generation stopGeneration _, .sent epoch =>
          some (store.setupPreviewed id generation stopGeneration epoch answer)
      | _, _ => none
  | .applied id answer =>
      match (store.tasks id).job, (store.tasks id).stage with
      | .guidedSetup generation stopGeneration _, .applying =>
          some (store.setupApplied id generation stopGeneration answer)
      | _, _ => none
  | .returned id answer =>
      if (store.tasks id).stage = .refreshing then store.returned id answer else none
  | .concluded id =>
      match (store.tasks id).job, (store.tasks id).stage with
      | .guidedSetup generation stopGeneration confirmed, .concluding =>
          some (store.setupConcluded id generation stopGeneration confirmed)
      | _, _ => none
  | .recovered id =>
      match (store.tasks id).job, (store.tasks id).stage with
      | .guidedSetup generation stopGeneration _, .recovering =>
          some (store.setupRecovered id generation stopGeneration)
      | _, _ => none

def run (store : ActionStore) (events : List Event) : Option ActionStore :=
  events.foldlM step store

end ActionStore

end SimulatorBroker.Actions
