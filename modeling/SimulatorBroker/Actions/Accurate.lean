import SimulatorBroker.Actions.Busy

/-!
# When the busy flag is accurate

Every turn of the store is a move on its tasks and the flag.  The flag stays accurate on a run
exactly when every turn that clears it finds nothing else in flight.
-/

namespace SimulatorBroker.Actions

open Work

namespace ActionStore

/-- A mutation, a preview or a setup run is in flight. -/
def InFlight (store : ActionStore) (id : Nat) : Prop :=
  store.work.InFlight id

def Alone (store : ActionStore) (id : Nat) : Prop :=
  store.work.Alone id

def OnlySetup (store : ActionStore) : Prop :=
  store.work.OnlySetup

/-! ## The condition -/

/-- A failed load takes the cached authority away. -/
def losesAuthority (store : ActionStore) (fileExists : Bool) : Bool :=
  store.loadedState.any (·.hostConfigExists) || fileExists ||
    store.loadedState.any fun state => state.service.isSome || state.serviceRequiresRestart

/-- A refresh advances the epoch without sparing the guided setup. -/
def advancesUnpreserved (store : ActionStore) (preservingGuidedSetup : Bool) :
    RefreshResult → Bool
  | .loaded state => store.authorityDiffers state && !preservingGuidedSetup
  | .failed fileExists (some state) =>
      if state.service = none ∨ state.serviceRequiresRestart = true then
        store.authorityDiffers state && !preservingGuidedSetup
      else store.losesAuthority fileExists
  | .failed fileExists none => store.losesAuthority fileExists

/-- A refresh lets the guided setup go. -/
def revokesSetup (store : ActionStore) (preservingGuidedSetup : Bool) (result : RefreshResult) :
    Bool :=
  (store.setupPhase = .previewing || store.setupPhase = .awaitingConfirmation) &&
    store.advancesUnpreserved preservingGuidedSetup result

/-- The sheet is open on a project that a capacity preview can be asked for. -/
def sheetHasProject (store : ActionStore) : Bool :=
  store.selectedPane = .simulators &&
    store.capacitySheet.any fun sheet => (store.capacityProject sheet.projectId).isSome

/-- The end of a capacity preview sends the next one. -/
def asksForPreview (store : ActionStore) (projectId : String) (purposeId : Option String) : Bool :=
  (store.capacityPreviewPending || !store.selectionStillMatches projectId purposeId) &&
    store.sheetHasProject

/-- The plan is not followed by a refresh or by its application. -/
def settlesSetup (store : ActionStore) : StepAnswer SetupPlan → Bool
  | .answered plan =>
      store.serviceStatusUnverified || plan.status = .blocked || plan.confirmationRequired
  | .cancelled | .failed => false

/-- A setup run of the current generations is alone. -/
def CurrentAlone (store : ActionStore) (id : Nat) : Prop :=
  match (store.tasks id).job with
  | .guidedSetup generation stopGeneration _ =>
      store.isCurrentSetup generation stopGeneration = true → store.Alone id
  | _ => True

/-- An answer that ends an activity finds it alone. -/
def AnswersOrderly (store : ActionStore) (id : Nat) (answer : CommandAnswer) : Prop :=
  match (store.tasks id).job with
  | .mutation | .lifecycle _ _ => (∀ envelope, answer ≠ .envelope envelope) → store.Alone id
  | .idleCleanupPreview _ => store.Alone id
  | .capacityPreview projectId purposeId =>
      store.asksForPreview projectId purposeId = false → store.Alone id
  | .guidedSetup _ _ _ => True

/-- The return of `requireRefreshAfterMutation` that ends an activity finds it alone. -/
def ReturnsOrderly (store : ActionStore) (id : Nat) (answer : StepAnswer Unit) : Prop :=
  match (store.tasks id).job with
  | .mutation | .lifecycle _ _ => store.Alone id
  | .guidedSetup _ _ _ =>
      (store.tasks id).cancelled = false → answer = .answered () →
        store.canSendCommands = true → store.CurrentAlone id
  | .idleCleanupPreview _ | .capacityPreview _ _ => True

/-- Nothing else is in flight when an activity ends or a setup is let go. -/
def Orderly (store : ActionStore) : Event → Prop
  | .cancelGuidedSetup => store.setupPhase ≠ .applying → store.OnlySetup
  | .confirmGuidedSetup =>
      store.serviceStatusUnverified = true → store.setupPhase = .awaitingConfirmation →
        store.OnlySetup
  | .stop => store.setupTask.isSome = true → store.OnlySetup
  | .refreshed result _ => store.revokesSetup false result = true → store.OnlySetup
  | .setupRefreshed _ result _ => store.revokesSetup true result = true → store.OnlySetup
  | .answered id answer => store.AnswersOrderly id answer
  | .returned id answer => store.ReturnsOrderly id answer
  | .previewed id answer =>
      (store.tasks id).cancelled = false → store.settlesSetup answer = true →
        store.CurrentAlone id
  | .concluded id | .recovered id => store.CurrentAlone id
  | _ => True

theorem running_of_stage {store : ActionStore} {id : Nat} {job : Job} {stage : Stage}
    (hjob : (store.tasks id).job = job) (hstage : (store.tasks id).stage = stage)
    (hruns : ActionTask.running { job, stage } = true) : (store.tasks id).running = true := by
  unfold ActionTask.running at hruns ⊢
  rw [hjob, hstage]
  exact hruns

/-! ## What the functions do to the work -/

section

variable (store : ActionStore)

theorem work_cancelSetupTask : store.cancelSetupTask.work = store.work.cancelSetup := by
  unfold cancelSetupTask Work.cancelSetup
  cases hheld : store.setupTask with
  | none => rw [show store.work.setupTask = none from hheld]
  | some id =>
      rw [show store.work.setupTask = some id from hheld]
      rfl

theorem work_cancelGuidedSetup (hphase : store.setupPhase ≠ .applying) :
    store.cancelGuidedSetup.work = store.work.letGo := by
  unfold cancelGuidedSetup
  rw [if_neg hphase]
  exact congrArg (fun work => { work with setupTask := none, isApplyingAction := false })
    store.work_cancelSetupTask

theorem work_clearPendingMutationAffordances (preservingGuidedSetup : Bool) :
    (store.clearPendingMutationAffordances preservingGuidedSetup).work =
      if preservingGuidedSetup = false ∧
          (store.setupPhase = .previewing ∨ store.setupPhase = .awaitingConfirmation) then
        store.work.letGo
      else store.work := by
  unfold clearPendingMutationAffordances
  dsimp only
  split
  · next hrevoked =>
      apply work_cancelGuidedSetup
      intro happlying
      have hphase : store.setupPhase = .applying := happlying
      rw [hphase] at hrevoked
      rcases hrevoked.2 with h | h <;> cases h
  · rfl

theorem work_advance (preservingGuidedSetup : Bool) :
    (store.advanceServiceAuthorityEpoch preservingGuidedSetup).work =
      if preservingGuidedSetup = false ∧
          (store.setupPhase = .previewing ∨ store.setupPhase = .awaitingConfirmation) then
        store.work.letGo
      else store.work :=
  work_clearPendingMutationAffordances _ _

/-- The work after a refresh. -/
def revoked (advances : Bool) : Work :=
  if (store.setupPhase = .previewing || store.setupPhase = .awaitingConfirmation) && advances then
    store.work.letGo
  else store.work

theorem work_advance_unpreserved :
    (store.advanceServiceAuthorityEpoch false).work = store.revoked true := by
  rw [work_advance]
  unfold revoked
  simp

theorem work_acceptAuthority (state : BrokerLoadedState) (preservingGuidedSetup : Bool) :
    (store.acceptAuthority state preservingGuidedSetup).work =
      store.revoked (store.authorityDiffers state && !preservingGuidedSetup) := by
  unfold acceptAuthority
  cases hdiffers : store.authorityDiffers state with
  | false => simp [revoked]
  | true =>
      rw [if_pos rfl, work_advance]
      unfold revoked
      cases preservingGuidedSetup <;> simp

theorem work_afterFailure (fileExists : Bool) :
    (store.afterFailure fileExists).work = store.revoked (store.losesAuthority fileExists) := by
  unfold afterFailure losesAuthority
  cases hloaded : store.loadedState with
  | none =>
      cases fileExists with
      | false => simp [revoked]
      | true =>
          simp only [Option.any_none, Bool.false_or, Bool.or_false, if_true]
          exact store.work_advance_unpreserved
  | some state =>
      dsimp only [Option.any_some]
      cases hcould : state.hostConfigExists || fileExists with
      | true =>
          rw [if_pos rfl, Bool.true_or]
          exact work_advance_unpreserved (store.replaceCachedServiceAuthority state)
      | false =>
          rw [if_neg Bool.false_ne_true, Bool.false_or]
          cases hserved : state.service.isSome || state.serviceRequiresRestart with
          | true =>
              rw [if_pos rfl]
              exact work_advance_unpreserved (store.replaceCachedServiceAuthority state)
          | false =>
              rw [if_neg Bool.false_ne_true]
              simp [revoked]

theorem work_publish (preservingGuidedSetup : Bool) (result : RefreshResult) :
    (store.publish preservingGuidedSetup result).work =
      store.revoked (store.advancesUnpreserved preservingGuidedSetup result) := by
  cases result with
  | loaded state => exact store.work_acceptAuthority state preservingGuidedSetup
  | failed fileExists recovered =>
      cases recovered with
      | none => exact store.work_afterFailure fileExists
      | some state =>
          unfold publish advancesUnpreserved
          dsimp only
          split
          · exact store.work_acceptAuthority state preservingGuidedSetup
          · exact store.work_afterFailure fileExists

theorem work_presentOverride (request : LifecycleRequest) (authorityEpoch sent : Nat)
    (error : ServiceCommandError) :
    (store.presentOverride request authorityEpoch sent error).work = store.work := by
  unfold presentOverride
  split
  · rfl
  · split <;> rfl

theorem work_selectPane (pane : Pane) : (store.selectPane pane).work = store.work := by
  unfold selectPane
  dsimp only
  split <;> split <;> rfl

theorem work_start : store.start.work = store.work := by
  unfold start
  split <;> rfl

theorem work_publishCapacityPreviewFailure (message : String) :
    (store.publishCapacityPreviewFailure message).work = store.work := by
  unfold publishCapacityPreviewFailure
  split <;> rfl

theorem work_showCapacityPreview (sent : Nat) (answer : CommandAnswer) :
    (store.showCapacityPreview sent answer).work = store.work := by
  unfold showCapacityPreview
  split
  · split
    · rfl
    · exact store.work_publishCapacityPreviewFailure _
  · exact store.work_publishCapacityPreviewFailure _
  · exact store.work_publishCapacityPreviewFailure _
  · exact store.work_publishCapacityPreviewFailure _

/-- A capacity preview is sent when the sheet asks for one and nothing is applied. -/
theorem work_loadCapacityPreview :
    store.loadCapacityPreview.work = store.work ∨
      ∃ projectId purposeId, store.loadCapacityPreview.work =
        (store.work.spawn (.capacityPreview projectId purposeId)).engage := by
  unfold loadCapacityPreview
  split
  · exact .inl rfl
  · next sheet hsheet =>
      split
      · exact .inl rfl
      · split
        · exact .inl rfl
        · split
          · exact .inl (work_publishCapacityPreviewFailure _ _)
          · exact .inr ⟨sheet.projectId, sheet.purposeId, rfl⟩

end

/-! ## Every function is a move -/

section

variable {store : ActionStore} {given : Prop}

theorem keeps_revoked (hsound : store.work.Sound) (haccurate : given → store.work.Accurate)
    (preservingGuidedSetup : Bool) (result : RefreshResult) :
    (store.publish preservingGuidedSetup result).work.Keeps given
      (store.revokesSetup preservingGuidedSetup result = true → store.OnlySetup) := by
  rw [work_publish]
  unfold revoked revokesSetup
  split
  · next hrevoked =>
      apply (keeps_letGo hsound).congr
      exact ⟨fun honly _ => honly, fun honly => honly hrevoked⟩
  · next hspared =>
      apply (keeps_rest hsound haccurate).congr
      exact iff_of_true trivial fun hrevoked => absurd hrevoked hspared

theorem keeps_moved (hsound : store.work.Sound) (haccurate : given → store.work.Accurate) {id : Nat}
    {job : Job} {before : Stage} (hjob : (store.tasks id).job = job)
    (hstage : (store.tasks id).stage = before) (after : Stage) (hborn : before ≠ .absent)
    (hsame : ActionTask.running { job, stage := after } =
      ActionTask.running { job, stage := before }) :
    (store.setStage id after).work.Keeps given True := by
  apply keeps_setStage hsound haccurate
  · exact fun habsent => hborn (hstage.symm.trans habsent)
  · have hrunning : (store.work.tasks id).running = ActionTask.running { job, stage := before } :=
      running_eq hjob hstage
    rw [hrunning, ← hsame]
    unfold ActionTask.running
    rw [show (store.work.tasks id).job = job from hjob]

theorem keeps_executeMutation (hsound : store.work.Sound) (haccurate : given → store.work.Accurate)
    {id : Nat} {job : Job} (hjob : (store.tasks id).job = job)
    (hstage : (store.tasks id).stage = .queued)
    (hmutates : job = .mutation ∨ ∃ request epoch, job = .lifecycle request epoch) :
    (store.executeMutation id).work.Keeps given True := by
  unfold executeMutation
  split
  · have hsetup : (store.work.tasks id).isSetup = false := by
      unfold ActionTask.isSetup
      rw [show (store.work.tasks id).job = job from hjob]
      rcases hmutates with rfl | ⟨request, epoch, rfl⟩ <;> rfl
    apply keeps_start hsound
    · exact fun habsent => nomatch hstage.symm.trans habsent
    · exact hsetup
    · unfold ActionTask.running
      rw [show (store.work.tasks id).job = job from hjob]
      rcases hmutates with rfl | ⟨request, epoch, rfl⟩ <;> rfl
  · apply keeps_moved hsound haccurate hjob hstage _ nofun
    rcases hmutates with rfl | ⟨request, epoch, rfl⟩ <;> rfl

/-- An activity that is no setup ends, and what it answered changes no task. -/
theorem keeps_ended (hsound : store.work.Sound) {id : Nat} {job : Job}
    (hjob : (store.tasks id).job = job) (hborn : (store.tasks id).stage ≠ .absent)
    (hsetup : ActionTask.isSetup { job } = false) (next : ActionStore)
    (hnext : next.work = (store.work.setStage id .ended).release) :
    next.work.Keeps given (store.Alone id) := by
  rw [hnext]
  apply keeps_finish hsound hborn
  rw [← hsetup]
  unfold ActionTask.isSetup
  rw [show (store.work.tasks id).job = job from hjob]

theorem keeps_loadCapacityPreview (hsound : store.work.Sound) (haccurate : given → store.work.Accurate) :
    store.loadCapacityPreview.work.Keeps given True := by
  rcases store.work_loadCapacityPreview with hrest | ⟨projectId, purposeId, hspawned⟩
  · rw [hrest]
    exact keeps_rest hsound haccurate
  · rw [hspawned]
    exact keeps_spawn_engage hsound (fun _ _ _ => nofun) rfl

theorem idleCleanupPreviewed_work (store : ActionStore) (id previewGeneration sent : Nat)
    (answer : CommandAnswer) :
    (store.idleCleanupPreviewed id previewGeneration sent answer).work =
      (store.work.setStage id .ended).release := by
  unfold idleCleanupPreviewed
  dsimp only
  split
  · split
    · split <;> rfl
    · rfl
  · rfl

theorem work_loadCapacityPreview_of_idle (store : ActionStore)
    (hidle : store.isApplyingAction = false) :
    if store.sheetHasProject = true then
      ∃ projectId purposeId, store.loadCapacityPreview.work =
        (store.work.spawn (.capacityPreview projectId purposeId)).engage
    else store.loadCapacityPreview.work = store.work := by
  unfold sheetHasProject loadCapacityPreview
  cases store.capacitySheet with
  | none =>
      rw [Option.any_none, Bool.and_false]
      rfl
  | some sheet =>
      rw [Option.any_some]
      dsimp only
      by_cases hpane : store.selectedPane = .simulators
      · have hfree : ¬ store.isApplyingAction = true := ne_true_of_eq_false hidle
        rw [decide_eq_true hpane, Bool.true_and, if_neg (not_not_intro hpane), if_neg hfree]
        cases store.capacityProject sheet.projectId with
        | none =>
            rw [Option.isSome_none, if_neg Bool.false_ne_true]
            dsimp only
            rw [work_publishCapacityPreviewFailure]
            rfl
        | some project => exact ⟨sheet.projectId, sheet.purposeId, rfl⟩
      · rw [decide_eq_false hpane, Bool.false_and, if_pos hpane]
        rfl

/-- The end of a capacity preview releases the flag, and takes it again for the next one. -/
theorem work_continueCapacityPreview (store : ActionStore) (shouldContinue : Bool) :
    if ((shouldContinue || store.capacityPreviewPending) && store.sheetHasProject) = true then
      ∃ projectId purposeId, (store.continueCapacityPreview shouldContinue).work =
        (store.work.release.spawn (.capacityPreview projectId purposeId)).engage
    else (store.continueCapacityPreview shouldContinue).work = store.work.release := by
  unfold continueCapacityPreview
  dsimp only
  cases shouldContinue || store.capacityPreviewPending with
  | false => rfl
  | true =>
      rw [Bool.true_and, if_pos rfl]
      exact work_loadCapacityPreview_of_idle
        { store with isApplyingAction := false, capacityPreviewPending := false } rfl

theorem sheetHasProject_publishCapacityPreviewFailure (store : ActionStore) (message : String) :
    (store.publishCapacityPreviewFailure message).sheetHasProject = store.sheetHasProject ∧
      (store.publishCapacityPreviewFailure message).capacityPreviewPending =
        store.capacityPreviewPending := by
  unfold publishCapacityPreviewFailure
  split
  · exact ⟨rfl, rfl⟩
  · next sheet hsheet =>
      refine ⟨?_, rfl⟩
      unfold sheetHasProject
      rw [hsheet]
      rfl

theorem sheetHasProject_showCapacityPreview (store : ActionStore) (sent : Nat)
    (answer : CommandAnswer) :
    (store.showCapacityPreview sent answer).sheetHasProject = store.sheetHasProject ∧
      (store.showCapacityPreview sent answer).capacityPreviewPending =
        store.capacityPreviewPending := by
  unfold showCapacityPreview
  split
  · split
    · refine ⟨?_, rfl⟩
      unfold sheetHasProject
      cases hsheet : store.capacitySheet <;> rfl
    · exact sheetHasProject_publishCapacityPreviewFailure _ _
  · exact sheetHasProject_publishCapacityPreviewFailure _ _
  · exact sheetHasProject_publishCapacityPreviewFailure _ _
  · exact sheetHasProject_publishCapacityPreviewFailure _ _

theorem keeps_continueCapacityPreview {mid : ActionStore} (hsound : store.work.Sound) {id : Nat}
    {projectId : String} {purposeId : Option String}
    (hjob : (store.tasks id).job = .capacityPreview projectId purposeId)
    (hborn : (store.tasks id).stage ≠ .absent) (hmid : mid.work = store.work.setStage id .ended)
    (shouldContinue : Bool) :
    (mid.continueCapacityPreview shouldContinue).work.Keeps given
      (((shouldContinue || mid.capacityPreviewPending) && mid.sheetHasProject) = false →
        store.Alone id) := by
  have hended : { mid with isApplyingAction := false }.work.Keeps given (store.Alone id) :=
    keeps_ended hsound hjob hborn rfl _ (congrArg Work.release hmid)
  have hcontinued := work_continueCapacityPreview mid shouldContinue
  cases hasks : (shouldContinue || mid.capacityPreviewPending) && mid.sheetHasProject with
  | false =>
      rw [hasks, if_neg Bool.false_ne_true] at hcontinued
      rw [hcontinued]
      exact hended.congr ⟨fun halone _ => halone, fun halone => halone rfl⟩
  | true =>
      rw [hasks, if_pos rfl] at hcontinued
      obtain ⟨nextProject, nextPurpose, hspawned⟩ := hcontinued
      have hkeeps : (mid.work.release.spawn
          (.capacityPreview nextProject nextPurpose)).engage.Keeps given True :=
        keeps_spawn_engage hended.1 (fun _ _ _ => nofun) rfl
      rw [hspawned]
      exact hkeeps.congr (iff_of_true trivial fun hfalse => Bool.noConfusion hfalse)

theorem isOpen_of_sheetHasProject (hproject : store.sheetHasProject = true) :
    (store.capacitySheet.isSome && store.selectedPane = .simulators) = true := by
  unfold sheetHasProject at hproject
  cases hsheet : store.capacitySheet with
  | none => simp [hsheet] at hproject
  | some sheet => simpa using (Bool.and_eq_true_iff.mp hproject).1

theorem keeps_capacityPreviewed (hsound : store.work.Sound) {id sent : Nat}
    {projectId : String} {purposeId : Option String} {answer : CommandAnswer}
    (hjob : (store.tasks id).job = .capacityPreview projectId purposeId)
    (hborn : (store.tasks id).stage ≠ .absent) :
    (store.capacityPreviewed id sent projectId purposeId answer).work.Keeps given
      (store.asksForPreview projectId purposeId = false → store.Alone id) := by
  unfold capacityPreviewed asksForPreview
  dsimp only
  cases hmatches : store.selectionStillMatches projectId purposeId with
  | true =>
      obtain ⟨hsheet, hpending⟩ :=
        sheetHasProject_showCapacityPreview (store.setStage id .ended) sent answer
      have hkeeps : (((store.setStage id .ended).showCapacityPreview sent answer
          ).continueCapacityPreview false).work.Keeps given _ :=
        keeps_continueCapacityPreview hsound hjob hborn
          (work_showCapacityPreview (store.setStage id .ended) sent answer) false
      rw [hsheet, hpending, Bool.false_or] at hkeeps
      rw [if_pos rfl, Bool.not_true, Bool.or_false]
      exact hkeeps
  | false =>
      rw [if_neg Bool.false_ne_true, Bool.not_false, Bool.or_true, Bool.true_and]
      apply (keeps_continueCapacityPreview hsound hjob hborn rfl _).congr
      rw [show (store.setStage id .ended).sheetHasProject = store.sheetHasProject from rfl]
      cases hproject : store.sheetHasProject with
      | false => rw [Bool.and_false]
      | true =>
          rw [isOpen_of_sheetHasProject hproject, Bool.true_or, Bool.true_and]

/-! ## Guided setup -/

theorem work_finishSetup {next : ActionStore} (hnext : next.work = store.work)
    (id generation stopGeneration : Nat) :
    (next.finishSetup id generation stopGeneration).work =
      store.work.finishSetup id generation stopGeneration := by
  rw [← hnext]
  unfold finishSetup Work.finishSetup
  dsimp only
  rw [show next.isCurrentSetup generation stopGeneration =
    next.work.isCurrent generation stopGeneration from rfl]
  split <;> rfl

theorem work_replaceSetup {next : ActionStore} (hnext : next.work = store.work)
    (confirmed : Option (Received SetupPlan)) (setupPhase : SetupPhase) :
    (next.replaceSetup confirmed setupPhase).work = store.work.replaceSetup confirmed := by
  rw [← hnext]
  have hreplaced : (next.replaceSetup confirmed setupPhase).work =
      { next.cancelSetupTask.work.spawn (.guidedSetup (next.work.setupGeneration + 1)
          next.work.storeStopGeneration confirmed) with
        setupGeneration := next.work.setupGeneration + 1
        isApplyingAction := true
        setupTask := some next.work.nextTask } := rfl
  rw [hreplaced, work_cancelSetupTask]
  rfl

theorem currentAlone_iff {id generation stopGeneration : Nat}
    {confirmed : Option (Received SetupPlan)}
    (hjob : (store.tasks id).job = .guidedSetup generation stopGeneration confirmed) :
    store.CurrentAlone id ↔
      (store.isCurrentSetup generation stopGeneration = true → store.Alone id) := by
  unfold CurrentAlone
  rw [hjob]

section

variable {id generation stopGeneration : Nat} {confirmed : Option (Received SetupPlan)}
  (hsound : store.work.Sound) (haccurate : given → store.work.Accurate)
  (hjob : (store.tasks id).job = .guidedSetup generation stopGeneration confirmed)

include hsound haccurate hjob

theorem keeps_setupFinished {next : ActionStore} (hnext : next.work = store.work)
    (hrunning : (store.tasks id).running = true) :
    (next.finishSetup id generation stopGeneration).work.Keeps given
      (store.isCurrentSetup generation stopGeneration = true → store.Alone id) := by
  rw [work_finishSetup hnext]
  exact keeps_finishSetup hsound haccurate hjob hrunning

/-- The setup goes on to another stage. -/
theorem keeps_setupMoved {next : ActionStore} (hnext : next.work = store.work)
    (hrunning : (store.tasks id).running = true) (stage : Stage)
    (hgoes : stage ≠ .absent ∧ stage ≠ .ended) :
    (next.setStage id stage).work.Keeps given True := by
  rw [show (next.setStage id stage).work = next.work.setStage id stage from rfl, hnext]
  apply keeps_setStage hsound haccurate (born_of_running hrunning)
  rw [show (store.work.tasks id).running = true from hrunning]
  unfold ActionTask.running
  rw [show (store.work.tasks id).job = _ from hjob]
  cases stage with
  | absent => exact absurd rfl hgoes.1
  | ended => exact absurd rfl hgoes.2
  | queued | sent | applying | refreshing | concluding | recovering => rfl

/-- `refreshAfterSetupCancellation` follows, or the stopped run returns and clears nothing. -/
theorem keeps_abandonSetup {next : ActionStore} (hnext : next.work = store.work)
    (hrunning : (store.tasks id).running = true) :
    (next.abandonSetup id generation stopGeneration).work.Keeps given True := by
  unfold abandonSetup
  split
  · exact keeps_setupMoved hsound haccurate hjob hnext hrunning _ ⟨nofun, nofun⟩
  · next hstopped =>
      apply (keeps_setupFinished hsound haccurate hjob hnext hrunning).congr
      apply iff_true_intro
      intro hcurrent
      have hstop : stopGeneration = store.storeStopGeneration := by
        simp only [isCurrentSetup, Bool.and_eq_true, decide_eq_true_eq] at hcurrent
        exact hcurrent.2
      have hsame : next.storeStopGeneration = store.storeStopGeneration :=
        congrArg Work.storeStopGeneration hnext
      exact absurd (hsame.trans hstop.symm) hstopped

theorem keeps_applyGuidedSetup {next : ActionStore} (hnext : next.work = store.work)
    (hrunning : (store.tasks id).running = true) :
    (next.applyGuidedSetup id generation stopGeneration).work.Keeps given True := by
  unfold applyGuidedSetup
  split
  · exact keeps_setupMoved hsound haccurate hjob hnext hrunning _ ⟨nofun, nofun⟩
  · exact keeps_abandonSetup hsound haccurate hjob hnext hrunning

theorem keeps_beginSetup (hrunning : (store.tasks id).running = true) :
    (store.beginSetup id generation stopGeneration confirmed).work.Keeps given True := by
  unfold beginSetup
  cases confirmed with
  | some plan => exact keeps_applyGuidedSetup hsound haccurate hjob rfl hrunning
  | none =>
      dsimp only
      split
      · exact keeps_setupMoved hsound haccurate hjob rfl hrunning _ ⟨nofun, nofun⟩
      · exact keeps_abandonSetup hsound haccurate hjob rfl hrunning

theorem keeps_admitSetupPlan (hrunning : (store.tasks id).running = true) {sent : Nat}
    {plan : SetupPlan} :
    (store.admitSetupPlan id generation stopGeneration sent plan).work.Keeps given
      (store.settlesSetup (.answered plan) = true → store.CurrentAlone id) := by
  have hfinished : ∀ next : ActionStore, next.work = store.work →
      (next.finishSetup id generation stopGeneration).work.Keeps given (store.CurrentAlone id) := by
    intro next hnext
    rw [currentAlone_iff hjob]
    exact keeps_setupFinished hsound haccurate hjob hnext hrunning
  unfold admitSetupPlan settlesSetup
  dsimp only
  by_cases hcurrent : generation ≠ store.setupGeneration
  · rw [if_pos (.inl hcurrent)]
    apply (hfinished store rfl).congr
    have halone : store.CurrentAlone id := by
      rw [currentAlone_iff hjob]
      intro hsame
      simp only [isCurrentSetup, Bool.and_eq_true, decide_eq_true_eq] at hsame
      exact absurd hsame.1 hcurrent
    exact iff_of_true halone fun _ => halone
  · cases hverified : store.serviceStatusUnverified with
    | true =>
        rw [if_pos (.inr rfl)]
        exact (hfinished store rfl).congr ⟨fun halone _ => halone, fun halone => halone rfl⟩
    | false =>
        rw [if_neg (by simp [hcurrent])]
        by_cases hblocked : plan.status = .blocked
        · rw [if_pos hblocked]
          apply (hfinished _ (by rfl)).congr
          simp [hblocked]
        · rw [if_neg hblocked]
          cases hrequired : plan.confirmationRequired with
          | true =>
              rw [if_pos rfl]
              apply (hfinished _ (by rfl)).congr
              simp
          | false =>
              rw [if_neg Bool.false_ne_true]
              have hnone : ((false || decide (plan.status = .blocked) || false) = true →
                  store.CurrentAlone id) ↔ True := by simp [hblocked]
              split
              · apply (keeps_setupMoved hsound haccurate hjob (by rfl) hrunning .refreshing
                  ⟨nofun, nofun⟩).congr
                exact hnone.symm
              · exact (keeps_applyGuidedSetup hsound haccurate hjob (by rfl) hrunning).congr
                  hnone.symm

theorem keeps_setupPreviewed (hrunning : (store.tasks id).running = true) {sent : Nat}
    {answer : StepAnswer SetupPlan} :
    (store.setupPreviewed id generation stopGeneration sent answer).work.Keeps given
      ((store.tasks id).cancelled = false → store.settlesSetup answer = true →
        store.CurrentAlone id) := by
  unfold setupPreviewed
  cases answer with
  | answered plan =>
      dsimp only
      cases hcancelled : (store.tasks id).cancelled with
      | true =>
          rw [if_pos rfl]
          exact (keeps_abandonSetup hsound haccurate hjob rfl hrunning).of_true nofun
      | false =>
          rw [if_neg Bool.false_ne_true]
          exact (keeps_admitSetupPlan hsound haccurate hjob hrunning).congr
            ⟨fun halone _ => halone, fun halone => halone rfl⟩
  | cancelled =>
      apply (keeps_abandonSetup hsound haccurate hjob rfl hrunning).of_true
      exact fun _ hfalse => Bool.noConfusion hfalse
  | failed =>
      apply (keeps_setupMoved hsound haccurate hjob rfl hrunning .concluding
        ⟨nofun, nofun⟩).of_true
      exact fun _ hfalse => Bool.noConfusion hfalse

theorem keeps_setupApplied (hrunning : (store.tasks id).running = true)
    {answer : StepAnswer Unit} :
    (store.setupApplied id generation stopGeneration answer).work.Keeps given True := by
  unfold setupApplied
  cases answer with
  | answered _ =>
      dsimp only
      split
      · exact keeps_abandonSetup hsound haccurate hjob rfl hrunning
      · exact keeps_setupMoved hsound haccurate hjob rfl hrunning _ ⟨nofun, nofun⟩
  | cancelled => exact keeps_abandonSetup hsound haccurate hjob rfl hrunning
  | failed => exact keeps_setupMoved hsound haccurate hjob rfl hrunning _ ⟨nofun, nofun⟩

theorem keeps_setupReturned (hrunning : (store.tasks id).running = true)
    {answer : StepAnswer Unit} :
    (store.setupReturned id generation stopGeneration answer).work.Keeps given
      ((store.tasks id).cancelled = false → answer = .answered () →
        store.canSendCommands = true → store.CurrentAlone id) := by
  unfold setupReturned
  cases hcancelled : (store.tasks id).cancelled with
  | true =>
      rw [if_pos rfl]
      exact (keeps_abandonSetup hsound haccurate hjob rfl hrunning).of_true nofun
  | false =>
      rw [if_neg Bool.false_ne_true]
      cases answer with
      | answered _ =>
          dsimp only
          cases hsends : store.canSendCommands with
          | true =>
              rw [if_pos rfl]
              apply (keeps_setupFinished hsound haccurate hjob (by rfl) hrunning).congr
              rw [← currentAlone_iff hjob]
              exact ⟨fun halone _ _ _ => halone, fun halone => halone rfl rfl rfl⟩
          | false =>
              rw [if_neg Bool.false_ne_true]
              apply (keeps_setupMoved hsound haccurate hjob rfl hrunning .concluding
                ⟨nofun, nofun⟩).of_true
              exact fun _ _ hfalse => Bool.noConfusion hfalse
      | cancelled =>
          apply (keeps_abandonSetup hsound haccurate hjob rfl hrunning).of_true
          exact fun _ hfalse => nomatch hfalse
      | failed =>
          apply (keeps_setupMoved hsound haccurate hjob rfl hrunning .concluding
            ⟨nofun, nofun⟩).of_true
          exact fun _ hfalse => nomatch hfalse

theorem keeps_setupConcluded (hrunning : (store.tasks id).running = true) :
    (store.setupConcluded id generation stopGeneration confirmed).work.Keeps given
      (store.CurrentAlone id) := by
  rw [currentAlone_iff hjob]
  unfold setupConcluded
  apply keeps_setupFinished hsound haccurate hjob _ hrunning
  split
  · split
    · rfl
    · split <;> rfl
  · rfl

theorem keeps_setupRecovered (hrunning : (store.tasks id).running = true) :
    (store.setupRecovered id generation stopGeneration).work.Keeps given (store.CurrentAlone id) := by
  rw [currentAlone_iff hjob]
  unfold setupRecovered
  apply keeps_setupFinished hsound haccurate hjob _ hrunning
  split <;> rfl

end

/-! ## What the user does -/

theorem keeps_same (hsound : store.work.Sound) (haccurate : given → store.work.Accurate)
    (next : ActionStore) (hnext : next.work = store.work) : next.work.Keeps given True := by
  rw [hnext]
  exact keeps_rest hsound haccurate

/-- A mutation's task is spawned; the flag is taken in its first turn only. -/
theorem keeps_spawned (hsound : store.work.Sound) (haccurate : given → store.work.Accurate)
    (next : ActionStore) (hnext : next.work = store.work) (job : Job)
    (hmutates : job = .mutation ∨ ∃ request epoch, job = .lifecycle request epoch) :
    (next.spawn job).work.Keeps given True := by
  rw [show (next.spawn job).work = next.work.spawn job from rfl, hnext]
  apply keeps_spawn hsound haccurate
  · rcases hmutates with rfl | ⟨request, epoch, rfl⟩ <;> exact fun _ _ _ => nofun
  · rcases hmutates with rfl | ⟨request, epoch, rfl⟩ <;> rfl

section

variable (hsound : store.work.Sound) (haccurate : given → store.work.Accurate)

include hsound haccurate

theorem keeps_requestIdleCleanup : store.requestIdleCleanup.work.Keeps given True := by
  unfold requestIdleCleanup
  split
  · exact keeps_spawn_engage hsound (fun _ _ _ => nofun) rfl
  · exact keeps_rest hsound haccurate

theorem keeps_confirmIdleCleanup : store.confirmIdleCleanup.work.Keeps given True := by
  unfold confirmIdleCleanup
  dsimp only
  split
  · exact keeps_same hsound haccurate _ rfl
  · split
    · exact keeps_spawned hsound haccurate _ rfl .mutation (.inl rfl)
    · exact keeps_same hsound haccurate _ rfl

theorem keeps_beginAddSimulators : store.beginAddSimulators.work.Keeps given True := by
  unfold beginAddSimulators
  split
  · split
    · exact keeps_rest hsound haccurate
    · exact keeps_loadCapacityPreview hsound haccurate
  · exact keeps_rest hsound haccurate

theorem keeps_updateCapacitySelection (projectId : String) (purposeId : Option String) :
    (store.updateCapacitySelection projectId purposeId).work.Keeps given True := by
  unfold updateCapacitySelection
  split
  · exact keeps_rest hsound haccurate
  · split
    · exact keeps_loadCapacityPreview hsound haccurate
    · exact keeps_rest hsound haccurate

theorem keeps_confirmAddSimulators : store.confirmAddSimulators.work.Keeps given True := by
  unfold confirmAddSimulators
  split
  · exact keeps_rest hsound haccurate
  · split
    · exact keeps_rest hsound haccurate
    · split
      · exact keeps_spawned hsound haccurate _ rfl .mutation (.inl rfl)
      · exact keeps_rest hsound haccurate

theorem keeps_runLifecycleAction (next : ActionStore) (hnext : next.work = store.work)
    (request : LifecycleRequest) : (next.runLifecycleAction request).work.Keeps given True :=
  keeps_spawned hsound haccurate next hnext _ (.inr ⟨_, _, rfl⟩)

theorem keeps_requestLifecycleAction (action : LifecycleAction) :
    (store.requestLifecycleAction action).work.Keeps given True := by
  unfold requestLifecycleAction
  split
  · exact keeps_rest hsound haccurate
  · split
    · split
      · exact keeps_same hsound haccurate _ rfl
      · exact keeps_runLifecycleAction hsound haccurate store rfl _
    · exact keeps_rest hsound haccurate

theorem keeps_confirmPendingLifecycleAction :
    store.confirmPendingLifecycleAction.work.Keeps given True := by
  unfold confirmPendingLifecycleAction
  dsimp only
  split
  · exact keeps_same hsound haccurate _ rfl
  · split
    · exact keeps_runLifecycleAction hsound haccurate _ (by rfl) _
    · exact keeps_same hsound haccurate _ rfl

theorem keeps_confirmOverrideRequest (reason : String) :
    (store.confirmOverrideRequest reason).work.Keeps given True := by
  unfold confirmOverrideRequest
  dsimp only
  split
  · split
    · exact keeps_rest hsound haccurate
    · split
      · exact keeps_runLifecycleAction hsound haccurate _ (by rfl) _
      · exact keeps_rest hsound haccurate
  · exact keeps_same hsound haccurate _ rfl

theorem keeps_requestGuidedSetup : store.requestGuidedSetup.work.Keeps given True := by
  unfold requestGuidedSetup
  split
  · exact keeps_rest hsound haccurate
  · rw [work_replaceSetup rfl]
    exact keeps_replaceSetup hsound

theorem keeps_cancelGuidedSetup :
    store.cancelGuidedSetup.work.Keeps given (store.setupPhase ≠ .applying → store.OnlySetup) := by
  by_cases hphase : store.setupPhase = .applying
  · have hsame : store.cancelGuidedSetup = store := by
      unfold cancelGuidedSetup
      rw [if_pos hphase]
    rw [hsame]
    exact (keeps_rest hsound haccurate).of_true fun hother => absurd hphase hother
  · rw [work_cancelGuidedSetup store hphase]
    exact (keeps_letGo hsound).congr ⟨fun honly _ => honly, fun honly => honly hphase⟩

theorem keeps_confirmGuidedSetup :
    store.confirmGuidedSetup.work.Keeps given
      (store.serviceStatusUnverified = true → store.setupPhase = .awaitingConfirmation →
        store.OnlySetup) := by
  unfold confirmGuidedSetup
  cases hverified : store.serviceStatusUnverified with
  | true =>
      rw [if_pos rfl]
      split
      · next hawaiting =>
          have hphase : store.setupPhase ≠ .applying := by
            rw [hawaiting]
            nofun
          apply (keeps_cancelGuidedSetup hsound haccurate).congr
          exact ⟨fun honly _ _ => honly hphase, fun honly _ => honly rfl hawaiting⟩
      · next hother =>
          exact (keeps_rest hsound haccurate).of_true fun _ hawaiting => absurd hawaiting hother
  | false =>
      rw [if_neg Bool.false_ne_true]
      apply Keeps.of_true _ (fun hfalse => Bool.noConfusion hfalse)
      split
      · exact keeps_rest hsound haccurate
      · next plan _ =>
          split
          · have hsubmitted : (store.submit plan.answer.planId plan.received
                store.setupFailed).work = store.work := rfl
            rw [work_replaceSetup hsubmitted]
            exact keeps_replaceSetup hsound
          · exact keeps_rest hsound haccurate

theorem keeps_stopGuidedSetup : store.stopGuidedSetup.work.Keeps given True := by
  unfold stopGuidedSetup
  split
  · rw [work_cancelSetupTask]
    exact keeps_cancelSetup hsound haccurate
  · exact keeps_rest hsound haccurate

theorem keeps_stopped :
    store.stop.work.Keeps given (store.setupTask.isSome = true → store.OnlySetup) := by
  have hstop : store.stop.work = store.work.stop := by
    cases hheld : store.setupTask with
    | none =>
        have hwork : store.work.setupTask = none := hheld
        have hstored : store.cancelSetupTask = store := by
          unfold cancelSetupTask
          rw [hheld]
        unfold stop Work.stop
        rw [hstored, hheld, hwork]
        rfl
    | some id =>
        have hwork : store.work.setupTask = some id := hheld
        have hcancelled : store.cancelSetupTask =
            store.setTask id { store.tasks id with cancelled := true } := by
          unfold cancelSetupTask
          rw [hheld]
        unfold stop Work.stop Work.letGo Work.cancelSetup
        rw [hcancelled, hheld, hwork]
        rfl
  rw [hstop]
  exact Work.keeps_stop hsound haccurate

end

/-! ## Turns -/

section

variable (hsound : store.work.Sound) (haccurate : given → store.work.Accurate) {id : Nat}

include hsound haccurate

theorem keeps_begin (hstage : (store.tasks id).stage = .queued) :
    (store.begin id).work.Keeps given True := by
  unfold begin
  cases hjob : (store.tasks id).job with
  | mutation => exact keeps_executeMutation hsound haccurate hjob hstage (.inl rfl)
  | lifecycle request epoch =>
      exact keeps_executeMutation hsound haccurate hjob hstage (.inr ⟨request, epoch, rfl⟩)
  | idleCleanupPreview | capacityPreview =>
      exact keeps_moved hsound haccurate hjob hstage _ nofun rfl
  | guidedSetup generation stopGeneration confirmed =>
      have hrunning := running_of_stage hjob hstage rfl
      exact keeps_beginSetup hsound haccurate hjob hrunning

theorem keeps_answered {sent : Nat} {answer : CommandAnswer} {next : ActionStore}
    (hstage : (store.tasks id).stage = .sent sent)
    (hnext : store.answered id sent answer = some next) :
    next.work.Keeps given (store.AnswersOrderly id answer) := by
  have hborn : (store.tasks id).stage ≠ .absent := by
    rw [hstage]
    nofun
  unfold answered at hnext
  unfold AnswersOrderly
  cases hjob : (store.tasks id).job with
  | mutation =>
      rw [hjob] at hnext
      dsimp only at hnext ⊢
      cases answer with
      | envelope envelope =>
          obtain rfl := Option.some.inj hnext
          exact (keeps_moved hsound haccurate hjob hstage .refreshing nofun rfl).of_true
            fun hother => absurd rfl (hother envelope)
      | rejected error | failed error =>
          obtain rfl := Option.some.inj hnext
          apply (keeps_ended hsound hjob hborn rfl _ (by rfl)).congr
          exact ⟨fun halone _ => halone, fun halone => halone (fun _ => nofun)⟩
  | lifecycle request epoch =>
      rw [hjob] at hnext
      dsimp only at hnext ⊢
      cases answer with
      | envelope envelope =>
          obtain rfl := Option.some.inj hnext
          exact (keeps_moved hsound haccurate hjob hstage .refreshing nofun rfl).of_true
            fun hother => absurd rfl (hother envelope)
      | rejected error =>
          obtain rfl := Option.some.inj hnext
          have hended := work_presentOverride (store.finishMutation id) request epoch sent error
          apply (keeps_ended hsound hjob hborn rfl _ hended).congr
          exact ⟨fun halone _ => halone, fun halone => halone (fun _ => nofun)⟩
      | failed error =>
          obtain rfl := Option.some.inj hnext
          apply (keeps_ended hsound hjob hborn rfl _ (by rfl)).congr
          exact ⟨fun halone _ => halone, fun halone => halone (fun _ => nofun)⟩
  | idleCleanupPreview previewGeneration =>
      rw [hjob] at hnext
      dsimp only at hnext ⊢
      obtain rfl := Option.some.inj hnext
      exact keeps_ended hsound hjob hborn rfl _ (idleCleanupPreviewed_work store id _ sent answer)
  | capacityPreview projectId purposeId =>
      rw [hjob] at hnext
      dsimp only at hnext ⊢
      obtain rfl := Option.some.inj hnext
      exact keeps_capacityPreviewed hsound hjob hborn
  | guidedSetup generation stopGeneration confirmed =>
      rw [hjob] at hnext
      dsimp only at hnext ⊢
      cases hnext

theorem keeps_returned {answer : StepAnswer Unit} {next : ActionStore}
    (hstage : (store.tasks id).stage = .refreshing)
    (hnext : store.returned id answer = some next) :
    next.work.Keeps given (store.ReturnsOrderly id answer) := by
  have hborn : (store.tasks id).stage ≠ .absent := by
    rw [hstage]
    nofun
  unfold returned at hnext
  unfold ReturnsOrderly
  cases hjob : (store.tasks id).job with
  | mutation | lifecycle =>
      rw [hjob] at hnext
      dsimp only at hnext ⊢
      obtain rfl := Option.some.inj hnext
      exact keeps_ended hsound hjob hborn rfl _ (by rfl)
  | idleCleanupPreview | capacityPreview =>
      rw [hjob] at hnext
      dsimp only at hnext ⊢
      cases hnext
  | guidedSetup generation stopGeneration confirmed =>
      rw [hjob] at hnext
      dsimp only at hnext ⊢
      obtain rfl := Option.some.inj hnext
      have hrunning := running_of_stage hjob hstage rfl
      exact keeps_setupReturned hsound haccurate hjob hrunning

/-- An accurate flag stays accurate in a turn exactly when the turn is orderly. -/
theorem keeps_step {event : Event} {next : ActionStore} (hstep : store.step event = some next) :
    next.work.Keeps given (store.Orderly event) := by
  cases event with
  | selectPane pane =>
      obtain rfl := Option.some.inj hstep
      exact keeps_same hsound haccurate _ (store.work_selectPane pane)
  | inspect aliasName =>
      obtain rfl := Option.some.inj hstep
      exact keeps_same hsound haccurate _ rfl
  | requestIdleCleanup =>
      obtain rfl := Option.some.inj hstep
      exact keeps_requestIdleCleanup hsound haccurate
  | confirmIdleCleanup =>
      obtain rfl := Option.some.inj hstep
      exact keeps_confirmIdleCleanup hsound haccurate
  | beginAddSimulators =>
      obtain rfl := Option.some.inj hstep
      exact keeps_beginAddSimulators hsound haccurate
  | updateCapacitySelection projectId purposeId =>
      obtain rfl := Option.some.inj hstep
      exact keeps_updateCapacitySelection hsound haccurate projectId purposeId
  | cancelAddSimulators =>
      obtain rfl := Option.some.inj hstep
      exact keeps_same hsound haccurate _ rfl
  | confirmAddSimulators =>
      obtain rfl := Option.some.inj hstep
      exact keeps_confirmAddSimulators hsound haccurate
  | requestLifecycleAction action =>
      obtain rfl := Option.some.inj hstep
      exact keeps_requestLifecycleAction hsound haccurate action
  | confirmPendingLifecycleAction =>
      obtain rfl := Option.some.inj hstep
      exact keeps_confirmPendingLifecycleAction hsound haccurate
  | confirmOverrideRequest reason =>
      obtain rfl := Option.some.inj hstep
      exact keeps_confirmOverrideRequest hsound haccurate reason
  | mutate =>
      obtain rfl := Option.some.inj hstep
      exact keeps_spawned hsound haccurate store rfl .mutation (.inl rfl)
  | requestGuidedSetup =>
      obtain rfl := Option.some.inj hstep
      exact keeps_requestGuidedSetup hsound haccurate
  | confirmGuidedSetup =>
      obtain rfl := Option.some.inj hstep
      exact keeps_confirmGuidedSetup hsound haccurate
  | cancelGuidedSetup =>
      obtain rfl := Option.some.inj hstep
      exact keeps_cancelGuidedSetup hsound haccurate
  | stopGuidedSetup =>
      obtain rfl := Option.some.inj hstep
      exact keeps_stopGuidedSetup hsound haccurate
  | start =>
      obtain rfl := Option.some.inj hstep
      exact keeps_same hsound haccurate _ store.work_start
  | stop =>
      obtain rfl := Option.some.inj hstep
      exact keeps_stopped hsound haccurate
  | loopTurn id =>
      simp only [step] at hstep
      split at hstep
      · cases hstep
      · obtain rfl := Option.some.inj hstep
        exact keeps_same hsound haccurate _ rfl
  | refreshed result inspected =>
      obtain rfl := Option.some.inj hstep
      exact keeps_revoked hsound haccurate false result
  | setupRefreshed id result inspected =>
      simp only [step] at hstep
      split at hstep
      · obtain rfl := Option.some.inj hstep
        exact keeps_revoked hsound haccurate true result
      · cases hstep
  | begin id =>
      simp only [step] at hstep
      split at hstep
      · next hstage =>
          obtain rfl := Option.some.inj hstep
          exact keeps_begin hsound haccurate hstage
      · cases hstep
  | answered id answer =>
      simp only [step] at hstep
      split at hstep
      · next hstage => exact keeps_answered hsound haccurate hstage hstep
      · cases hstep
  | previewed id answer =>
      simp only [step] at hstep
      split at hstep
      · next hjob hstage =>
          obtain rfl := Option.some.inj hstep
          have hrunning := running_of_stage hjob hstage rfl
          exact keeps_setupPreviewed hsound haccurate hjob hrunning
      · cases hstep
  | applied id answer =>
      simp only [step] at hstep
      split at hstep
      · next hjob hstage =>
          obtain rfl := Option.some.inj hstep
          have hrunning := running_of_stage hjob hstage rfl
          exact keeps_setupApplied hsound haccurate hjob hrunning
      · cases hstep
  | returned id answer =>
      simp only [step] at hstep
      split at hstep
      · next hstage => exact keeps_returned hsound haccurate hstage hstep
      · cases hstep
  | concluded id =>
      simp only [step] at hstep
      split at hstep
      · next hjob hstage =>
          obtain rfl := Option.some.inj hstep
          have hrunning := running_of_stage hjob hstage rfl
          exact keeps_setupConcluded hsound haccurate hjob hrunning
      · cases hstep
  | recovered id =>
      simp only [step] at hstep
      split at hstep
      · next hjob hstage =>
          obtain rfl := Option.some.inj hstep
          have hrunning := running_of_stage hjob hstage rfl
          exact keeps_setupRecovered hsound haccurate hjob hrunning
      · cases hstep

end

/-- A turn keeps the work sound, whatever the flag says. -/
theorem sound_step (hsound : store.work.Sound) {event : Event} {next : ActionStore}
    (hstep : store.step event = some next) : next.work.Sound := by
  have hkeeps : next.work.Keeps False (store.Orderly event) := keeps_step hsound nofun hstep
  exact hkeeps.1

end

end ActionStore

end SimulatorBroker.Actions
