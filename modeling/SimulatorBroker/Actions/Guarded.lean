import SimulatorBroker.Actions.Fences

/-!
# What one turn does to the fences

A turn keeps both invariants, whoever takes it; the sheet alone has to be opened while no
capacity preview of an earlier epoch is on its way.
-/

namespace SimulatorBroker.Actions

namespace ActionStore

/-- No capacity preview that was sent in an earlier epoch is on its way. -/
def PreviewsAnswered (store : ActionStore) : Prop :=
  ∀ id projectId purposeId sent, (store.tasks id).job = .capacityPreview projectId purposeId →
    (store.tasks id).stage = .sent sent → sent = store.serviceAuthorityEpoch

/-- The sheet opens when earlier previews have been answered. -/
def OpensFenced (store : ActionStore) : Event → Prop
  | .beginAddSimulators => store.PreviewsAnswered
  | _ => True

section

variable {store : ActionStore} (hguarded : store.Guarded)

include hguarded

/-! ## Prompts -/

/-- A new generation of idle cleanups drops the one that awaits its confirmation. -/
theorem guarded_regenerate :
    { store with
      idleCleanupPreviewGeneration := store.idleCleanupPreviewGeneration + 1
      pendingIdleCleanupRequest := none }.Guarded := by
  obtain ⟨hfenced, hfresh⟩ := hguarded
  constructor
  · exact ⟨fun id => (hfenced.tasks id).regenerate, hfenced.asking, hfenced.settled⟩
  · exact ⟨nofun, hfresh.preview, hfresh.override, hfresh.plan, hfresh.submitted⟩

theorem guarded_closeSheet : { store with capacitySheet := none }.Guarded := by
  obtain ⟨hfenced, hfresh⟩ := hguarded
  constructor
  · exact ⟨fun id => (hfenced.tasks id).close, hfenced.asking, hfenced.settled⟩
  · exact ⟨hfresh.cleanup, nofun, hfresh.override, hfresh.plan, hfresh.submitted⟩

theorem guarded_clearPendingSimulatorPrompts : store.clearPendingSimulatorPrompts.Guarded := by
  obtain ⟨hfenced, hfresh⟩ := guarded_closeSheet hguarded
  constructor
  · exact hfenced.congr rfl
  · exact ⟨hfresh.cleanup, nofun, nofun, hfresh.plan, hfresh.submitted⟩

/-- The sheet shows another selection, without a preview. -/
theorem guarded_reselect {sheet : CapacitySheet} (hopen : store.capacitySheet.isSome = true)
    (hpreview : sheet.preview = none) :
    { store with capacitySheet := some sheet }.Guarded := by
  obtain ⟨hfenced, hfresh⟩ := hguarded
  constructor
  · apply hfenced.congr
    unfold barriers
    rw [hopen]
    rfl
  · refine ⟨hfresh.cleanup, ?_, hfresh.override, hfresh.plan, hfresh.submitted⟩
    intro shown preview hshown hsome
    obtain rfl := Option.some.inj hshown
    rw [hpreview] at hsome
    cases hsome

theorem guarded_selectPane (pane : Pane) : (store.selectPane pane).Guarded := by
  unfold selectPane
  dsimp only
  have hoverviewed : (if pane ≠ Pane.overview then
      { store with
        selectedPane := pane
        idleCleanupPreviewGeneration := store.idleCleanupPreviewGeneration + 1
        pendingIdleCleanupRequest := none }
      else { store with selectedPane := pane }).Guarded := by
    split
    · exact (guarded_regenerate hguarded).congr rfl rfl
    · exact hguarded.congr rfl rfl
  split
  · exact guarded_clearPendingSimulatorPrompts hoverviewed
  · exact hoverviewed

/-! ## Tasks that are no setup -/

theorem guarded_spawn {job : Job}
    (hjob : ∀ generation stopGeneration confirmed,
      job ≠ .guidedSetup generation stopGeneration confirmed)
    (htask : ActionTask.Fenced { job, stage := .queued } store.serviceAuthorityEpoch
      store.idleCleanupPreviewGeneration store.capacitySheet.isSome) :
    (store.spawn job).Guarded :=
  ⟨hguarded.1.spawn hjob htask, hguarded.2.congr rfl⟩

theorem guarded_setStage {id : Nat} {job : Job} (hjob : (store.tasks id).job = job)
    (hsetup : ∀ generation stopGeneration confirmed,
      job ≠ .guidedSetup generation stopGeneration confirmed)
    {stage : Stage} (hunsent : ∀ sent, stage ≠ .sent sent) :
    (store.setStage id stage).Guarded := by
  refine ⟨?_, hguarded.2.congr rfl⟩
  apply hguarded.1.setStage
  · rw [hjob]
    exact hsetup
  · exact (hguarded.1.tasks id).unsent hunsent

theorem guarded_send {id : Nat} {job : Job} (hjob : (store.tasks id).job = job)
    (hsetup : ∀ generation stopGeneration confirmed,
      job ≠ .guidedSetup generation stopGeneration confirmed) :
    (store.setStage id (.sent store.serviceAuthorityEpoch)).Guarded := by
  refine ⟨?_, hguarded.2.congr rfl⟩
  apply hguarded.1.setStage
  · rw [hjob]
    exact hsetup
  · exact (hguarded.1.tasks id).sent

theorem guarded_executeMutation {id : Nat} {job : Job} (hjob : (store.tasks id).job = job)
    (hsetup : ∀ generation stopGeneration confirmed,
      job ≠ .guidedSetup generation stopGeneration confirmed) :
    (store.executeMutation id).Guarded := by
  unfold executeMutation
  split
  · exact (guarded_send hguarded hjob hsetup).congr rfl rfl
  · exact guarded_setStage hguarded hjob hsetup nofun

theorem guarded_finishMutation {id : Nat} {job : Job} (hjob : (store.tasks id).job = job)
    (hsetup : ∀ generation stopGeneration confirmed,
      job ≠ .guidedSetup generation stopGeneration confirmed) :
    (store.finishMutation id).Guarded := by
  have hended : (store.setStage id .ended).Guarded := guarded_setStage hguarded hjob hsetup nofun
  exact hended.congr rfl rfl

/-! ## Lifecycle -/

theorem guarded_runLifecycleAction (request : LifecycleRequest) :
    (store.runLifecycleAction request).Guarded :=
  guarded_spawn hguarded nofun ⟨Nat.le_refl _, nofun⟩

theorem guarded_requestLifecycleAction (action : LifecycleAction) :
    (store.requestLifecycleAction action).Guarded := by
  unfold requestLifecycleAction
  split
  · exact hguarded
  · split
    · split
      · exact hguarded.congr rfl rfl
      · exact guarded_runLifecycleAction hguarded _
    · exact hguarded

theorem guarded_confirmPendingLifecycleAction : store.confirmPendingLifecycleAction.Guarded := by
  have hcleared : { store with pendingLifecycleRequest := none }.Guarded := hguarded.congr rfl rfl
  unfold confirmPendingLifecycleAction
  dsimp only
  split
  · exact hcleared
  · split
    · exact guarded_runLifecycleAction hcleared _
    · exact hcleared

theorem guarded_confirmOverrideRequest (reason : String) :
    (store.confirmOverrideRequest reason).Guarded := by
  have hcleared : { store with pendingOverrideRequest := none }.Guarded := by
    obtain ⟨hfenced, hfresh⟩ := hguarded
    exact ⟨hfenced.congr rfl,
      hfresh.cleanup, hfresh.preview, nofun, hfresh.plan, hfresh.submitted⟩
  unfold confirmOverrideRequest
  dsimp only
  split
  · split
    · exact hguarded
    · next override hoverride =>
        split
        · have hreceived := (hguarded.2.override override hoverride).2
          have hsubmitted : ({ store with pendingOverrideRequest := none }.submit
              override.answer.leaseId override.received).Guarded :=
            ⟨hcleared.1.congr rfl, hcleared.2.submit _ (.inr hreceived)⟩
          exact guarded_runLifecycleAction hsubmitted _
        · exact hguarded
  · exact hcleared

/-- The epoch that a lifecycle action has captured is the one it was sent in, if it still is
the current one. -/
theorem guarded_presentOverride {request : LifecycleRequest} {captured sent : Nat}
    (hcaptured : captured ≤ sent) (hsent : sent ≤ store.serviceAuthorityEpoch)
    (error : ServiceCommandError) : (store.presentOverride request captured sent error).Guarded := by
  unfold presentOverride
  split
  · exact hguarded
  · split
    · next hpresents =>
        obtain ⟨hfenced, hfresh⟩ := hguarded
        refine ⟨hfenced.congr rfl,
          hfresh.cleanup, hfresh.preview, ?_, hfresh.plan, hfresh.submitted⟩
        intro override hoverride
        obtain rfl := Option.some.inj hoverride
        refine ⟨?_, rfl⟩
        exact Nat.le_antisymm hsent (hpresents.2.1 ▸ hcaptured)
    · exact hguarded

/-! ## Idle cleanup -/

theorem guarded_requestIdleCleanup : store.requestIdleCleanup.Guarded := by
  unfold requestIdleCleanup
  split
  · have hnext : { store with
        idleCleanupPreviewGeneration := store.idleCleanupPreviewGeneration + 1 }.Guarded := by
      obtain ⟨hfenced, hfresh⟩ := hguarded
      exact ⟨⟨fun id => (hfenced.tasks id).regenerate, hfenced.asking, hfenced.settled⟩,
        hfresh.congr rfl⟩
    have hqueued : ActionTask.Fenced
        { job := .idleCleanupPreview (store.idleCleanupPreviewGeneration + 1), stage := .queued }
        store.serviceAuthorityEpoch (store.idleCleanupPreviewGeneration + 1)
        store.capacitySheet.isSome :=
      ⟨Nat.le_refl _, fun _ sent hsent => nomatch hsent⟩
    have hsetup : ∀ generation stopGeneration confirmed,
        Job.idleCleanupPreview (store.idleCleanupPreviewGeneration + 1) ≠
          .guidedSetup generation stopGeneration confirmed := nofun
    exact (guarded_spawn hnext hsetup hqueued).congr rfl rfl
  · exact hguarded

theorem guarded_confirmIdleCleanup : store.confirmIdleCleanup.Guarded := by
  have hcleared : { store with pendingIdleCleanupRequest := none }.Guarded := by
    obtain ⟨hfenced, hfresh⟩ := hguarded
    exact ⟨hfenced.congr rfl,
      nofun, hfresh.preview, hfresh.override, hfresh.plan, hfresh.submitted⟩
  unfold confirmIdleCleanup
  dsimp only
  split
  · exact hcleared
  · next cleanup hcleanup =>
      split
      · have hreceived := (hguarded.2.cleanup cleanup hcleanup).2
        have hsubmitted : ({ store with pendingIdleCleanupRequest := none }.submit
            cleanup.answer.planId cleanup.received).Guarded :=
          ⟨hcleared.1.congr rfl, hcleared.2.submit _ (.inr hreceived)⟩
        exact guarded_spawn hsubmitted (fun _ _ _ => nofun) trivial
      · exact hcleared

theorem guarded_idleCleanupPreviewed {id generation sent : Nat}
    (hjob : (store.tasks id).job = .idleCleanupPreview generation)
    (hstage : (store.tasks id).stage = .sent sent) (answer : CommandAnswer) :
    (store.idleCleanupPreviewed id generation sent answer).Guarded := by
  have hfence := hguarded.1.tasks id
  unfold ActionTask.Fenced at hfence
  rw [hjob] at hfence
  have hended : { store.setStage id .ended with isApplyingAction := false }.Guarded :=
    guarded_finishMutation hguarded hjob nofun
  unfold idleCleanupPreviewed
  dsimp only
  split
  · split
    · next hcurrent =>
        obtain ⟨hfenced, hfresh⟩ := hended
        split
        · exact ⟨hfenced.congr rfl,
            nofun, hfresh.preview, hfresh.override, hfresh.plan, hfresh.submitted⟩
        · refine ⟨hfenced.congr rfl,
            ?_, hfresh.preview, hfresh.override, hfresh.plan, hfresh.submitted⟩
          intro cleanup hcleanup
          obtain rfl := Option.some.inj hcleanup
          exact ⟨hfence.2 hcurrent.2.2 sent hstage, rfl⟩
    · exact hended
  · exact hended

/-! ## Capacity -/

theorem guarded_publishCapacityPreviewFailure (message : String) :
    (store.publishCapacityPreviewFailure message).Guarded := by
  unfold publishCapacityPreviewFailure
  split
  · exact hguarded
  · next hsheet =>
      apply guarded_reselect hguarded _ rfl
      rw [hsheet]
      rfl

theorem guarded_loadCapacityPreview : store.loadCapacityPreview.Guarded := by
  have hsettled : { store with capacityPreviewPending := false }.Guarded :=
    hguarded.congr rfl rfl
  unfold loadCapacityPreview
  split
  · exact hsettled
  · next sheet hsheet =>
      split
      · exact hsettled
      · split
        · exact hguarded.congr rfl rfl
        · split
          · exact guarded_publishCapacityPreviewFailure hsettled _
          · have hqueued : ActionTask.Fenced
                { job := .capacityPreview sheet.projectId sheet.purposeId, stage := .queued }
                store.serviceAuthorityEpoch store.idleCleanupPreviewGeneration
                store.capacitySheet.isSome :=
              fun _ sent hsent => nomatch hsent
            have hsetup : ∀ generation stopGeneration confirmed,
                Job.capacityPreview sheet.projectId sheet.purposeId ≠
                  .guidedSetup generation stopGeneration confirmed := nofun
            exact (guarded_spawn hguarded hsetup hqueued).congr rfl rfl

theorem guarded_beginAddSimulators (hanswered : store.PreviewsAnswered) :
    store.beginAddSimulators.Guarded := by
  unfold beginAddSimulators
  split
  · next hopens =>
      have hclosed : store.capacitySheet = none := by
        simp only [Bool.and_eq_true, Option.isNone_iff_eq_none] at hopens
        exact hopens.1.2
      split
      · exact hguarded
      · apply guarded_loadCapacityPreview
        obtain ⟨hfenced, hfresh⟩ := hguarded
        constructor
        · refine ⟨fun id => ?_, hfenced.asking, hfenced.settled⟩
          have hfence := hfenced.tasks id
          rw [hclosed] at hfence
          exact hfence.opened fun projectId purposeId sent hjob hstage =>
            hanswered id projectId purposeId sent hjob hstage
        · refine ⟨hfresh.cleanup, ?_, hfresh.override, hfresh.plan, hfresh.submitted⟩
          intro sheet preview hsheet hpreview
          obtain rfl := Option.some.inj hsheet
          cases hpreview
  · exact hguarded

theorem guarded_updateCapacitySelection (projectId : String) (purposeId : Option String) :
    (store.updateCapacitySelection projectId purposeId).Guarded := by
  unfold updateCapacitySelection
  split
  · exact hguarded
  · next hsheet =>
      split
      · apply guarded_loadCapacityPreview
        apply guarded_reselect hguarded _ rfl
        rw [hsheet]
        rfl
      · exact hguarded

theorem guarded_cancelAddSimulators : store.cancelAddSimulators.Guarded :=
  (guarded_closeSheet hguarded).congr rfl rfl

theorem guarded_confirmAddSimulators : store.confirmAddSimulators.Guarded := by
  unfold confirmAddSimulators
  split
  · exact hguarded
  · next sheet hsheet =>
      split
      · exact hguarded
      · next preview hpreview =>
          split
          · have hreceived := (hguarded.2.preview sheet preview hsheet hpreview).2
            have hclosed : { store with
                capacityPreviewPending := false, capacitySheet := none }.Guarded :=
              (guarded_closeSheet hguarded).congr rfl rfl
            have hsubmitted : ({ store with capacityPreviewPending := false, capacitySheet := none
                }.submit preview.answer.planId preview.received).Guarded :=
              ⟨hclosed.1.congr rfl, hclosed.2.submit _ (.inr hreceived)⟩
            exact guarded_spawn hsubmitted (fun _ _ _ => nofun) trivial
          · exact hguarded

theorem guarded_continueCapacityPreview (shouldContinue : Bool) :
    (store.continueCapacityPreview shouldContinue).Guarded := by
  unfold continueCapacityPreview
  dsimp only
  split
  · apply guarded_loadCapacityPreview
    exact hguarded.congr rfl rfl
  · exact hguarded.congr rfl rfl

theorem guarded_showCapacityPreview {sent : Nat} (hsent : sent = store.serviceAuthorityEpoch)
    (answer : CommandAnswer) : (store.showCapacityPreview sent answer).Guarded := by
  unfold showCapacityPreview
  split
  · split
    · obtain ⟨hfenced, hfresh⟩ := hguarded
      constructor
      · apply hfenced.congr
        unfold barriers
        rw [Option.isSome_map]
      · refine ⟨hfresh.cleanup, ?_, hfresh.override, hfresh.plan, hfresh.submitted⟩
        intro sheet preview hsheet hpreview
        obtain ⟨earlier, -, rfl⟩ := Option.map_eq_some_iff.mp hsheet
        obtain rfl := Option.some.inj hpreview
        exact ⟨hsent, rfl⟩
    · exact guarded_publishCapacityPreviewFailure hguarded _
  · exact guarded_publishCapacityPreviewFailure hguarded _
  · exact guarded_publishCapacityPreviewFailure hguarded _
  · exact guarded_publishCapacityPreviewFailure hguarded _

theorem guarded_capacityPreviewed {id sent : Nat} {projectId : String} {purposeId : Option String}
    (hjob : (store.tasks id).job = .capacityPreview projectId purposeId)
    (hstage : (store.tasks id).stage = .sent sent) (answer : CommandAnswer) :
    (store.capacityPreviewed id sent projectId purposeId answer).Guarded := by
  have hended : (store.setStage id .ended).Guarded :=
    guarded_setStage hguarded hjob nofun nofun
  unfold capacityPreviewed
  dsimp only
  split
  · next hmatches =>
      apply guarded_continueCapacityPreview
      apply guarded_showCapacityPreview hended
      have hopen : store.capacitySheet.isSome = true := by
        unfold selectionStillMatches at hmatches
        cases hsheet : store.capacitySheet with
        | none =>
            rw [hsheet] at hmatches
            simp at hmatches
        | some sheet => rfl
      have hfence := hguarded.1.tasks id
      unfold ActionTask.Fenced at hfence
      rw [hjob] at hfence
      exact hfence hopen sent hstage
  · exact guarded_continueCapacityPreview hended _

end

/-! ## Setup runs come and go -/

/-- Cancelling the setup changes nothing but its task. -/
theorem cancelSetupTask_eq (store : ActionStore) :
    store.cancelSetupTask = { store with tasks := store.cancelSetupTask.tasks } := by
  rcases Option.eq_none_or_eq_some store.setupTask with hheld | ⟨id, hheld⟩
  · have hsame : store.cancelSetupTask = store := by
      unfold cancelSetupTask
      rw [hheld]
    rw [hsame]
  · have hset : store.cancelSetupTask =
        store.setTask id { store.tasks id with cancelled := true } := by
      unfold cancelSetupTask
      rw [hheld]
    rw [hset]
    rfl

section

variable {store : ActionStore} (hguarded : store.Guarded) (hsound : store.work.Sound)

include hguarded hsound

/-- The setup is cancelled, and no plan awaits its confirmation any more. -/
theorem guarded_letGo {next : ActionStore} (htasks : next.tasks = store.cancelSetupTask.tasks)
    (hsame : next.barriers = { store.barriers with
      phase := next.setupPhase, tasks := store.cancelSetupTask.tasks })
    (hoffers : next.offers = { store.offers with
      phase := next.setupPhase, plan := next.setupPlan })
    (hphase : next.setupPhase ≠ .awaitingConfirmation) : next.Guarded := by
  have hepoch : next.serviceAuthorityEpoch = store.serviceAuthorityEpoch :=
    congrArg Barriers.epoch hsame
  have hpreview : next.idleCleanupPreviewGeneration = store.idleCleanupPreviewGeneration :=
    congrArg Barriers.previewGeneration hsame
  have hsheet : next.capacitySheet.isSome = store.capacitySheet.isSome :=
    congrArg Barriers.sheetOpen hsame
  constructor
  · apply fenced_of_silent
    · intro id
      rw [htasks, hepoch, hpreview, hsheet]
      exact fenced_cancelSetupTask hguarded.1.tasks id
    · intro id
      rw [htasks]
      exact silent_cancelSetupTask hsound id
    · exact hphase
  · have hdropped : { store with
        setupPhase := next.setupPhase, setupPlan := next.setupPlan }.Fresh := by
      obtain ⟨-, hfresh⟩ := hguarded
      exact ⟨hfresh.cleanup, hfresh.preview, hfresh.override,
        fun hawaits => absurd hawaits hphase, hfresh.submitted⟩
    exact hdropped.congr hoffers

theorem guarded_cancelGuidedSetup : store.cancelGuidedSetup.Guarded := by
  unfold cancelGuidedSetup
  split
  · exact hguarded
  · rw [cancelSetupTask_eq]
    exact guarded_letGo hguarded hsound rfl rfl rfl nofun

theorem guarded_stopGuidedSetup : store.stopGuidedSetup.Guarded := by
  unfold stopGuidedSetup
  split
  · next hphase =>
      rw [cancelSetupTask_eq]
      refine guarded_letGo hguarded hsound rfl rfl rfl ?_
      dsimp only
      rw [hphase]
      nofun
  · exact hguarded

omit hsound in
theorem guarded_start : store.start.Guarded := by
  unfold start
  split
  · exact hguarded
  · exact hguarded.congr rfl rfl

theorem guarded_stop : store.stop.Guarded := by
  unfold stop
  dsimp only
  cases hheld : store.setupTask with
  | none =>
      rw [if_neg (by simp)]
      have hsame : store.cancelSetupTask = store := by
        unfold cancelSetupTask
        rw [hheld]
      rw [hsame]
      exact hguarded.congr rfl rfl
  | some id =>
      rw [if_pos (show (some id).isSome = true from rfl), cancelSetupTask_eq]
      exact guarded_letGo hguarded hsound rfl rfl rfl nofun

/-- A new setup run is the only one that may ask. -/
theorem guarded_replaceSetup {confirmed : Option (Received SetupPlan)} {phase : SetupPhase}
    (hphase : phase ≠ .awaitingConfirmation) (hasks : confirmed = none → phase = .previewing) :
    (store.replaceSetup confirmed phase).Guarded := by
  let queued : ActionTask :=
    { job := .guidedSetup (store.setupGeneration + 1) store.storeStopGeneration confirmed
      stage := .queued }
  let tasks := Function.update store.cancelSetupTask.tasks store.nextTask queued
  have htasks : ∀ id, (tasks id).Fenced store.serviceAuthorityEpoch
      store.idleCleanupPreviewGeneration store.capacitySheet.isSome := by
    apply (Function.forall_update_iff _ fun _ task => ActionTask.Fenced task _ _ _).mpr
    exact ⟨trivial, fun id _ => fenced_cancelSetupTask hguarded.1.tasks id⟩
  have hasking : ∀ id, (tasks id).Asking → phase = .previewing ∧
      ∀ sent, (tasks id).stage = .sent sent → sent = store.serviceAuthorityEpoch := by
    apply (Function.forall_update_iff _ fun _ task => ActionTask.Asking task →
      phase = .previewing ∧
        ∀ sent, ActionTask.stage task = .sent sent → sent = store.serviceAuthorityEpoch).mpr
    refine ⟨?_, fun id _ hasking => absurd hasking (silent_cancelSetupTask hsound id)⟩
    rintro ⟨-, generation, stopGeneration, plan, hjob, ⟨-, hplan⟩ | ⟨sent, hsent⟩⟩
    · have hnone : confirmed = none := (Job.guidedSetup.inj hjob).2.2.trans hplan
      exact ⟨hasks hnone, nofun⟩
    · cases hsent
  unfold replaceSetup
  rw [cancelSetupTask_eq]
  dsimp only
  constructor
  · constructor
    · exact htasks
    · exact hasking
    · exact fun hawaits => absurd hawaits hphase
  · obtain ⟨-, hfresh⟩ := hguarded
    exact ⟨hfresh.cleanup, hfresh.preview, hfresh.override,
      fun hawaits => absurd hawaits hphase, hfresh.submitted⟩

theorem guarded_requestGuidedSetup : store.requestGuidedSetup.Guarded := by
  unfold requestGuidedSetup
  split
  · exact hguarded
  · exact guarded_replaceSetup hguarded hsound nofun fun _ => rfl

theorem guarded_confirmGuidedSetup : store.confirmGuidedSetup.Guarded := by
  unfold confirmGuidedSetup
  split
  · split
    · exact guarded_cancelGuidedSetup hguarded hsound
    · exact hguarded
  · split
    · exact hguarded
    · next plan hplan =>
        split
        · next hconfirms =>
            have hreceived : store.setupFailed = true ∨
                plan.received = store.serviceAuthorityEpoch := by
              rcases hguarded.2.plan hconfirms.1 plan hplan with hkept | hcurrent
              · exact .inl hkept
              · exact .inr hcurrent.2
            have hsubmitted : (store.submit plan.answer.planId plan.received
                store.setupFailed).Guarded :=
              ⟨hguarded.1.congr rfl, hguarded.2.submit _ hreceived⟩
            exact guarded_replaceSetup hsubmitted hsound nofun nofun
        · exact hguarded

/-! ## The epoch advances -/

omit hguarded in
/-- With the prompts gone, the setup is cancelled. -/
theorem guarded_revoked
    (htasks : ∀ id, (store.tasks id).Fenced store.serviceAuthorityEpoch
      store.idleCleanupPreviewGeneration store.capacitySheet.isSome)
    (hphase : store.setupPhase ≠ .applying) (hcleanup : store.pendingIdleCleanupRequest = none)
    (hsheet : store.capacitySheet = none) (hoverride : store.pendingOverrideRequest = none)
    (hsubmitted : ∀ submission ∈ store.submissions,
      submission.recovery = true ∨ submission.received = submission.confirmed) :
    store.cancelGuidedSetup.Guarded := by
  unfold cancelGuidedSetup
  rw [if_neg hphase, cancelSetupTask_eq]
  constructor
  · apply fenced_of_silent
    · exact fun id => fenced_cancelSetupTask htasks id
    · exact fun id => silent_cancelSetupTask hsound id
    · nofun
  · constructor
    · rw [hcleanup]
      nofun
    · rw [hsheet]
      nofun
    · rw [hoverride]
      nofun
    · nofun
    · exact hsubmitted

/-- A guided setup is spared only where no run asks and no plan awaits its confirmation. -/
theorem guarded_advance {preserving : Bool}
    (hspared : preserving = true → store.setupPhase ≠ .awaitingConfirmation ∧
      ∀ id, ¬ (store.tasks id).Asking) :
    (store.advanceServiceAuthorityEpoch preserving).Guarded := by
  have hadvanced : ∀ id, (store.tasks id).Fenced (store.serviceAuthorityEpoch + 1)
      (store.idleCleanupPreviewGeneration + 1) false :=
    fun id => (hguarded.1.tasks id).advance (Nat.le_succ _)
  have hsubmitted := hguarded.2.submitted
  unfold advanceServiceAuthorityEpoch clearPendingMutationAffordances
  dsimp only
  split
  · next hrevoked =>
      have hphase : store.setupPhase ≠ .applying := by
        rcases hrevoked.2 with hpreviewing | hawaiting
        · rw [show store.setupPhase = .previewing from hpreviewing]
          nofun
        · rw [show store.setupPhase = .awaitingConfirmation from hawaiting]
          nofun
      exact guarded_revoked hsound hadvanced hphase rfl rfl rfl hsubmitted
  · next hkept =>
      have hquiet : store.setupPhase ≠ .awaitingConfirmation ∧
          ∀ id, ¬ (store.tasks id).Asking := by
        cases preserving with
        | true => exact hspared rfl
        | false =>
            have hphase : ¬ (store.setupPhase = .previewing ∨
                store.setupPhase = .awaitingConfirmation) := fun hphase => hkept ⟨rfl, hphase⟩
            refine ⟨fun hawaits => hphase (.inr hawaits), fun id hasking => ?_⟩
            exact hphase (.inl (hguarded.1.asking id hasking).1)
      constructor
      · exact fenced_of_silent hadvanced hquiet.2 hquiet.1
      · exact ⟨nofun, nofun, nofun, fun hawaits => absurd hawaits hquiet.1, hsubmitted⟩

theorem guarded_acceptAuthority {preserving : Bool} (state : BrokerLoadedState)
    (hspared : preserving = true → store.setupPhase ≠ .awaitingConfirmation ∧
      ∀ id, ¬ (store.tasks id).Asking) :
    (store.acceptAuthority state preserving).Guarded := by
  unfold acceptAuthority
  split
  · exact guarded_advance hguarded hsound hspared
  · exact hguarded

theorem guarded_markServiceStatusUnverified : store.markServiceStatusUnverified.Guarded := by
  have hadvanced : (store.advanceServiceAuthorityEpoch false).Guarded :=
    guarded_advance hguarded hsound nofun
  exact hadvanced.congr rfl rfl

theorem guarded_afterFailure (fileExists : Bool) : (store.afterFailure fileExists).Guarded := by
  unfold afterFailure
  dsimp only
  split
  · next state _ =>
      have hreplaced : (store.replaceCachedServiceAuthority state).Guarded :=
        hguarded.congr rfl rfl
      split
      · exact guarded_markServiceStatusUnverified hreplaced hsound
      · split
        · exact guarded_advance hreplaced hsound nofun
        · exact hguarded
  · split
    · exact guarded_markServiceStatusUnverified hguarded hsound
    · exact hguarded

theorem guarded_publish {preserving : Bool} (result : RefreshResult)
    (hspared : preserving = true → store.setupPhase ≠ .awaitingConfirmation ∧
      ∀ id, ¬ (store.tasks id).Asking) :
    (store.publish preserving result).Guarded := by
  unfold publish
  split
  · exact (guarded_acceptAuthority hguarded hsound _ hspared).congr rfl rfl
  · split
    · split
      · exact (guarded_acceptAuthority hguarded hsound _ hspared).congr rfl rfl
      · exact guarded_afterFailure hguarded hsound _
    · exact guarded_afterFailure hguarded hsound _

/-- The refresh of a setup run publishes while no other run asks and no plan awaits its
confirmation. -/
theorem spared_of_mayPublish {id : Nat} (hpublishes : store.setupMayPublish id = true) :
    store.setupPhase ≠ .awaitingConfirmation ∧ ∀ other, ¬ (store.tasks other).Asking := by
  obtain ⟨stopGeneration, confirmed, hjob, hrunning, hquiet⟩ :
      ∃ stopGeneration confirmed,
        (store.tasks id).job = .guidedSetup store.setupGeneration stopGeneration confirmed ∧
          (store.tasks id).running = true ∧ ¬ (store.tasks id).Asking := by
    unfold setupMayPublish isCurrentSetup at hpublishes
    split at hpublishes
    · next generation stopGeneration confirmed hjob hstage =>
        simp only [Bool.and_eq_true, decide_eq_true_eq] at hpublishes
        rw [hpublishes.1.1] at hjob
        refine ⟨stopGeneration, confirmed, hjob, running_of_stage hjob hstage rfl, ?_⟩
        apply ActionTask.not_asking <;> rw [hstage] <;> nofun
    · next generation stopGeneration confirmed hjob hstage =>
        simp only [Bool.and_eq_true, decide_eq_true_eq] at hpublishes
        rw [hpublishes.1] at hjob
        refine ⟨stopGeneration, confirmed, hjob, running_of_stage hjob hstage rfl, ?_⟩
        apply ActionTask.not_asking <;> rw [hstage] <;> nofun
    · cases hpublishes
  constructor
  · intro hawaits
    exact hguarded.1.settled hawaits id _ _ _ hrunning hjob rfl
  · intro other hasking
    obtain rfl := asking_eq_of_current hsound hjob hasking
    exact hquiet hasking

end

/-! ## The turns of a setup run -/

theorem generation_eq_of_current {store : ActionStore} {generation stopGeneration : Nat}
    (hcurrent : store.isCurrentSetup generation stopGeneration = true) :
    generation = store.setupGeneration := by
  unfold isCurrentSetup at hcurrent
  simp only [Bool.and_eq_true, decide_eq_true_eq] at hcurrent
  exact hcurrent.1

section

variable {store : ActionStore} (hguarded : store.Guarded) {id generation stopGeneration : Nat}

include hguarded

theorem guarded_setupStage (hrunning : (store.tasks id).running = true) {stage : Stage}
    (hqueued : stage ≠ .queued) (hsent : ∀ sent, stage ≠ .sent sent) :
    (store.setStage id stage).Guarded :=
  ⟨hguarded.1.setupStage hrunning hqueued hsent, hguarded.2.congr rfl⟩

theorem guarded_finishSetup (hrunning : (store.tasks id).running = true) :
    (store.finishSetup id generation stopGeneration).Guarded := by
  have hended : (store.setStage id .ended).Guarded :=
    guarded_setupStage hguarded hrunning nofun nofun
  unfold finishSetup
  dsimp only
  split
  · exact hended.congr rfl rfl
  · exact hended

theorem guarded_abandonSetup (hrunning : (store.tasks id).running = true) :
    (store.abandonSetup id generation stopGeneration).Guarded := by
  unfold abandonSetup
  split
  · exact guarded_setupStage hguarded hrunning nofun nofun
  · exact guarded_finishSetup hguarded hrunning

end

section

variable {store : ActionStore} (hguarded : store.Guarded) (hsound : store.work.Sound)
  {id generation stopGeneration : Nat} {confirmed : Option (Received SetupPlan)}

include hguarded hsound

/-- The run of the current generation moves the setup to another phase. -/
theorem guarded_rephase
    (hjob : (store.tasks id).job = .guidedSetup store.setupGeneration stopGeneration confirmed)
    (stage : Stage) (phase : SetupPhase) (plan : Option (Received SetupPlan)) (failed : Bool)
    (hqueued : stage ≠ .queued) (hsent : ∀ sent, stage ≠ .sent sent)
    (hended : phase = .awaitingConfirmation → stage = .ended)
    (hplan : phase = .awaitingConfirmation → ∀ shown, plan = some shown →
      failed = true ∨ store.Current shown) :
    { store.setStage id stage with
      setupPhase := phase, setupPlan := plan, setupFailed := failed }.Guarded := by
  have hself : (store.setStage id stage).tasks id = { store.tasks id with stage } :=
    Function.update_self _ _ _
  have hother : ∀ other, other ≠ id → (store.setStage id stage).tasks other = store.tasks other :=
    fun other hne => Function.update_of_ne hne _ _
  obtain ⟨hfenced, hfresh⟩ := hguarded
  constructor
  · constructor
    · intro other
      by_cases hne : other = id
      · have hfence := (hfenced.tasks id).unsent hsent
        rw [← hself] at hfence
        rw [hne]
        exact hfence
      · have hfence := hfenced.tasks other
        rw [← hother other hne] at hfence
        exact hfence
    · intro other hasking
      have hstored : ((store.setStage id stage).tasks other).Asking := hasking
      by_cases hne : other = id
      · rw [hne, hself] at hstored
        exact absurd hstored (ActionTask.not_asking hqueued hsent)
      · rw [hother other hne] at hstored
        exact absurd (asking_eq_of_current hsound hjob hstored) hne
    · intro hawaits other later stop shown hrunning hsetup hequal
      have hruns : ((store.setStage id stage).tasks other).running = true := hrunning
      have hsetups : ((store.setStage id stage).tasks other).job =
        .guidedSetup later stop shown := hsetup
      have hcurrent : later = store.setupGeneration := hequal
      by_cases hne : other = id
      · rw [hne, hself, hended hawaits, Work.running_ended] at hruns
        cases hruns
      · rw [hother other hne, hcurrent] at hsetups
        exact hne (hsound.distinct other id _ _ _ _ _ hsetups hjob)
  · exact ⟨hfresh.cleanup, hfresh.preview, hfresh.override, hplan, hfresh.submitted⟩

theorem guarded_applyGuidedSetup
    (hjob : (store.tasks id).job = .guidedSetup generation stopGeneration confirmed)
    (hrunning : (store.tasks id).running = true) :
    (store.applyGuidedSetup id generation stopGeneration).Guarded := by
  unfold applyGuidedSetup
  split
  · next happlies =>
      rw [generation_eq_of_current happlies.2.1] at hjob
      have hmoved : { store.setStage id .applying with
          setupPhase := .applying, setupPlan := store.setupPlan,
          setupFailed := store.setupFailed }.Guarded :=
        guarded_rephase hguarded hsound hjob .applying .applying _ _ nofun nofun nofun nofun
      exact hmoved
  · exact guarded_abandonSetup hguarded hrunning

theorem guarded_beginSetup
    (hjob : (store.tasks id).job = .guidedSetup generation stopGeneration confirmed)
    (hstage : (store.tasks id).stage = .queued) :
    (store.beginSetup id generation stopGeneration confirmed).Guarded := by
  have hrunning := running_of_stage hjob hstage rfl
  unfold beginSetup
  split
  · exact guarded_applyGuidedSetup hguarded hsound hjob hrunning
  · split
    · next hbegins =>
        have hasking : (store.tasks id).Asking :=
          ⟨hbegins.1, generation, stopGeneration, none, hjob, .inl ⟨hstage, rfl⟩⟩
        refine ⟨?_, hguarded.2.congr rfl⟩
        apply hguarded.1.setTask id _ (hguarded.1.tasks id).sent
        · intro _
          exact ⟨(hguarded.1.asking id hasking).1, fun sent hsent => (Stage.sent.inj hsent).symm⟩
        · intro hphase later stop shown _ hsetup
          exact hguarded.1.settled hphase id later stop shown hrunning hsetup
    · exact guarded_abandonSetup hguarded hrunning

theorem guarded_admitSetupPlan {sent : Nat}
    (hjob : (store.tasks id).job = .guidedSetup generation stopGeneration confirmed)
    (hstage : (store.tasks id).stage = .sent sent) (huncancelled : (store.tasks id).cancelled = false)
    (plan : SetupPlan) :
    (store.admitSetupPlan id generation stopGeneration sent plan).Guarded := by
  have hrunning := running_of_stage hjob hstage rfl
  have hasking : (store.tasks id).Asking :=
    ⟨huncancelled, generation, stopGeneration, confirmed, hjob, .inr ⟨sent, hstage⟩⟩
  have hsent : sent = store.serviceAuthorityEpoch := (hguarded.1.asking id hasking).2 sent hstage
  obtain ⟨-, held, hheld⟩ := hsound.held id (held_of_asking hsound hasking)
  -- The plan is shown, and the run that asked for it ends.
  have hshown : { store.setStage id .ended with
      setupPhase := .awaitingConfirmation
      setupPlan := some { answer := plan, sent, received := store.serviceAuthorityEpoch }
      setupFailed := false }.Guarded := by
    apply guarded_rephase hguarded hsound hheld .ended .awaitingConfirmation _ false nofun nofun
    · exact fun _ => rfl
    intro _ shown hplan
    obtain rfl := Option.some.inj hplan
    exact .inr ⟨hsent, rfl⟩
  have hcleared : { store with setupPlan := none, pendingSetupConfirmation := none }.Guarded := by
    obtain ⟨hfenced, hfresh⟩ := hguarded
    exact ⟨hfenced.congr rfl,
      hfresh.cleanup, hfresh.preview, hfresh.override, fun _ => nofun, hfresh.submitted⟩
  unfold admitSetupPlan
  dsimp only
  split
  · exact guarded_finishSetup hguarded hrunning
  · split
    · unfold finishSetup
      dsimp only
      split <;> exact hshown.congr rfl rfl
    · split
      · unfold finishSetup
        dsimp only
        split <;> exact hshown.congr rfl rfl
      · split
        · exact guarded_setupStage hcleared hrunning nofun nofun
        · exact guarded_applyGuidedSetup hcleared hsound hjob hrunning

theorem guarded_setupPreviewed {sent : Nat}
    (hjob : (store.tasks id).job = .guidedSetup generation stopGeneration confirmed)
    (hstage : (store.tasks id).stage = .sent sent) (answer : StepAnswer SetupPlan) :
    (store.setupPreviewed id generation stopGeneration sent answer).Guarded := by
  have hrunning := running_of_stage hjob hstage rfl
  cases answer with
  | answered plan =>
      unfold setupPreviewed
      dsimp only
      split
      · exact guarded_abandonSetup hguarded hrunning
      · next huncancelled =>
          exact guarded_admitSetupPlan hguarded hsound hjob hstage
            (Bool.not_eq_true _ ▸ huncancelled) plan
  | cancelled => exact guarded_abandonSetup hguarded hrunning
  | failed => exact guarded_setupStage hguarded hrunning nofun nofun

omit hsound in
theorem guarded_setupApplied (hrunning : (store.tasks id).running = true)
    (answer : StepAnswer Unit) :
    (store.setupApplied id generation stopGeneration answer).Guarded := by
  cases answer with
  | answered done =>
      unfold setupApplied
      dsimp only
      split
      · exact guarded_abandonSetup hguarded hrunning
      · exact guarded_setupStage hguarded hrunning nofun nofun
  | cancelled => exact guarded_abandonSetup hguarded hrunning
  | failed => exact guarded_setupStage hguarded hrunning nofun nofun

/-- The run of the current generation ends with the setup cleared. -/
theorem guarded_cleared
    (hjob : (store.tasks id).job = .guidedSetup store.setupGeneration stopGeneration confirmed) :
    (store.clearSetup.finishSetup id generation stopGeneration).Guarded := by
  have hended : { store.setStage id .ended with
      setupPhase := .idle, setupPlan := none, setupFailed := store.setupFailed }.Guarded :=
    guarded_rephase hguarded hsound hjob .ended .idle none _ nofun nofun nofun nofun
  unfold finishSetup clearSetup
  dsimp only
  split <;> exact hended.congr rfl rfl

theorem guarded_setupReturned
    (hjob : (store.tasks id).job = .guidedSetup generation stopGeneration confirmed)
    (hrunning : (store.tasks id).running = true) (answer : StepAnswer Unit) :
    (store.setupReturned id generation stopGeneration answer).Guarded := by
  unfold setupReturned
  split
  · exact guarded_abandonSetup hguarded hrunning
  · next hcancelled =>
      split
      · split
        · have huncancelled : (store.tasks id).cancelled = false :=
            Bool.eq_false_iff.mpr hcancelled
          have hsetup : (store.tasks id).isSetup = true := by
            unfold ActionTask.isSetup
            rw [hjob]
          have hheld := hsound.uncancelled id hrunning hsetup huncancelled
          obtain ⟨-, plan, hcurrent⟩ := hsound.held id hheld
          have hgeneration : generation = store.setupGeneration :=
            (Job.guidedSetup.inj (hjob.symm.trans hcurrent)).1
          rw [hgeneration] at hjob
          exact guarded_cleared hguarded hsound hjob
        · exact guarded_setupStage hguarded hrunning nofun nofun
      · exact guarded_abandonSetup hguarded hrunning
      · exact guarded_setupStage hguarded hrunning nofun nofun

theorem guarded_setupConcluded
    (hjob : (store.tasks id).job = .guidedSetup generation stopGeneration confirmed)
    (hrunning : (store.tasks id).running = true) :
    (store.setupConcluded id generation stopGeneration confirmed).Guarded := by
  unfold setupConcluded
  dsimp only
  by_cases hcurrent : store.isCurrentSetup generation stopGeneration = true
  · rw [if_pos hcurrent]
    have hown := hjob
    rw [generation_eq_of_current hcurrent] at hown
    split
    · exact guarded_cleared hguarded hsound hown
    · split
      · have hended : { store.setStage id .ended with
            setupPhase := .idle, setupPlan := store.setupPlan,
            setupFailed := store.setupFailed }.Guarded :=
          guarded_rephase hguarded hsound hown .ended .idle _ _ nofun nofun nofun nofun
        unfold finishSetup
        dsimp only
        split <;> exact hended.congr rfl rfl
      · have hended : { store.setStage id .ended with
            setupPhase := .awaitingConfirmation, setupPlan := store.setupPlan,
            setupFailed := true }.Guarded :=
          guarded_rephase hguarded hsound hown .ended .awaitingConfirmation _ true nofun nofun
            (fun _ => rfl) fun _ _ _ => .inl rfl
        unfold finishSetup
        dsimp only
        split <;> exact hended.congr rfl rfl
  · rw [if_neg hcurrent]
    exact guarded_finishSetup hguarded hrunning

theorem guarded_setupRecovered
    (hjob : (store.tasks id).job = .guidedSetup generation stopGeneration confirmed)
    (hrunning : (store.tasks id).running = true) :
    (store.setupRecovered id generation stopGeneration).Guarded := by
  unfold setupRecovered
  dsimp only
  by_cases hcurrent : store.isCurrentSetup generation stopGeneration = true
  · rw [if_pos hcurrent]
    rw [generation_eq_of_current hcurrent] at hjob
    exact guarded_cleared hguarded hsound hjob
  · rw [if_neg hcurrent]
    exact guarded_finishSetup hguarded hrunning

end

/-! ## A turn -/

section

variable {store : ActionStore} (hguarded : store.Guarded) (hsound : store.work.Sound) {id : Nat}

include hguarded hsound

theorem guarded_begin (hstage : (store.tasks id).stage = .queued) : (store.begin id).Guarded := by
  unfold begin
  cases hjob : (store.tasks id).job with
  | mutation => exact guarded_executeMutation hguarded hjob nofun
  | lifecycle request captured => exact guarded_executeMutation hguarded hjob nofun
  | idleCleanupPreview generation => exact guarded_send hguarded hjob nofun
  | capacityPreview projectId purposeId => exact guarded_send hguarded hjob nofun
  | guidedSetup generation stopGeneration confirmed =>
      exact guarded_beginSetup hguarded hsound hjob hstage

omit hsound in
theorem guarded_answered {sent : Nat} {answer : CommandAnswer} {next : ActionStore}
    (hstage : (store.tasks id).stage = .sent sent)
    (hnext : store.answered id sent answer = some next) : next.Guarded := by
  unfold answered at hnext
  cases hjob : (store.tasks id).job with
  | mutation =>
      rw [hjob] at hnext
      have hrefreshing : (store.setStage id .refreshing).Guarded :=
        guarded_setStage hguarded hjob nofun nofun
      cases answer with
      | envelope envelope =>
          obtain rfl := Option.some.inj hnext
          exact hrefreshing
      | rejected error | failed error =>
          obtain rfl := Option.some.inj hnext
          exact guarded_finishMutation hguarded hjob nofun
  | lifecycle request captured =>
      rw [hjob] at hnext
      have hrefreshing : (store.setStage id .refreshing).Guarded :=
        guarded_setStage hguarded hjob nofun nofun
      have hfinished : (store.finishMutation id).Guarded :=
        guarded_finishMutation hguarded hjob nofun
      cases answer with
      | envelope envelope =>
          obtain rfl := Option.some.inj hnext
          exact hrefreshing
      | rejected error =>
          obtain rfl := Option.some.inj hnext
          have hfence := hguarded.1.tasks id
          unfold ActionTask.Fenced at hfence
          rw [hjob] at hfence
          obtain ⟨hcaptured, hsent⟩ := hfence.2 sent hstage
          exact guarded_presentOverride hfinished hcaptured hsent error
      | failed error =>
          obtain rfl := Option.some.inj hnext
          exact hfinished
  | idleCleanupPreview generation =>
      rw [hjob] at hnext
      obtain rfl := Option.some.inj hnext
      exact guarded_idleCleanupPreviewed hguarded hjob hstage answer
  | capacityPreview projectId purposeId =>
      rw [hjob] at hnext
      obtain rfl := Option.some.inj hnext
      exact guarded_capacityPreviewed hguarded hjob hstage answer
  | guidedSetup generation stopGeneration confirmed =>
      rw [hjob] at hnext
      cases hnext

theorem guarded_returned {answer : StepAnswer Unit} {next : ActionStore}
    (hstage : (store.tasks id).stage = .refreshing)
    (hnext : store.returned id answer = some next) : next.Guarded := by
  unfold returned at hnext
  cases hjob : (store.tasks id).job with
  | mutation | lifecycle =>
      rw [hjob] at hnext
      obtain rfl := Option.some.inj hnext
      exact guarded_finishMutation hguarded hjob nofun
  | idleCleanupPreview | capacityPreview =>
      rw [hjob] at hnext
      cases hnext
  | guidedSetup generation stopGeneration confirmed =>
      rw [hjob] at hnext
      obtain rfl := Option.some.inj hnext
      exact guarded_setupReturned hguarded hsound hjob (running_of_stage hjob hstage rfl) answer

/-- A turn keeps the fences and what is offered, as long as the sheet opens fenced. -/
theorem guarded_step {event : Event} {next : ActionStore} (hopens : store.OpensFenced event)
    (hstep : store.step event = some next) : next.Guarded := by
  cases event with
  | selectPane pane =>
      obtain rfl := Option.some.inj hstep
      exact guarded_selectPane hguarded pane
  | inspect aliasName =>
      obtain rfl := Option.some.inj hstep
      exact hguarded.congr rfl rfl
  | requestIdleCleanup =>
      obtain rfl := Option.some.inj hstep
      exact guarded_requestIdleCleanup hguarded
  | confirmIdleCleanup =>
      obtain rfl := Option.some.inj hstep
      exact guarded_confirmIdleCleanup hguarded
  | beginAddSimulators =>
      obtain rfl := Option.some.inj hstep
      exact guarded_beginAddSimulators hguarded hopens
  | updateCapacitySelection projectId purposeId =>
      obtain rfl := Option.some.inj hstep
      exact guarded_updateCapacitySelection hguarded projectId purposeId
  | cancelAddSimulators =>
      obtain rfl := Option.some.inj hstep
      exact guarded_cancelAddSimulators hguarded
  | confirmAddSimulators =>
      obtain rfl := Option.some.inj hstep
      exact guarded_confirmAddSimulators hguarded
  | requestLifecycleAction action =>
      obtain rfl := Option.some.inj hstep
      exact guarded_requestLifecycleAction hguarded action
  | confirmPendingLifecycleAction =>
      obtain rfl := Option.some.inj hstep
      exact guarded_confirmPendingLifecycleAction hguarded
  | confirmOverrideRequest reason =>
      obtain rfl := Option.some.inj hstep
      exact guarded_confirmOverrideRequest hguarded reason
  | mutate =>
      obtain rfl := Option.some.inj hstep
      refine guarded_spawn hguarded ?_ trivial
      rintro generation stopGeneration confirmed ⟨⟩
  | requestGuidedSetup =>
      obtain rfl := Option.some.inj hstep
      exact guarded_requestGuidedSetup hguarded hsound
  | confirmGuidedSetup =>
      obtain rfl := Option.some.inj hstep
      exact guarded_confirmGuidedSetup hguarded hsound
  | cancelGuidedSetup =>
      obtain rfl := Option.some.inj hstep
      exact guarded_cancelGuidedSetup hguarded hsound
  | stopGuidedSetup =>
      obtain rfl := Option.some.inj hstep
      exact guarded_stopGuidedSetup hguarded hsound
  | start =>
      obtain rfl := Option.some.inj hstep
      exact guarded_start hguarded
  | stop =>
      obtain rfl := Option.some.inj hstep
      exact guarded_stop hguarded hsound
  | loopTurn id =>
      simp only [step] at hstep
      split at hstep
      · cases hstep
      · obtain rfl := Option.some.inj hstep
        exact hguarded.congr rfl rfl
  | refreshed result inspected =>
      obtain rfl := Option.some.inj hstep
      have hpublished : (store.publish false result).Guarded :=
        guarded_publish hguarded hsound result fun hpreserving => by cases hpreserving
      exact hpublished.congr rfl rfl
  | setupRefreshed id result inspected =>
      simp only [step] at hstep
      split at hstep
      · next hpublishes =>
          obtain rfl := Option.some.inj hstep
          have hpublished : (store.publish true result).Guarded :=
            guarded_publish hguarded hsound result fun _ =>
              spared_of_mayPublish hguarded hsound hpublishes
          exact hpublished.congr rfl rfl
      · cases hstep
  | begin id =>
      simp only [step] at hstep
      split at hstep
      · next hstage =>
          obtain rfl := Option.some.inj hstep
          exact guarded_begin hguarded hsound hstage
      · cases hstep
  | answered id answer =>
      simp only [step] at hstep
      split at hstep
      · next hstage => exact guarded_answered hguarded hstage hstep
      · cases hstep
  | previewed id answer =>
      simp only [step] at hstep
      split at hstep
      · next hjob hstage =>
          obtain rfl := Option.some.inj hstep
          exact guarded_setupPreviewed hguarded hsound hjob hstage answer
      · cases hstep
  | applied id answer =>
      simp only [step] at hstep
      split at hstep
      · next hjob hstage =>
          obtain rfl := Option.some.inj hstep
          exact guarded_setupApplied hguarded (running_of_stage hjob hstage rfl) answer
      · cases hstep
  | returned id answer =>
      simp only [step] at hstep
      split at hstep
      · next hstage => exact guarded_returned hguarded hsound hstage hstep
      · cases hstep
  | concluded id =>
      simp only [step] at hstep
      split at hstep
      · next hjob hstage =>
          obtain rfl := Option.some.inj hstep
          exact guarded_setupConcluded hguarded hsound hjob (running_of_stage hjob hstage rfl)
      · cases hstep
  | recovered id =>
      simp only [step] at hstep
      split at hstep
      · next hjob hstage =>
          obtain rfl := Option.some.inj hstep
          exact guarded_setupRecovered hguarded hsound hjob (running_of_stage hjob hstage rfl)
      · cases hstep

end

end ActionStore

end SimulatorBroker.Actions
