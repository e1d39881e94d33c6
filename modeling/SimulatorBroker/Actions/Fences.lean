import SimulatorBroker.Actions.Accurate

/-!
# The fences of stale answers

Each kind of answer is fenced by a token of its own: an idle cleanup by its generation, a
lifecycle action by the epoch it has captured, a setup run by being cancelled.  A capacity
preview is fenced by the sheet, which closes when the epoch advances and is not meant to open
while an earlier preview is on its way.
-/

namespace SimulatorBroker.Actions

namespace ActionTask

/-- What the token of a task says of the epoch in which its command was sent. -/
def Fenced (task : ActionTask) (epoch previewGeneration : Nat) (sheetOpen : Bool) : Prop :=
  match task.job with
  | .idleCleanupPreview generation =>
      generation ≤ previewGeneration ∧
        (generation = previewGeneration → ∀ sent, task.stage = .sent sent → sent = epoch)
  | .lifecycle _ captured =>
      captured ≤ epoch ∧ ∀ sent, task.stage = .sent sent → captured ≤ sent ∧ sent ≤ epoch
  | .capacityPreview _ _ => sheetOpen = true → ∀ sent, task.stage = .sent sent → sent = epoch
  | .mutation | .guidedSetup _ _ _ => True

/-- A setup run that may still show its plan for confirmation. -/
def Asking (task : ActionTask) : Prop :=
  task.cancelled = false ∧
    ∃ generation stopGeneration confirmed,
      task.job = .guidedSetup generation stopGeneration confirmed ∧
        (task.stage = .queued ∧ confirmed = none ∨ ∃ sent, task.stage = .sent sent)

end ActionTask

namespace ActionStore

structure Fenced (store : ActionStore) : Prop where
  tasks : ∀ id, (store.tasks id).Fenced store.serviceAuthorityEpoch
    store.idleCleanupPreviewGeneration store.capacitySheet.isSome
  asking : ∀ id, (store.tasks id).Asking → store.setupPhase = .previewing ∧
    ∀ sent, (store.tasks id).stage = .sent sent → sent = store.serviceAuthorityEpoch
  settled : store.setupPhase = .awaitingConfirmation →
    ∀ id generation stopGeneration confirmed, (store.tasks id).running = true →
      (store.tasks id).job = .guidedSetup generation stopGeneration confirmed →
        generation ≠ store.setupGeneration

/-- An answer was asked for and received in the current epoch. -/
def Current {α : Type} (store : ActionStore) (received : Received α) : Prop :=
  received.sent = store.serviceAuthorityEpoch ∧ received.received = store.serviceAuthorityEpoch

/-- What the store offers for confirmation is of the current epoch, and so was what has been
confirmed; a plan that a failed setup has kept is an exception. -/
structure Fresh (store : ActionStore) : Prop where
  cleanup : ∀ cleanup, store.pendingIdleCleanupRequest = some cleanup → store.Current cleanup
  preview : ∀ sheet preview, store.capacitySheet = some sheet → sheet.preview = some preview →
    store.Current preview
  override : ∀ override, store.pendingOverrideRequest = some override → store.Current override
  plan : store.setupPhase = .awaitingConfirmation → ∀ plan, store.setupPlan = some plan →
    store.setupFailed = true ∨ store.Current plan
  submitted : ∀ submission ∈ store.submissions,
    submission.recovery = true ∨ submission.received = submission.confirmed

/-- The two invariants of a run. -/
def Guarded (store : ActionStore) : Prop :=
  store.Fenced ∧ store.Fresh

end ActionStore

/-! ## Tasks -/

namespace ActionTask

section

variable {task : ActionTask} {epoch previewGeneration : Nat} {sheetOpen : Bool}

theorem Fenced.unsent (hfenced : task.Fenced epoch previewGeneration sheetOpen) {stage : Stage}
    (hunsent : ∀ sent, stage ≠ .sent sent) :
    { task with stage }.Fenced epoch previewGeneration sheetOpen := by
  rcases task with ⟨job, before, cancelled⟩
  cases job with
  | mutation | guidedSetup => trivial
  | lifecycle request captured =>
      exact ⟨hfenced.1, fun sent hstage => absurd hstage (hunsent sent)⟩
  | idleCleanupPreview generation =>
      exact ⟨hfenced.1, fun _ sent hstage => absurd hstage (hunsent sent)⟩
  | capacityPreview => exact fun _ sent hstage => absurd hstage (hunsent sent)

theorem Fenced.cancelled (hfenced : task.Fenced epoch previewGeneration sheetOpen)
    (cancelled : Bool) : { task with cancelled }.Fenced epoch previewGeneration sheetOpen :=
  hfenced

theorem Fenced.sent (hfenced : task.Fenced epoch previewGeneration sheetOpen) :
    { task with stage := .sent epoch }.Fenced epoch previewGeneration sheetOpen := by
  have hsame : ∀ sent, Stage.sent epoch = .sent sent → sent = epoch :=
    fun sent hstage => (Stage.sent.inj hstage).symm
  rcases task with ⟨job, before, cancelled⟩
  cases job with
  | mutation | guidedSetup => trivial
  | lifecycle request captured =>
      refine ⟨hfenced.1, fun sent hstage => ?_⟩
      rw [hsame sent hstage]
      exact ⟨hfenced.1, Nat.le_refl epoch⟩
  | idleCleanupPreview generation => exact ⟨hfenced.1, fun _ => hsame⟩
  | capacityPreview => exact fun _ => hsame

/-- The epoch advances with the generation of idle cleanups, and the sheet closes. -/
theorem Fenced.advance (hfenced : task.Fenced epoch previewGeneration sheetOpen) {later : Nat}
    (hlater : epoch ≤ later) : task.Fenced later (previewGeneration + 1) false := by
  rcases task with ⟨job, stage, cancelled⟩
  cases job with
  | mutation | guidedSetup => trivial
  | lifecycle request captured =>
      refine ⟨Nat.le_trans hfenced.1 hlater, fun sent hstage => ?_⟩
      obtain ⟨hcaptured, hsent⟩ := hfenced.2 sent hstage
      exact ⟨hcaptured, Nat.le_trans hsent hlater⟩
  | idleCleanupPreview generation =>
      exact ⟨Nat.le_succ_of_le hfenced.1,
        fun hequal => absurd (hequal ▸ hfenced.1) (Nat.not_succ_le_self _)⟩
  | capacityPreview => exact nofun

theorem Fenced.regenerate (hfenced : task.Fenced epoch previewGeneration sheetOpen) :
    task.Fenced epoch (previewGeneration + 1) sheetOpen := by
  rcases task with ⟨job, stage, cancelled⟩
  cases job with
  | mutation | guidedSetup => trivial
  | lifecycle request captured => exact hfenced
  | idleCleanupPreview generation =>
      exact ⟨Nat.le_succ_of_le hfenced.1,
        fun hequal => absurd (hequal ▸ hfenced.1) (Nat.not_succ_le_self _)⟩
  | capacityPreview => exact hfenced

theorem Fenced.close (hfenced : task.Fenced epoch previewGeneration sheetOpen) :
    task.Fenced epoch previewGeneration false := by
  rcases task with ⟨job, stage, cancelled⟩
  cases job with
  | mutation | guidedSetup => trivial
  | lifecycle request captured => exact hfenced
  | idleCleanupPreview generation => exact hfenced
  | capacityPreview => exact nofun

/-- The sheet opens while no capacity preview of an earlier epoch is on its way. -/
theorem Fenced.opened (hfenced : task.Fenced epoch previewGeneration false)
    (hanswered : ∀ projectId purposeId sent, task.job = .capacityPreview projectId purposeId →
      task.stage = .sent sent → sent = epoch) :
    task.Fenced epoch previewGeneration true := by
  rcases task with ⟨job, stage, cancelled⟩
  cases job with
  | mutation | guidedSetup => trivial
  | lifecycle request captured => exact hfenced
  | idleCleanupPreview generation => exact hfenced
  | capacityPreview projectId purposeId =>
      exact fun _ sent hstage => hanswered projectId purposeId sent rfl hstage

end

theorem Asking.running {task : ActionTask} (hasking : task.Asking) : task.running = true := by
  obtain ⟨-, generation, stopGeneration, confirmed, hjob, hstage⟩ := hasking
  unfold ActionTask.running
  rw [hjob]
  rcases hstage with ⟨hqueued, -⟩ | ⟨sent, hsent⟩
  · rw [hqueued]
  · rw [hsent]

theorem Asking.isSetup {task : ActionTask} (hasking : task.Asking) : task.isSetup = true := by
  obtain ⟨-, generation, stopGeneration, confirmed, hjob, -⟩ := hasking
  unfold ActionTask.isSetup
  rw [hjob]

/-- A run in a later stage no longer asks. -/
theorem not_asking {task : ActionTask} (hqueued : task.stage ≠ .queued)
    (hsent : ∀ sent, task.stage ≠ .sent sent) : ¬ task.Asking := by
  rintro ⟨-, generation, stopGeneration, confirmed, hjob, ⟨hstage, -⟩ | ⟨sent, hstage⟩⟩
  · exact hqueued hstage
  · exact hsent sent hstage

theorem not_asking_of_job {task : ActionTask}
    (hjob : ∀ generation stopGeneration confirmed,
      task.job ≠ .guidedSetup generation stopGeneration confirmed) : ¬ task.Asking := by
  rintro ⟨-, generation, stopGeneration, confirmed, hsetup, -⟩
  exact hjob generation stopGeneration confirmed hsetup

end ActionTask

/-! ## What the invariants read -/

/-- What is offered for confirmation, and what has been confirmed. -/
structure Offers where
  epoch : Nat
  cleanup : Option (Received IdleCleanup)
  sheet : Option CapacitySheet
  override : Option (Received LifecycleOverride)
  phase : SetupPhase
  plan : Option (Received SetupPlan)
  failed : Bool
  submissions : List Submission

/-- What the fences are about. -/
structure Barriers where
  epoch : Nat
  previewGeneration : Nat
  sheetOpen : Bool
  phase : SetupPhase
  setupGeneration : Nat
  tasks : Nat → ActionTask

namespace ActionStore

def offers (store : ActionStore) : Offers where
  epoch := store.serviceAuthorityEpoch
  cleanup := store.pendingIdleCleanupRequest
  sheet := store.capacitySheet
  override := store.pendingOverrideRequest
  phase := store.setupPhase
  plan := store.setupPlan
  failed := store.setupFailed
  submissions := store.submissions

def barriers (store : ActionStore) : Barriers where
  epoch := store.serviceAuthorityEpoch
  previewGeneration := store.idleCleanupPreviewGeneration
  sheetOpen := store.capacitySheet.isSome
  phase := store.setupPhase
  setupGeneration := store.setupGeneration
  tasks := store.tasks

section

variable {store next : ActionStore}

theorem Fresh.congr (hfresh : store.Fresh) (hsame : next.offers = store.offers) : next.Fresh := by
  have hepoch : next.serviceAuthorityEpoch = store.serviceAuthorityEpoch :=
    congrArg Offers.epoch hsame
  have hcurrent : ∀ {α : Type} {received : Received α}, store.Current received →
      next.Current received := by
    intro α received hreceived
    unfold Current
    rw [hepoch]
    exact hreceived
  constructor
  · intro cleanup hcleanup
    exact hcurrent (hfresh.cleanup cleanup ((congrArg Offers.cleanup hsame).symm.trans hcleanup))
  · intro sheet preview hsheet hpreview
    exact hcurrent
      (hfresh.preview sheet preview ((congrArg Offers.sheet hsame).symm.trans hsheet) hpreview)
  · intro override hoverride
    exact hcurrent
      (hfresh.override override ((congrArg Offers.override hsame).symm.trans hoverride))
  · intro hphase plan hplan
    have hfailed : next.setupFailed = store.setupFailed := congrArg Offers.failed hsame
    rcases hfresh.plan ((congrArg Offers.phase hsame).symm.trans hphase) plan
      ((congrArg Offers.plan hsame).symm.trans hplan) with hkept | hreceived
    · exact .inl (hfailed.trans hkept)
    · exact .inr (hcurrent hreceived)
  · have hsubmissions : next.submissions = store.submissions :=
      congrArg Offers.submissions hsame
    rw [hsubmissions]
    exact hfresh.submitted

theorem Fenced.congr (hfenced : store.Fenced) (hsame : next.barriers = store.barriers) :
    next.Fenced := by
  have htasks : next.tasks = store.tasks := congrArg Barriers.tasks hsame
  have hepoch : next.serviceAuthorityEpoch = store.serviceAuthorityEpoch :=
    congrArg Barriers.epoch hsame
  have hphase : next.setupPhase = store.setupPhase := congrArg Barriers.phase hsame
  have hsetup : next.setupGeneration = store.setupGeneration :=
    congrArg Barriers.setupGeneration hsame
  have hpreview : next.idleCleanupPreviewGeneration = store.idleCleanupPreviewGeneration :=
    congrArg Barriers.previewGeneration hsame
  have hsheet : next.capacitySheet.isSome = store.capacitySheet.isSome :=
    congrArg Barriers.sheetOpen hsame
  constructor
  · rw [htasks, hepoch, hpreview, hsheet]
    exact hfenced.tasks
  · rw [htasks, hepoch, hphase]
    exact hfenced.asking
  · rw [htasks, hphase, hsetup]
    exact hfenced.settled

theorem Guarded.congr (hguarded : store.Guarded) (hfences : next.barriers = store.barriers)
    (hoffers : next.offers = store.offers) : next.Guarded :=
  ⟨hguarded.1.congr hfences, hguarded.2.congr hoffers⟩

/-! ## One task -/

theorem Fenced.setTask (hfenced : store.Fenced) (id : Nat) (task : ActionTask)
    (htask : task.Fenced store.serviceAuthorityEpoch store.idleCleanupPreviewGeneration
      store.capacitySheet.isSome)
    (hasking : task.Asking → store.setupPhase = .previewing ∧
      ∀ sent, task.stage = .sent sent → sent = store.serviceAuthorityEpoch)
    (hsettled : store.setupPhase = .awaitingConfirmation →
      ∀ generation stopGeneration confirmed, task.running = true →
        task.job = .guidedSetup generation stopGeneration confirmed →
          generation ≠ store.setupGeneration) :
    (store.setTask id task).Fenced := by
  have hself : (store.setTask id task).tasks id = task := Function.update_self _ _ _
  have hother : ∀ other, other ≠ id → (store.setTask id task).tasks other = store.tasks other :=
    fun other hne => Function.update_of_ne hne _ _
  constructor
  · intro other
    by_cases hne : other = id
    · rw [hne, hself]
      exact htask
    · rw [hother other hne]
      exact hfenced.tasks other
  · intro other
    by_cases hne : other = id
    · rw [hne, hself]
      exact hasking
    · rw [hother other hne]
      exact hfenced.asking other
  · intro hphase other
    by_cases hne : other = id
    · rw [hne, hself]
      exact hsettled hphase
    · rw [hother other hne]
      exact hfenced.settled hphase other

/-- A task that is no setup changes its stage. -/
theorem Fenced.setStage (hfenced : store.Fenced) {id : Nat} {stage : Stage}
    (hjob : ∀ generation stopGeneration confirmed,
      (store.tasks id).job ≠ .guidedSetup generation stopGeneration confirmed)
    (htask : { store.tasks id with stage }.Fenced store.serviceAuthorityEpoch
      store.idleCleanupPreviewGeneration store.capacitySheet.isSome) :
    (store.setStage id stage).Fenced := by
  apply hfenced.setTask id _ htask
  · intro hasking
    exact absurd hasking (ActionTask.not_asking_of_job hjob)
  · intro _ generation stopGeneration confirmed _ hsetup
    exact absurd hsetup (hjob generation stopGeneration confirmed)

theorem Fenced.spawn (hfenced : store.Fenced) {job : Job}
    (hjob : ∀ generation stopGeneration confirmed,
      job ≠ .guidedSetup generation stopGeneration confirmed)
    (htask : ActionTask.Fenced { job, stage := .queued } store.serviceAuthorityEpoch
      store.idleCleanupPreviewGeneration store.capacitySheet.isSome) :
    (store.spawn job).Fenced := by
  have hset : (store.setTask store.nextTask { job, stage := .queued }).Fenced := by
    apply hfenced.setTask _ _ htask
    · intro hasking
      exact absurd hasking (ActionTask.not_asking_of_job hjob)
    · intro _ generation stopGeneration confirmed _ hsetup
      exact absurd hsetup (hjob generation stopGeneration confirmed)
  exact hset.congr rfl

/-- A setup run goes on to a stage in which it does not ask. -/
theorem Fenced.setupStage (hfenced : store.Fenced) {id : Nat} {stage : Stage}
    (hrunning : (store.tasks id).running = true) (hqueued : stage ≠ .queued)
    (hsent : ∀ sent, stage ≠ .sent sent) : (store.setStage id stage).Fenced := by
  apply hfenced.setTask id _ ((hfenced.tasks id).unsent hsent)
  · intro hasking
    exact absurd hasking (ActionTask.not_asking hqueued hsent)
  · intro hphase generation stopGeneration confirmed _ hjob
    exact hfenced.settled hphase id generation stopGeneration confirmed hrunning hjob

/-- No run asks, and no plan awaits its confirmation. -/
theorem fenced_of_silent
    (htasks : ∀ id, (next.tasks id).Fenced next.serviceAuthorityEpoch
      next.idleCleanupPreviewGeneration next.capacitySheet.isSome)
    (hsilent : ∀ id, ¬ (next.tasks id).Asking)
    (hphase : next.setupPhase ≠ .awaitingConfirmation) : next.Fenced :=
  ⟨htasks, fun id hasking => absurd hasking (hsilent id), fun hawaits => absurd hawaits hphase⟩

theorem Fresh.submit (hfresh : store.Fresh) (identifier : String) {received : Nat}
    {recovery : Bool}
    (hreceived : recovery = true ∨ received = store.serviceAuthorityEpoch) :
    (store.submit identifier received recovery).Fresh := by
  refine ⟨hfresh.cleanup, hfresh.preview, hfresh.override, hfresh.plan, ?_⟩
  intro submission hsubmission
  rcases List.mem_cons.mp hsubmission with rfl | hearlier
  · exact hreceived
  · exact hfresh.submitted submission hearlier

end

/-! ## Setup runs -/

section

variable {store : ActionStore} (hsound : store.work.Sound)

include hsound

/-- A run that asks is the one the store holds. -/
theorem held_of_asking {id : Nat} (hasking : (store.tasks id).Asking) :
    store.setupTask = some id :=
  hsound.uncancelled id hasking.running hasking.isSetup hasking.1

theorem asking_eq_of_current {id other stopGeneration : Nat}
    {confirmed : Option (Received SetupPlan)}
    (hjob : (store.tasks id).job = .guidedSetup store.setupGeneration stopGeneration confirmed)
    (hasking : (store.tasks other).Asking) : other = id := by
  obtain ⟨-, plan, hother⟩ := hsound.held other (held_of_asking hsound hasking)
  exact hsound.distinct other id _ _ _ _ _ hother hjob

theorem silent_cancelSetupTask (id : Nat) : ¬ (store.cancelSetupTask.tasks id).Asking := by
  unfold cancelSetupTask
  cases hheld : store.setupTask with
  | none =>
      intro hasking
      have hsome := held_of_asking hsound hasking
      rw [hheld] at hsome
      cases hsome
  | some held =>
      intro hasking
      by_cases hid : id = held
      · subst hid
        have hcancelled : ((store.setTask id { store.tasks id with cancelled := true }).tasks
            id).cancelled = true := by
          rw [show (store.setTask id { store.tasks id with cancelled := true }).tasks id =
            { store.tasks id with cancelled := true } from Function.update_self _ _ _]
        exact absurd (hasking.1.symm.trans hcancelled) Bool.false_ne_true
      · rw [show (store.setTask held { store.tasks held with cancelled := true }).tasks id =
          store.tasks id from Function.update_of_ne hid _ _] at hasking
        exact hid (Option.some.inj ((held_of_asking hsound hasking).symm.trans hheld))

end

theorem fenced_cancelSetupTask {store : ActionStore} {epoch previewGeneration : Nat}
    {sheetOpen : Bool}
    (htasks : ∀ id, (store.tasks id).Fenced epoch previewGeneration sheetOpen) (id : Nat) :
    (store.cancelSetupTask.tasks id).Fenced epoch previewGeneration sheetOpen := by
  unfold cancelSetupTask
  cases store.setupTask with
  | none => exact htasks id
  | some held =>
      by_cases hid : id = held
      · subst hid
        rw [show (store.setTask id { store.tasks id with cancelled := true }).tasks id =
          { store.tasks id with cancelled := true } from Function.update_self _ _ _]
        exact (htasks id).cancelled true
      · rw [show (store.setTask held { store.tasks held with cancelled := true }).tasks id =
          store.tasks id from Function.update_of_ne hid _ _]
        exact htasks id

end ActionStore

end SimulatorBroker.Actions
