import Mathlib.Data.List.Nodup
import SimulatorBroker.Dashboard.Refresh

/-!
# Every waiter hears of its refresh

The outcome of a generation is kept until a completion with more than twenty newer
generations begun.  In every run in which a superseded caller looks its successor up
before that, no continuation is stored for a generation that has completed.  That only
the newest refresh shows its result, and that a mutation succeeds only on a later
published refresh, needs no such condition.
-/

namespace SimulatorBroker.Dashboard

/-! ## What is asked -/

namespace RefreshCore

/-- The refresh of this generation has ended. -/
def Completed (core : RefreshCore) (generation : Nat) : Prop :=
  ∃ newest, (generation, newest) ∈ core.completions

instance (core : RefreshCore) (generation : Nat) : Decidable (core.Completed generation) :=
  decidable_of_iff (generation ∈ core.completions.map Prod.fst) (by simp [Completed])

end RefreshCore

/-- The turns of `refresh` itself. -/
def StoreEvent.OfRefresh : StoreEvent → Prop
  | .call _ | .loaded _ _ _ => True
  | _ => False

namespace DashboardStore

/-- The cached state or its authority is another one. -/
def Shows (store next : DashboardStore) : Prop :=
  next.loadedState ≠ store.loadedState ∨
  next.serviceStatusUnverified ≠ store.serviceStatusUnverified

/-- The refresh that ends in this event is the newest, in the current lifecycle. -/
def EndsNewest (store : DashboardStore) (event : StoreEvent) : Prop :=
  ∃ id fileExists result, event = .loaded id fileExists result ∧
    (store.tasks id).stage = .loading store.refreshGeneration store.storeStopGeneration

/-- The contract of the refreshes. -/
structure Orderly (store : DashboardStore) : Prop where
  newest : ∀ event next, store.step event = some next →
    store.Shows next ∨ event.OfRefresh ∧ next.lastErrorMessage ≠ store.lastErrorMessage →
      store.EndsNewest event
  once : store.resumes.Nodup
  resumed : ∀ waiter ∈ store.registered, waiter.waiterId ∈ store.resumes ↔
    store.Completed waiter.generation ∨ waiter.waiterId ∈ store.handled
  handled : ∀ waiter ∈ store.registered, waiter.waiterId ∈ store.handled →
    (store.tasks waiter.task).cancelled = true
  cancelled : ∀ waiter ∈ store.registered, (store.tasks waiter.task).cancelled = true →
    waiter.waiterId ∈ store.resumes ∨ waiter ∈ store.cancelJobs
  pending : ∀ waiter ∈ store.refreshOutcomeWaiters, ¬ store.Completed waiter.generation
  succeeded : ∀ id, (store.tasks id).stage = .ended .succeeded →
    ∃ generation ∈ store.published, (store.tasks id).floor < generation

/-! ## The condition -/

/-- A caller that looks a completed generation up does so before a refresh completes with
more than twenty newer generations begun. -/
def Prompt (store : DashboardStore) : StoreEvent → Prop
  | .look id => ∀ generation, (store.tasks id).stage = .looking generation →
      (store.tasks id).cancelled = false → store.Completed generation →
        ∀ completion ∈ store.completions, completion.2 ≤ generation + 20
  | _ => True

instance (store : DashboardStore) : (event : StoreEvent) → Decidable (store.Prompt event)
  | .look id =>
      match hstage : (store.tasks id).stage with
      | .looking generation =>
          decidable_of_iff ((store.tasks id).cancelled = false → store.Completed generation →
            ∀ completion ∈ store.completions, completion.2 ≤ generation + 20)
            (by simp [Prompt, hstage])
      | .absent | .queued | .operating | .calling | .loading _ _ | .returned _ | .waiting _ _
      | .sleeping | .ended _ => isTrue (by simp [Prompt, hstage])
  | .start | .stop | .refreshNow | .mutate _ | .requestSetup | .confirmSetup | .cancelSetup
  | .cancel _ | .beginTask _ | .commandFinished _ _ | .call _ | .loaded _ _ _ | .proceed _
  | .wake _ _ | .runCancelJob _ => isTrue trivial

inductive PromptRun : DashboardStore → List StoreEvent → DashboardStore → Prop where
  | nil (store : DashboardStore) : PromptRun store [] store
  | cons {store middle last : DashboardStore} {event : StoreEvent} {events : List StoreEvent}
      (prompt : store.Prompt event) (happens : store.step event = some middle)
      (rest : PromptRun middle events last) : PromptRun store (event :: events) last

end DashboardStore

/-! ## The newest refresh -/

namespace DashboardStore

variable {store next : DashboardStore} {id generation : Nat}

/-- The cached state is left alone. -/
def Same (store next : DashboardStore) : Prop :=
  next.loadedState = store.loadedState ∧
  next.serviceStatusUnverified = store.serviceStatusUnverified

theorem Same.refl (store : DashboardStore) : store.Same store := ⟨rfl, rfl⟩

theorem Same.trans {first second third : DashboardStore} (hfirst : first.Same second)
    (hsecond : second.Same third) : first.Same third :=
  ⟨hsecond.1.trans hfirst.1, hsecond.2.trans hfirst.2⟩

theorem Same.not_shows (hsame : store.Same next) : ¬ store.Shows next :=
  not_or.mpr ⟨not_not.mpr hsame.1, not_not.mpr hsame.2⟩

theorem same_cancel : store.Same (store.cancel id) := by
  simp only [cancel]
  split
  · exact .refl store
  · split
    · exact ⟨rfl, rfl⟩
    · exact ⟨rfl, rfl⟩

theorem same_cancelAll (store : DashboardStore) (ids : List Nat) : store.Same (store.cancelAll ids) := by
  induction ids generalizing store with
  | nil => exact .refl store
  | cons id ids ih => exact same_cancel.trans (ih _)

theorem same_finish (result : TaskResult) : store.Same (store.finish id result) := by
  simp only [finish]
  split
  · split
    · exact ⟨rfl, rfl⟩
    · exact ⟨rfl, rfl⟩
  · exact ⟨rfl, rfl⟩

theorem same_abandon : store.Same (store.abandon id) := by
  simp only [abandon]
  split
  · simp only [refreshAfterSetupCancellation]
    split
    · exact same_finish _
    · exact same_finish _
  · exact same_finish _

theorem same_fail (message : String) : store.Same (store.fail id message) := by
  simp only [fail]
  split
  · split
    · exact same_finish _
    · exact ⟨rfl, rfl⟩
  · exact ⟨rfl, rfl⟩
  · exact same_finish .failed

theorem same_succeed : store.Same (store.succeed id) := by
  simp only [succeed]
  split
  · split
    · exact same_finish .succeeded
    · exact same_fail _
  · exact same_finish .succeeded

theorem same_follow (outcome : RefreshOutcome) : store.Same (store.follow id outcome) := by
  simp only [follow]
  split
  · exact same_abandon
  · cases outcome with
    | discarded => exact same_abandon
    | failed message => exact same_fail message
    | succeeded => exact same_succeed
    | superseded generation =>
        simp only
        split
        · exact same_fail _
        · exact ⟨rfl, rfl⟩

theorem same_proceed (hnext : store.proceed id = some next) : store.Same next := by
  simp only [proceed] at hnext
  split at hnext
  · split at hnext
    · cases hnext
      split
      · exact same_finish _
      · exact ⟨rfl, rfl⟩
    · cases hnext
      exact same_finish _
    · cases hnext
      exact same_finish _
    · cases hnext
      simp only [concludeSetup]
      split
      · exact same_finish .failed
      · exact same_finish .failed
    · cases hnext
      exact same_follow _
    · cases hnext
      exact same_follow _
  · cases hnext

theorem same_beginRefresh :
    store.Same (store.beginRefresh id) ∧
      (store.beginRefresh id).lastErrorMessage = store.lastErrorMessage := by
  simp only [beginRefresh]
  split
  · exact ⟨⟨rfl, rfl⟩, rfl⟩
  · split
    · exact ⟨⟨rfl, rfl⟩, rfl⟩
    · split
      · exact ⟨⟨rfl, rfl⟩, rfl⟩
      · exact ⟨⟨rfl, rfl⟩, rfl⟩

/-- Only the newest refresh of the current lifecycle gets as far as `publish`. -/
theorem finishRefresh_cases (store : DashboardStore) (id generation lifecycle : Nat) (fileExists : Bool) (result : LoadResult) :
    (∃ outcome, store.finishRefresh id generation lifecycle fileExists result = (store, outcome) ∧
      (outcome = .discarded ∨ outcome = .superseded store.refreshGeneration)) ∨
    generation = store.refreshGeneration ∧ lifecycle = store.storeStopGeneration ∧
      store.finishRefresh id generation lifecycle fileExists result =
        store.publish id generation fileExists result := by
  by_cases hlifecycle : lifecycle = store.storeStopGeneration
  · by_cases hsetup :
        (store.tasks id).purpose.expectedSetupGeneration.any (· ≠ store.setupGeneration) = true
    · refine Or.inl ⟨.discarded, ?_, Or.inl rfl⟩
      simp only [finishRefresh, hlifecycle, ne_eq, not_true_eq_false, if_false]
      exact if_pos hsetup
    · by_cases hnewest : generation = store.refreshGeneration
      · refine Or.inr ⟨hnewest, hlifecycle, ?_⟩
        simp only [finishRefresh, hlifecycle, hnewest, ne_eq, not_true_eq_false, if_false]
        exact if_neg hsetup
      · refine Or.inl ⟨.superseded store.refreshGeneration, ?_, Or.inr rfl⟩
        simp only [finishRefresh, hlifecycle, hnewest, ne_eq, not_true_eq_false, if_false,
          not_false_eq_true, if_true]
        exact if_neg hsetup
  · exact Or.inl ⟨.discarded, if_pos hlifecycle, Or.inl rfl⟩

theorem endsNewest_of_loaded {fileExists : Bool} {result : LoadResult}
    (hnext : store.loaded id fileExists result = some next) :
    store.EndsNewest (.loaded id fileExists result) ∨
      store.Same next ∧ next.lastErrorMessage = store.lastErrorMessage := by
  simp only [loaded] at hnext
  split at hnext
  · next generation lifecycle hstage =>
    cases hnext
    rcases finishRefresh_cases store id generation lifecycle
      fileExists result with ⟨outcome, hfinish, -⟩ | ⟨hnewest, hlifecycle, -⟩
    · rw [hfinish]
      exact Or.inr ⟨⟨rfl, rfl⟩, rfl⟩
    · rw [hnewest, hlifecycle] at hstage
      exact Or.inl ⟨id, fileExists, result, rfl, hstage⟩
  · cases hnext

theorem same_refreshOutcome : store.Same (store.refreshOutcome id generation) := by
  simp only [refreshOutcome]
  split
  · exact ⟨rfl, rfl⟩
  · split
    · exact ⟨rfl, rfl⟩
    · exact ⟨rfl, rfl⟩

theorem same_commandFinished (result : CommandResult) :
    store.Same (store.commandFinished id result) := by
  cases result with
  | succeeded =>
      simp only [commandFinished]
      split
      · exact same_abandon
      · exact ⟨rfl, rfl⟩
  | cancelled => exact same_abandon
  | unconfirmed => exact same_finish _
  | failed message =>
      simp only [commandFinished]
      split
      · exact same_fail message
      · exact same_finish .failed

/-- What is shown changes, or a refresh sets the message, only at the end of the newest
refresh. -/
theorem endsNewest_of_step {event : StoreEvent} (hnext : store.step event = some next) :
    store.EndsNewest event ∨
      store.Same next ∧ (event.OfRefresh → next.lastErrorMessage = store.lastErrorMessage) := by
  have hother (hsame : store.Same next) (hnot : ¬ event.OfRefresh) : store.EndsNewest event ∨
      store.Same next ∧ (event.OfRefresh → next.lastErrorMessage = store.lastErrorMessage) :=
    Or.inr ⟨hsame, fun hrefresh => absurd hrefresh hnot⟩
  cases event with
  | start =>
      cases hnext
      refine hother ?_ id
      simp only [start]
      split
      · exact ⟨rfl, rfl⟩
      · exact .refl store
  | stop =>
      cases hnext
      exact hother (same_cancelAll store _) id
  | refreshNow =>
      cases hnext
      exact hother ⟨rfl, rfl⟩ id
  | mutate retry =>
      simp only [step, Option.ite_none_right_eq_some, Option.some.injEq] at hnext
      obtain ⟨-, rfl⟩ := hnext
      exact hother ⟨rfl, rfl⟩ id
  | requestSetup =>
      simp only [step, Option.ite_none_left_eq_some, Option.some.injEq] at hnext
      obtain ⟨-, rfl⟩ := hnext
      exact hother (same_cancelAll store _) id
  | confirmSetup =>
      simp only [step, Option.ite_none_left_eq_some, Option.some.injEq] at hnext
      obtain ⟨-, rfl⟩ := hnext
      exact hother (same_cancelAll store _) id
  | cancelSetup =>
      cases hnext
      exact hother (same_cancelAll store _) id
  | cancel task =>
      cases hnext
      exact hother same_cancel id
  | beginTask task =>
      simp only [step, Option.ite_none_right_eq_some, Option.some.injEq] at hnext
      obtain ⟨-, rfl⟩ := hnext
      refine hother ?_ id
      simp only [beginTask]
      split
      · split
        · exact ⟨rfl, rfl⟩
        · exact same_abandon
      · exact ⟨rfl, rfl⟩
  | commandFinished task result =>
      simp only [step, Option.ite_none_right_eq_some, Option.some.injEq] at hnext
      obtain ⟨-, rfl⟩ := hnext
      exact hother (same_commandFinished result) id
  | call task =>
      simp only [step, Option.ite_none_right_eq_some, Option.some.injEq] at hnext
      obtain ⟨-, rfl⟩ := hnext
      exact Or.inr ⟨same_beginRefresh.1, fun _ => same_beginRefresh.2⟩
  | loaded task fileExists result =>
      rcases endsNewest_of_loaded hnext with hnewest | ⟨hsame, hmessage⟩
      · exact Or.inl hnewest
      · exact Or.inr ⟨hsame, fun _ => hmessage⟩
  | proceed task => exact hother (same_proceed hnext) id
  | look task =>
      simp only [step] at hnext
      split at hnext
      · cases hnext
        exact hother same_refreshOutcome id
      · cases hnext
  | wake task applying =>
      simp only [step, Option.ite_none_right_eq_some, Option.some.injEq] at hnext
      obtain ⟨-, rfl⟩ := hnext
      refine hother ?_ id
      split
      · exact same_finish _
      · split
        · exact .refl store
        · exact ⟨rfl, rfl⟩
  | runCancelJob waiter =>
      simp only [step, Option.ite_none_right_eq_some, Option.some.injEq] at hnext
      obtain ⟨-, rfl⟩ := hnext
      exact hother ⟨rfl, rfl⟩ id

end DashboardStore

/-! ## Generations and the outcomes that are kept -/

/-- What an outcome promises a mutation whose command finished at this generation. -/
def RefreshOutcome.Supported (published : List Nat) (floor : Nat) : RefreshOutcome → Prop
  | .succeeded => ∃ generation ∈ published, floor < generation
  | .superseded generation => floor < generation
  | _ => True

theorem RefreshOutcome.Supported.mono {published later : List Nat} {floor : Nat}
    {outcome : RefreshOutcome} (hgrows : published ⊆ later)
    (hsupported : outcome.Supported published floor) : outcome.Supported later floor := by
  cases outcome with
  | succeeded =>
      obtain ⟨generation, hmem, hfloor⟩ := hsupported
      exact ⟨generation, hgrows hmem, hfloor⟩
  | superseded generation => exact hsupported
  | discarded => trivial
  | failed message => trivial

/-- The stage of a task is ahead of the generations before its command's end. -/
def Stage.Supported (published : List Nat) (newest floor : Nat) : Stage → Prop
  | .loading generation _ => floor < generation ∧ generation ≤ newest
  | .returned outcome => outcome.Supported published floor
  | .looking generation | .waiting generation _ => floor < generation
  | .ended .succeeded => ∃ generation ∈ published, floor < generation
  | _ => True

theorem Stage.Supported.mono {published later : List Nat} {newest newer floor : Nat}
    {stage : Stage} (hgrows : published ⊆ later) (hnewer : newest ≤ newer)
    (hsupported : stage.Supported published newest floor) :
    stage.Supported later newer floor := by
  cases stage with
  | loading generation lifecycle => exact ⟨hsupported.1, Nat.le_trans hsupported.2 hnewer⟩
  | returned outcome => exact RefreshOutcome.Supported.mono hgrows hsupported
  | looking generation => exact hsupported
  | waiting generation waiterId => exact hsupported
  | ended result =>
      cases result with
      | succeeded =>
          obtain ⟨generation, hmem, hfloor⟩ := hsupported
          exact ⟨generation, hgrows hmem, hfloor⟩
      | _ => trivial
  | _ => trivial

/-- What the generations, the kept outcomes and the tasks say about each other. -/
structure RefreshCore.Advances (core : RefreshCore) : Prop where
  floors : ∀ id, (core.tasks id).floor ≤ core.refreshGeneration
  stages : ∀ id, (core.tasks id).stage.Supported core.published core.refreshGeneration
    (core.tasks id).floor
  outcomes : ∀ generation outcome, core.completedRefreshOutcomes generation = some outcome →
    ∀ floor < generation, outcome.Supported core.published floor
  kept : ∀ generation, core.Completed generation →
    (∃ completion ∈ core.completions, generation + 20 < completion.2) ∨
    core.completedRefreshOutcomes generation ≠ none

/-! ## Waiters -/

/-- Begun, and not suspended in `refreshOutcome`. -/
def Stage.Active : Stage → Prop
  | .absent | .waiting _ _ => False
  | _ => True

/-- What the stored continuations, the tasks and the records of them say about each
other. -/
structure RefreshCore.Waits (core : RefreshCore) : Prop where
  present : ∀ id, (core.tasks id).stage ≠ .absent → id < core.nextTask
  suspended : ∀ waiter ∈ core.refreshOutcomeWaiters,
    (core.tasks waiter.task).stage = .waiting waiter.generation waiter.waiterId
  stored : ∀ id generation waiterId, (core.tasks id).stage = .waiting generation waiterId →
    ⟨generation, waiterId, id⟩ ∈ core.refreshOutcomeWaiters
  known : ∀ waiter ∈ core.refreshOutcomeWaiters, waiter ∈ core.registered
  single : core.refreshOutcomeWaiters.Nodup
  fresh : ∀ waiter ∈ core.registered,
    waiter.waiterId < core.nextWaiter ∧ waiter.task < core.nextTask
  distinct : ∀ first ∈ core.registered, ∀ second ∈ core.registered,
    first.waiterId = second.waiterId → first = second
  once : core.resumes.Nodup
  numbered : ∀ waiterId, waiterId ∈ core.resumes ∨ waiterId ∈ core.handled →
    waiterId < core.nextWaiter
  resumed : ∀ waiter ∈ core.registered,
    waiter.waiterId ∈ core.resumes ↔ waiter ∉ core.refreshOutcomeWaiters
  told : ∀ waiter ∈ core.registered, waiter ∉ core.refreshOutcomeWaiters ↔
    core.Completed waiter.generation ∨ waiter.waiterId ∈ core.handled
  handled : ∀ waiter ∈ core.registered, waiter.waiterId ∈ core.handled →
    (core.tasks waiter.task).cancelled = true
  jobs : ∀ waiter ∈ core.cancelJobs,
    waiter ∈ core.registered ∧ (core.tasks waiter.task).cancelled = true
  cancelling : ∀ waiter ∈ core.refreshOutcomeWaiters,
    (core.tasks waiter.task).cancelled = true → waiter ∈ core.cancelJobs

theorem Stage.Active.not_absent {stage : Stage} (hactive : stage.Active) : stage ≠ .absent := by
  rintro rfl
  exact hactive

theorem Stage.Active.not_waiting {stage : Stage} (hactive : stage.Active)
    (generation waiterId : Nat) : stage ≠ .waiting generation waiterId := by
  rintro rfl
  exact hactive

namespace RefreshCore

variable {core : RefreshCore}

/-- A turn that stores and resumes no continuation and cancels nothing. -/
theorem Waits.of_tasks (hwaits : core.Waits) {tasks : Nat → RefreshTask} {nextTask : Nat}
    (refreshGeneration : Nat) (published : List Nat)
    (completed : Nat → Option RefreshOutcome) (hnext : core.nextTask ≤ nextTask)
    (hpresent : ∀ id, (tasks id).stage ≠ .absent → id < nextTask)
    (hwaiting : ∀ id generation waiterId, (tasks id).stage = .waiting generation waiterId ↔
      (core.tasks id).stage = .waiting generation waiterId)
    (hcancelled : ∀ id < core.nextTask, (tasks id).cancelled = (core.tasks id).cancelled) :
    { core with
      tasks, nextTask, refreshGeneration, published,
      completedRefreshOutcomes := completed : RefreshCore }.Waits where
  present := hpresent
  suspended := fun waiter hwaiter => (hwaiting _ _ _).mpr (hwaits.suspended waiter hwaiter)
  stored := fun id generation waiterId hstage =>
    hwaits.stored id generation waiterId ((hwaiting _ _ _).mp hstage)
  known := hwaits.known
  single := hwaits.single
  fresh := fun waiter hwaiter =>
    ⟨(hwaits.fresh waiter hwaiter).1, Nat.lt_of_lt_of_le (hwaits.fresh waiter hwaiter).2 hnext⟩
  distinct := hwaits.distinct
  once := hwaits.once
  numbered := hwaits.numbered
  resumed := hwaits.resumed
  told := hwaits.told
  handled := fun waiter hwaiter hhandled =>
    (hcancelled _ (hwaits.fresh waiter hwaiter).2).trans (hwaits.handled waiter hwaiter hhandled)
  jobs := fun waiter hwaiter =>
    have ⟨hknown, hown⟩ := hwaits.jobs waiter hwaiter
    ⟨hknown, (hcancelled _ (hwaits.fresh waiter hknown).2).trans hown⟩
  cancelling := fun waiter hwaiter hown =>
    hwaits.cancelling waiter hwaiter
      ((hcancelled _ (hwaits.fresh waiter (hwaits.known waiter hwaiter)).2).symm.trans hown)

end RefreshCore

/-- What holds of the store at every turn of a prompt run. -/
def DashboardStore.Sound (store : DashboardStore) : Prop :=
  store.toRefreshCore.Advances ∧ store.toRefreshCore.Waits

namespace DashboardStore

variable {store next : DashboardStore} {id generation : Nat}

/-- A property of every task after a change of one. -/
theorem forall_setTask (task : RefreshTask) (p : Nat → RefreshTask → Prop) (hown : p id task)
    (hrest : ∀ other, p other (store.tasks other)) (other : Nat) :
    p other ((store.setTask id task).tasks other) := by
  by_cases hne : other = id
  · rw [hne, setTask_self]
    exact hown
  · rw [setTask_of_ne store hne]
    exact hrest other

/-- Another stage of an active task. -/
theorem Sound.setTask (hsound : store.Sound) {task : RefreshTask}
    (hactive : (store.tasks id).stage.Active) (hstage : task.stage.Active)
    (hcancelled : task.cancelled = (store.tasks id).cancelled)
    (hfloor : task.floor ≤ store.refreshGeneration)
    (hsupported : task.stage.Supported store.published store.refreshGeneration task.floor) :
    (store.setTask id task).Sound := by
  obtain ⟨hadvances, hwaits⟩ := hsound
  constructor
  · constructor
    · exact forall_setTask _ (fun _ task => task.floor ≤ store.refreshGeneration) hfloor hadvances.floors
    · exact forall_setTask _
        (fun _ task => task.stage.Supported store.published store.refreshGeneration task.floor)
        hsupported hadvances.stages
    · exact hadvances.outcomes
    · exact hadvances.kept
  · refine hwaits.of_tasks _ _ _ (Nat.le_refl _) ?_ ?_ ?_
    · exact forall_setTask _ (fun other task => task.stage ≠ .absent → other < store.nextTask)
        (fun _ => hwaits.present id hactive.not_absent) hwaits.present
    · intro other generation waiterId
      by_cases hne : other = id
      · rw [hne, Function.update_self]
        exact iff_of_false (hstage.not_waiting _ _) (hactive.not_waiting _ _)
      · rw [Function.update_of_ne hne]
    · intro other _
      by_cases hne : other = id
      · rw [hne, Function.update_self]
        exact hcancelled
      · rw [Function.update_of_ne hne]

theorem Sound.setStage (hsound : store.Sound) {stage : Stage}
    (hactive : (store.tasks id).stage.Active) (hstage : stage.Active)
    (hsupported : stage.Supported store.published store.refreshGeneration (store.tasks id).floor) :
    (store.setStage id stage).Sound :=
  hsound.setTask hactive hstage rfl (hsound.1.floors id) hsupported

theorem Sound.spawn (hsound : store.Sound) (purpose : Purpose) {stage : Stage}
    (hstage : stage = .queued ∨ stage = .operating) : (store.spawn purpose stage).Sound := by
  obtain ⟨hadvances, hwaits⟩ := hsound
  have hactive : stage.Active := by
    rcases hstage with rfl | rfl
    · trivial
    · trivial
  have hsupported : stage.Supported store.published store.refreshGeneration 0 := by
    rcases hstage with rfl | rfl
    · trivial
    · trivial
  have hunborn (generation waiterId : Nat) :
      (store.tasks store.nextTask).stage ≠ .waiting generation waiterId := by
    intro hwaiting
    have hpresent := hwaits.present store.nextTask (by rw [hwaiting]; simp)
    exact Nat.lt_irrefl _ hpresent
  constructor
  · constructor
    · intro other
      by_cases hne : other = store.nextTask
      · rw [hne]
        simp [DashboardStore.spawn, DashboardStore.setTask]
      · simpa [DashboardStore.spawn, DashboardStore.setTask, hne] using hadvances.floors other
    · intro other
      by_cases hne : other = store.nextTask
      · rw [hne]
        simpa [DashboardStore.spawn, DashboardStore.setTask] using hsupported
      · simpa [DashboardStore.spawn, DashboardStore.setTask, hne] using hadvances.stages other
    · exact hadvances.outcomes
    · exact hadvances.kept
  · refine hwaits.of_tasks _ _ _ (Nat.le_succ _) ?_ ?_ ?_
    · intro other hother
      by_cases hne : other = store.nextTask
      · rw [hne]
        exact Nat.lt_succ_self _
      · rw [setTask_of_ne store hne] at hother
        exact Nat.lt_succ_of_lt (hwaits.present other hother)
    · intro other generation waiterId
      by_cases hne : other = store.nextTask
      · rw [hne, setTask_self]
        exact iff_of_false (hactive.not_waiting _ _) (hunborn _ _)
      · rw [setTask_of_ne store hne]
    · intro other hother
      rw [setTask_of_ne store (Nat.ne_of_lt hother)]

theorem Sound.finish (hsound : store.Sound) {result : TaskResult}
    (hactive : (store.tasks id).stage.Active)
    (hresult : result = .succeeded →
      ∃ generation ∈ store.published, (store.tasks id).floor < generation) :
    (store.finish id result).Sound := by
  have hended : (store.setStage id (.ended result)).Sound := by
    refine hsound.setStage hactive trivial ?_
    cases result with
    | succeeded => exact hresult rfl
    | _ => trivial
  simp only [DashboardStore.finish]
  split
  · split
    · exact hended
    · exact hended
  · exact hended

theorem Sound.abandon (hsound : store.Sound) (hactive : (store.tasks id).stage.Active) :
    (store.abandon id).Sound := by
  have hended : (store.finish id .cancelled).Sound := hsound.finish hactive (by rintro ⟨⟩)
  simp only [DashboardStore.abandon]
  split
  · simp only [refreshAfterSetupCancellation]
    split
    · exact hended.spawn _ (Or.inl rfl)
    · exact hended
  · exact hended

theorem Sound.fail (hsound : store.Sound) (hactive : (store.tasks id).stage.Active)
    (message : String) : (store.fail id message).Sound := by
  have hcalling {task : RefreshTask} (hstage : task.stage = .calling)
      (hcancelled : task.cancelled = (store.tasks id).cancelled)
      (hfloor : task.floor = (store.tasks id).floor) : (store.setTask id task).Sound := by
    refine hsound.setTask hactive ?_ hcancelled (hfloor ▸ hsound.1.floors id) ?_
    · rw [hstage]
      trivial
    · rw [hstage]
      trivial
  simp only [DashboardStore.fail]
  split
  · split
    · exact hsound.finish hactive (by rintro ⟨⟩)
    · exact hcalling rfl rfl rfl
  · exact hcalling rfl rfl rfl
  · have hfailed : (store.finish id .failed).Sound := hsound.finish hactive (by rintro ⟨⟩)
    exact hfailed

theorem Sound.succeed (hsound : store.Sound) (hactive : (store.tasks id).stage.Active)
    (hpublished : ∃ generation ∈ store.published, (store.tasks id).floor < generation) :
    (store.succeed id).Sound := by
  have hended : (store.finish id .succeeded).Sound := hsound.finish hactive fun _ => hpublished
  simp only [DashboardStore.succeed]
  split
  · split
    · exact hended
    · exact hsound.fail hactive _
  · exact hended

theorem Sound.follow (hsound : store.Sound) (hactive : (store.tasks id).stage.Active)
    {outcome : RefreshOutcome}
    (houtcome : outcome.Supported store.published (store.tasks id).floor) :
    (store.follow id outcome).Sound := by
  simp only [DashboardStore.follow]
  split
  · exact hsound.abandon hactive
  · cases outcome with
    | discarded => exact hsound.abandon hactive
    | failed message => exact hsound.fail hactive message
    | succeeded => exact hsound.succeed hactive houtcome
    | superseded generation =>
        simp only
        split
        · exact hsound.fail hactive _
        · exact hsound.setTask hactive trivial rfl (hsound.1.floors id) houtcome

theorem Sound.proceed (hsound : store.Sound) (hnext : store.proceed id = some next) :
    next.Sound := by
  simp only [DashboardStore.proceed] at hnext
  split at hnext
  · next outcome hstage =>
    have hactive : (store.tasks id).stage.Active := by
      rw [hstage]
      trivial
    have houtcome : outcome.Supported store.published (store.tasks id).floor := by
      have hsupported := hsound.1.stages id
      rw [hstage] at hsupported
      exact hsupported
    have hdone : (store.finish id .done).Sound := hsound.finish hactive (by rintro ⟨⟩)
    have hfailed : (store.finish id .failed).Sound := hsound.finish hactive (by rintro ⟨⟩)
    split at hnext
    · cases hnext
      split
      · exact hdone
      · exact hsound.setStage hactive trivial trivial
    · cases hnext
      exact hdone
    · cases hnext
      exact hdone
    · cases hnext
      simp only [concludeSetup]
      split
      · exact hfailed
      · exact hfailed
    · cases hnext
      exact hsound.follow hactive houtcome
    · cases hnext
      exact hsound.follow hactive houtcome
  · cases hnext

theorem Sound.beginTask (hsound : store.Sound) (hactive : (store.tasks id).stage.Active) :
    (store.beginTask id).Sound := by
  simp only [DashboardStore.beginTask]
  split
  · split
    · exact hsound.setStage hactive trivial trivial
    · exact hsound.abandon hactive
  · exact hsound.setStage hactive trivial trivial

theorem Sound.commandFinished (hsound : store.Sound) (hactive : (store.tasks id).stage.Active)
    (result : CommandResult) : (store.commandFinished id result).Sound := by
  have hfailed : (store.finish id .failed).Sound := hsound.finish hactive (by rintro ⟨⟩)
  cases result with
  | succeeded =>
      simp only [DashboardStore.commandFinished]
      split
      · exact hsound.abandon hactive
      · exact hsound.setTask hactive trivial rfl (Nat.le_refl _) trivial
  | cancelled => exact hsound.abandon hactive
  | unconfirmed => exact hfailed
  | failed message =>
      simp only [DashboardStore.commandFinished]
      split
      · exact hsound.fail hactive message
      · exact hfailed

/-- A refresh that begins takes a generation after everything that has finished. -/
theorem Sound.beginRefresh (hsound : store.Sound) (hactive : (store.tasks id).stage.Active) :
    (store.beginRefresh id).Sound := by
  have hdiscarded : (store.setStage id (.returned .discarded)).Sound :=
    hsound.setStage hactive trivial trivial
  simp only [DashboardStore.beginRefresh]
  split
  · exact hdiscarded
  · split
    · exact hdiscarded
    · split
      · exact hdiscarded
      · have hgrown :
            { store with refreshGeneration := store.refreshGeneration + 1 : DashboardStore }.Sound := by
          obtain ⟨hadvances, hwaits⟩ := hsound
          constructor
          · constructor
            · exact fun other => Nat.le_succ_of_le (hadvances.floors other)
            · exact fun other => (hadvances.stages other).mono (fun _ h => h) (Nat.le_succ _)
            · exact hadvances.outcomes
            · exact hadvances.kept
          · exact hwaits.of_tasks _ _ _ (Nat.le_refl _) hwaits.present (fun _ _ _ => Iff.rfl)
              fun _ _ => rfl
        exact hgrown.setStage hactive trivial
          ⟨Nat.lt_succ_of_le (hsound.1.floors id), Nat.le_refl _⟩

/-! ## Cancellation -/

theorem cancelled_setTask (other : Nat) :
    ((store.setTask id { store.tasks id with cancelled := true }).tasks other).cancelled = true ↔
      other = id ∨ (store.tasks other).cancelled = true := by
  by_cases hne : other = id
  · rw [hne, setTask_self]
    simp
  · rw [setTask_of_ne store hne]
    simp [hne]

/-- Marking a task as cancelled, with the job of a waiting one. -/
theorem Sound.mark (hsound : store.Sound) (jobs : List Waiter)
    (hjobs : ∀ waiter ∈ jobs, waiter ∈ store.registered ∧
      (waiter.task = id ∨ (store.tasks waiter.task).cancelled = true))
    (hkeeps : store.cancelJobs ⊆ jobs)
    (hown : ∀ waiter ∈ store.refreshOutcomeWaiters, waiter.task = id → waiter ∈ jobs) :
    { store.setTask id { store.tasks id with cancelled := true } with
      cancelJobs := jobs : DashboardStore }.Sound := by
  obtain ⟨hadvances, hwaits⟩ := hsound
  have hstage (other : Nat) :
      ((store.setTask id { store.tasks id with cancelled := true }).tasks other).stage =
        (store.tasks other).stage ∧
      ((store.setTask id { store.tasks id with cancelled := true }).tasks other).floor =
        (store.tasks other).floor := by
    by_cases hne : other = id
    · rw [hne, setTask_self]
      exact ⟨rfl, rfl⟩
    · rw [setTask_of_ne store hne]
      exact ⟨rfl, rfl⟩
  constructor
  · constructor
    · intro other
      exact (hstage other).2 ▸ hadvances.floors other
    · intro other
      have hsupported := hadvances.stages other
      rw [← (hstage other).1, ← (hstage other).2] at hsupported
      exact hsupported
    · exact hadvances.outcomes
    · exact hadvances.kept
  · constructor
    · exact fun other hother => hwaits.present other ((hstage other).1 ▸ hother)
    · exact fun waiter hwaiter => (hstage _).1.trans (hwaits.suspended waiter hwaiter)
    · exact fun other generation waiterId hother =>
        hwaits.stored other generation waiterId ((hstage other).1 ▸ hother)
    · exact hwaits.known
    · exact hwaits.single
    · exact hwaits.fresh
    · exact hwaits.distinct
    · exact hwaits.once
    · exact hwaits.numbered
    · exact hwaits.resumed
    · exact hwaits.told
    · exact fun waiter hwaiter hhandled =>
        (cancelled_setTask _).mpr (Or.inr (hwaits.handled waiter hwaiter hhandled))
    · exact fun waiter hwaiter =>
        ⟨(hjobs waiter hwaiter).1, (cancelled_setTask _).mpr (hjobs waiter hwaiter).2⟩
    · intro waiter hwaiter hcancelled
      rcases (cancelled_setTask _).mp hcancelled with hself | hbefore
      · exact hown waiter hwaiter hself
      · exact hkeeps (hwaits.cancelling waiter hwaiter hbefore)

theorem Sound.cancel (hsound : store.Sound) : (store.cancel id).Sound := by
  have hjobs : ∀ waiter ∈ store.cancelJobs, waiter ∈ store.registered ∧
      (waiter.task = id ∨ (store.tasks waiter.task).cancelled = true) := fun waiter hwaiter =>
    ⟨(hsound.2.jobs waiter hwaiter).1, Or.inr (hsound.2.jobs waiter hwaiter).2⟩
  simp only [DashboardStore.cancel]
  split
  · exact hsound
  · split
    · next generation waiterId hstage =>
      have hstored := hsound.2.stored id generation waiterId hstage
      refine hsound.mark (⟨generation, waiterId, id⟩ :: store.cancelJobs) ?_
        (List.subset_cons_self _ _) ?_
      · intro waiter hwaiter
        rcases List.mem_cons.mp hwaiter with rfl | hbefore
        · exact ⟨hsound.2.known _ hstored, Or.inl rfl⟩
        · exact hjobs waiter hbefore
      · rintro ⟨generation', waiterId', task⟩ hwaiter rfl
        have hsame := (hsound.2.suspended _ hwaiter).symm.trans hstage
        cases hsame
        exact List.mem_cons_self
    · next hnot =>
      refine hsound.mark store.cancelJobs hjobs (fun _ h => h) ?_
      rintro waiter hwaiter rfl
      exact absurd (hsound.2.suspended waiter hwaiter) (hnot _ _)

theorem Sound.cancelAll (hsound : store.Sound) (ids : List Nat) :
    (store.cancelAll ids).Sound := by
  induction ids generalizing store with
  | nil => exact hsound
  | cons id ids ih => exact ih hsound.cancel

/-! ## Resuming -/

theorem stage_resumeWaiters (hwaits : store.Waits) (chosen : Waiter → Bool)
    (outcome : RefreshOutcome) (other : Nat) :
    (store.resumeWaiters chosen outcome).tasks other = store.tasks other ∨
    ∃ waiter ∈ store.refreshOutcomeWaiters, chosen waiter = true ∧ waiter.task = other ∧
      (store.tasks other).stage = .waiting waiter.generation waiter.waiterId ∧
      (store.resumeWaiters chosen outcome).tasks other =
        { store.tasks other with stage := .returned outcome } := by
  by_cases hany :
      (store.refreshOutcomeWaiters.filter chosen).any (fun waiter => waiter.task = other) = true
  · obtain ⟨waiter, hmem, htask⟩ := List.any_eq_true.mp hany
    obtain ⟨hwaiter, hchosen⟩ := List.mem_filter.mp hmem
    have htask : waiter.task = other := of_decide_eq_true htask
    refine Or.inr ⟨waiter, hwaiter, hchosen, htask, ?_, if_pos hany⟩
    rw [← htask]
    exact hwaits.suspended waiter hwaiter
  · exact Or.inl (if_neg hany)

/-- Two stored waiters of one task are the same. -/
theorem waiter_ext (hwaits : store.Waits) {first second : Waiter}
    (hfirst : first ∈ store.refreshOutcomeWaiters) (hsecond : second ∈ store.refreshOutcomeWaiters)
    (htask : first.task = second.task) : first = second := by
  have hstages := (hwaits.suspended first hfirst).symm.trans (htask ▸ hwaits.suspended second hsecond)
  obtain ⟨generation, waiterId, task⟩ := first
  obtain ⟨generation', waiterId', task'⟩ := second
  cases htask
  cases hstages
  rfl

theorem mem_filter_not {chosen : Waiter → Bool} {waiter : Waiter} {waiters : List Waiter} :
    waiter ∈ waiters.filter (!chosen ·) ↔ waiter ∈ waiters ∧ chosen waiter = false := by
  simp [List.mem_filter]

/-- The chosen waiters leave the table, each resumed once. -/
theorem Sound.resumeWaiters (hsound : store.Sound) (chosen : Waiter → Bool)
    {outcome : RefreshOutcome} (completed : Nat → Option RefreshOutcome)
    (completions : List (Nat × Nat)) (handled : List Nat) (cancelJobs : List Waiter)
    (hsupported : ∀ waiter ∈ store.refreshOutcomeWaiters, chosen waiter = true →
      outcome.Supported store.published (store.tasks waiter.task).floor)
    (houtcomes : ∀ generation outcome, completed generation = some outcome →
      ∀ floor < generation, outcome.Supported store.published floor)
    (hkept : ∀ generation newest, (generation, newest) ∈ completions →
      (∃ completion ∈ completions, generation + 20 < completion.2) ∨ completed generation ≠ none)
    (htold : ∀ waiter ∈ store.registered,
      waiter ∉ store.refreshOutcomeWaiters ∨ chosen waiter = true ↔
        (∃ newest, (waiter.generation, newest) ∈ completions) ∨ waiter.waiterId ∈ handled)
    (hnumbered : ∀ waiterId ∈ handled, waiterId < store.nextWaiter)
    (hhandled : ∀ waiter ∈ store.registered, waiter.waiterId ∈ handled →
      (store.tasks waiter.task).cancelled = true)
    (hjobs : cancelJobs ⊆ store.cancelJobs)
    (hcancelling : ∀ waiter ∈ store.cancelJobs, chosen waiter = false → waiter ∈ cancelJobs) :
    { store.resumeWaiters chosen outcome with
      completedRefreshOutcomes := completed
      completions, handled, cancelJobs : DashboardStore }.Sound := by
  obtain ⟨hadvances, hwaits⟩ := hsound
  have hgone (waiter : Waiter) (hknown : waiter ∈ store.registered) :
      waiter ∉ store.refreshOutcomeWaiters.filter (!chosen ·) ↔
        waiter ∉ store.refreshOutcomeWaiters ∨ chosen waiter = true := by
    rw [mem_filter_not]
    cases chosen waiter
    · simp
    · simp
  have hresumed (waiterId : Nat) :
      waiterId ∈ (store.resumeWaiters chosen outcome).resumes ↔ waiterId ∈ store.resumes ∨
        ∃ waiter ∈ store.refreshOutcomeWaiters, chosen waiter = true ∧
          waiter.waiterId = waiterId := by
    simp [DashboardStore.resumeWaiters, and_assoc]
  have hcancelled (other : Nat) :
      ((store.resumeWaiters chosen outcome).tasks other).cancelled =
        (store.tasks other).cancelled := by
    rcases stage_resumeWaiters hwaits chosen outcome other with hsame | ⟨-, -, -, -, -, hreturned⟩
    · rw [hsame]
    · rw [hreturned]
  constructor
  · constructor
    · intro other
      rcases stage_resumeWaiters hwaits chosen outcome other with hsame | ⟨-, -, -, -, -, hreturned⟩
      · exact hsame ▸ hadvances.floors other
      · exact hreturned ▸ hadvances.floors other
    · intro other
      rcases stage_resumeWaiters hwaits chosen outcome other with hsame | ⟨waiter, hmem, hchosen, rfl, -, hreturned⟩
      · exact hsame ▸ hadvances.stages other
      · exact hreturned ▸ hsupported waiter hmem hchosen
    · exact houtcomes
    · rintro generation ⟨newest, hmem⟩
      exact hkept generation newest hmem
  · constructor
    · intro other hother
      refine hwaits.present other ?_
      rcases stage_resumeWaiters hwaits chosen outcome other with hsame | ⟨waiter, -, -, -, hwaiting, -⟩
      · exact hsame ▸ hother
      · rw [hwaiting]
        rintro ⟨⟩
    · intro waiter hwaiter
      obtain ⟨hmem, hnot⟩ := mem_filter_not.mp hwaiter
      rcases stage_resumeWaiters hwaits chosen outcome waiter.task with hsame | ⟨other, hother, hchosen, htask, -⟩
      · exact hsame ▸ hwaits.suspended waiter hmem
      · rw [waiter_ext hwaits hother hmem htask, hnot] at hchosen
        cases hchosen
    · intro other generation waiterId hother
      rcases stage_resumeWaiters hwaits chosen outcome other with hsame | ⟨-, -, -, -, -, hreturned⟩
      · have hmem := hwaits.stored other generation waiterId (hsame ▸ hother)
        refine mem_filter_not.mpr ⟨hmem, ?_⟩
        by_contra hchosen
        have hany : (store.refreshOutcomeWaiters.filter chosen).any
            (fun waiter => waiter.task = other) = true :=
          List.any_eq_true.mpr ⟨_, List.mem_filter.mpr ⟨hmem, by simpa using hchosen⟩, by simp⟩
        have hreturned : (store.resumeWaiters chosen outcome).tasks other =
          { store.tasks other with stage := .returned outcome } := if_pos hany
        have hother : ((store.resumeWaiters chosen outcome).tasks other).stage =
          .waiting generation waiterId := hother
        rw [hreturned] at hother
        cases hother
      · have hother : ((store.resumeWaiters chosen outcome).tasks other).stage =
          .waiting generation waiterId := hother
        rw [hreturned] at hother
        cases hother
    · exact fun waiter hwaiter => hwaits.known waiter (mem_filter_not.mp hwaiter).1
    · exact hwaits.single.filter _
    · exact hwaits.fresh
    · exact hwaits.distinct
    · refine List.Nodup.append hwaits.once ?_ ?_
      · refine List.Nodup.map_on ?_ (hwaits.single.filter _)
        intro first hfirst second hsecond
        exact hwaits.distinct first (hwaits.known _ (List.mem_filter.mp hfirst).1) second
          (hwaits.known _ (List.mem_filter.mp hsecond).1)
      · intro waiterId hbefore hafter
        obtain ⟨waiter, hmem, rfl⟩ := List.mem_map.mp hafter
        have hwaiter := (List.mem_filter.mp hmem).1
        exact (hwaits.resumed waiter (hwaits.known waiter hwaiter)).mp hbefore hwaiter
    · rintro waiterId (hmem | hmem)
      · rcases (hresumed waiterId).mp hmem with hbefore | ⟨waiter, hwaiter, -, rfl⟩
        · exact hwaits.numbered waiterId (Or.inl hbefore)
        · exact (hwaits.fresh waiter (hwaits.known waiter hwaiter)).1
      · exact hnumbered waiterId hmem
    · intro waiter hknown
      refine Iff.trans (hresumed _) (Iff.trans ?_ (hgone waiter hknown).symm)
      rw [hwaits.resumed waiter hknown]
      refine or_congr_right' ?_
      intro hmem
      rw [not_not] at hmem
      constructor
      · rintro ⟨other, hother, hchosen, hsame⟩
        rw [← hwaits.distinct other (hwaits.known other hother) waiter hknown hsame]
        exact hchosen
      · exact fun hchosen => ⟨waiter, hmem, hchosen, rfl⟩
    · exact fun waiter hknown => (hgone waiter hknown).trans (htold waiter hknown)
    · exact fun waiter hknown hmem => (hcancelled _).trans (hhandled waiter hknown hmem)
    · exact fun waiter hmem =>
        ⟨(hwaits.jobs waiter (hjobs hmem)).1,
          (hcancelled _).trans (hwaits.jobs waiter (hjobs hmem)).2⟩
    · intro waiter hwaiter hown
      obtain ⟨hmem, hnot⟩ := mem_filter_not.mp hwaiter
      exact hcancelling waiter
        (hwaits.cancelling waiter hmem ((hcancelled _).symm.trans hown)) hnot

/-- The outcome of a generation reaches its waiters and is kept for a while. -/
theorem Sound.completeRefresh (hsound : store.Sound) {outcome : RefreshOutcome}
    (houtcome : ∀ floor < generation, outcome.Supported store.published floor) :
    (store.completeRefresh generation outcome).Sound := by
  have hadvances := hsound.1
  have hwaits := hsound.2
  refine hsound.resumeWaiters (·.generation = generation) _ _ store.handled store.cancelJobs
    ?_ ?_ ?_ ?_ ?_ hwaits.handled (fun _ h => h) (fun _ h _ => h)
  · intro waiter hwaiter hchosen
    have hsupported := hadvances.stages waiter.task
    rw [hwaits.suspended waiter hwaiter, of_decide_eq_true hchosen] at hsupported
    exact houtcome _ hsupported
  · intro other found hfound
    split at hfound
    · by_cases hsame : other = generation
      · rw [hsame, Function.update_self] at hfound
        cases hfound
        rwa [hsame]
      · rw [Function.update_of_ne hsame] at hfound
        exact hadvances.outcomes other found hfound
    · cases hfound
  · intro other newest hmem
    by_cases hretained : store.refreshGeneration ≤ other + 20
    · rw [if_pos hretained]
      by_cases hsame : other = generation
      · rw [hsame, Function.update_self]
        exact Or.inr (by simp)
      · rw [Function.update_of_ne hsame]
        have hbefore : (other, newest) ∈ store.completions := by
          rcases List.mem_cons.mp hmem with hnew | hold
          · cases hnew
            exact absurd rfl hsame
          · exact hold
        rcases hadvances.kept other ⟨newest, hbefore⟩ with ⟨completion, hcompletion, hlate⟩ | hkept
        · exact Or.inl ⟨completion, List.mem_cons_of_mem _ hcompletion, hlate⟩
        · exact Or.inr hkept
    · exact Or.inl ⟨_, List.mem_cons_self, Nat.lt_of_not_le hretained⟩
  · intro waiter hknown
    have htold := hwaits.told waiter hknown
    constructor
    · rintro (hgone | hchosen)
      · rcases htold.mp hgone with ⟨newest, hmem⟩ | hhandled
        · exact Or.inl ⟨newest, List.mem_cons_of_mem _ hmem⟩
        · exact Or.inr hhandled
      · rw [of_decide_eq_true hchosen]
        exact Or.inl ⟨_, List.mem_cons_self⟩
    · rintro (⟨newest, hmem⟩ | hhandled)
      · rcases List.mem_cons.mp hmem with hnew | hold
        · cases hnew
          exact Or.inr (by simp)
        · exact Or.inl (htold.mpr (Or.inl ⟨newest, hold⟩))
      · exact Or.inl (htold.mpr (Or.inr hhandled))
  · exact fun waiterId hmem => hwaits.numbered waiterId (Or.inr hmem)

theorem Sound.cancelRefreshOutcomeWaiter (hsound : store.Sound) {waiter : Waiter}
    (hjob : waiter ∈ store.cancelJobs) : (store.cancelRefreshOutcomeWaiter waiter).Sound := by
  have hadvances := hsound.1
  have hwaits := hsound.2
  obtain ⟨hknown, hcancelled⟩ := hwaits.jobs waiter hjob
  refine hsound.resumeWaiters (· = waiter) _ store.completions (waiter.waiterId :: store.handled)
    (store.cancelJobs.erase waiter) (fun _ _ _ => trivial) hadvances.outcomes ?_ ?_ ?_ ?_
    List.erase_subset ?_
  · exact fun other newest hmem => hadvances.kept other ⟨newest, hmem⟩
  · intro other hother
    have htold := hwaits.told other hother
    constructor
    · rintro (hgone | hchosen)
      · rcases htold.mp hgone with hcompleted | hhandled
        · exact Or.inl hcompleted
        · exact Or.inr (List.mem_cons_of_mem _ hhandled)
      · rw [of_decide_eq_true hchosen]
        exact Or.inr List.mem_cons_self
    · rintro (hcompleted | hhandled)
      · exact Or.inl (htold.mpr (Or.inl hcompleted))
      · rcases List.mem_cons.mp hhandled with hself | hbefore
        · rw [hwaits.distinct other hother waiter hknown hself]
          exact Or.inr (by simp)
        · exact Or.inl (htold.mpr (Or.inr hbefore))
  · intro waiterId hmem
    rcases List.mem_cons.mp hmem with rfl | hbefore
    · exact (hwaits.fresh waiter hknown).1
    · exact hwaits.numbered waiterId (Or.inr hbefore)
  · intro other hother hmem
    rcases List.mem_cons.mp hmem with hself | hbefore
    · rwa [hwaits.distinct other hother waiter hknown hself]
    · exact hwaits.handled other hother hbefore
  · intro other hother hnot
    exact (List.mem_erase_of_ne (of_decide_eq_false hnot)).mpr hother

/-- A continuation is stored for a generation that has not completed. -/
theorem Sound.refreshOutcome (hsound : store.Sound)
    (hstage : (store.tasks id).stage = .looking generation)
    (hprompt : (store.tasks id).cancelled = false → store.Completed generation →
      ∀ completion ∈ store.completions, completion.2 ≤ generation + 20) :
    (store.refreshOutcome id generation).Sound := by
  have hadvances := hsound.1
  have hwaits := hsound.2
  have hactive : (store.tasks id).stage.Active := by
    rw [hstage]
    trivial
  have hfloor : (store.tasks id).floor < generation := by
    have hsupported := hadvances.stages id
    rw [hstage] at hsupported
    exact hsupported
  simp only [DashboardStore.refreshOutcome]
  split
  · next outcome hfound =>
    exact hsound.setStage hactive trivial (hadvances.outcomes _ _ hfound _ hfloor)
  · next hnone =>
    split
    · exact hsound.setStage hactive trivial trivial
    · next hcancelled =>
      have hpresent := hwaits.present id hactive.not_absent
      have hopen : ¬ store.Completed generation := by
        intro hcompleted
        rcases hadvances.kept generation hcompleted with ⟨completion, hmem, hlate⟩ | hkept
        · have hsoon := hprompt (by simpa using hcancelled) hcompleted completion hmem
          exact Nat.not_lt_of_le hsoon hlate
        · exact hkept hnone
      have hunknown (waiter : Waiter) (hwaiter : waiter ∈ store.registered) :
          waiter.waiterId ≠ store.nextWaiter := Nat.ne_of_lt (hwaits.fresh waiter hwaiter).1
      have hidle (waiter : Waiter) (hwaiter : waiter ∈ store.refreshOutcomeWaiters) :
          waiter.task ≠ id := by
        rintro rfl
        exact hactive.not_waiting _ _ (hwaits.suspended waiter hwaiter)
      have hself := setTask_self store id
        { store.tasks id with stage := .waiting generation store.nextWaiter }
      have hother (other : Nat) (hne : other ≠ id) := setTask_of_ne store hne
        { store.tasks id with stage := .waiting generation store.nextWaiter }
      have hcancelledSame (other : Nat) :
          ((store.setStage id (.waiting generation store.nextWaiter)).tasks other).cancelled =
            (store.tasks other).cancelled :=
        forall_setTask { store.tasks id with stage := .waiting generation store.nextWaiter }
          (fun other task => task.cancelled = (store.tasks other).cancelled) rfl (fun _ => rfl) other
      constructor
      · constructor
        · exact forall_setTask _ (fun _ task => task.floor ≤ store.refreshGeneration) (hadvances.floors id)
            hadvances.floors
        · exact forall_setTask _
            (fun _ task =>
              task.stage.Supported store.published store.refreshGeneration task.floor)
            hfloor hadvances.stages
        · exact hadvances.outcomes
        · exact hadvances.kept
      · constructor
        · exact forall_setTask _ (fun other task => task.stage ≠ .absent → other < store.nextTask)
            (fun _ => hpresent) hwaits.present
        · intro waiter hwaiter
          rcases List.mem_cons.mp hwaiter with rfl | hbefore
          · exact congrArg RefreshTask.stage hself
          · exact (congrArg RefreshTask.stage (hother _ (hidle waiter hbefore))).trans
              (hwaits.suspended waiter hbefore)
        · intro other found waiterId hwaiting
          by_cases hne : other = id
          · subst hne
            have hwaiting := (congrArg RefreshTask.stage hself).symm.trans hwaiting
            cases hwaiting
            exact List.mem_cons_self
          · have hwaiting := (congrArg RefreshTask.stage (hother other hne)).symm.trans hwaiting
            exact List.mem_cons_of_mem _ (hwaits.stored other found waiterId hwaiting)
        · intro waiter hwaiter
          rcases List.mem_cons.mp hwaiter with rfl | hbefore
          · exact List.mem_cons_self
          · exact List.mem_cons_of_mem _ (hwaits.known waiter hbefore)
        · refine List.nodup_cons.mpr ⟨?_, hwaits.single⟩
          exact fun hmem => hunknown _ (hwaits.known _ hmem) rfl
        · intro waiter hwaiter
          rcases List.mem_cons.mp hwaiter with rfl | hbefore
          · exact ⟨Nat.lt_succ_self _, hpresent⟩
          · exact ⟨Nat.lt_succ_of_lt (hwaits.fresh waiter hbefore).1,
              (hwaits.fresh waiter hbefore).2⟩
        · intro first hfirst second hsecond hsame
          rcases List.mem_cons.mp hfirst with rfl | hfirst
          · rcases List.mem_cons.mp hsecond with rfl | hsecond
            · rfl
            · exact absurd hsame.symm (hunknown second hsecond)
          · rcases List.mem_cons.mp hsecond with rfl | hsecond
            · exact absurd hsame (hunknown first hfirst)
            · exact hwaits.distinct first hfirst second hsecond hsame
        · exact hwaits.once
        · exact fun waiterId hmem => Nat.lt_succ_of_lt (hwaits.numbered waiterId hmem)
        · intro waiter hwaiter
          rcases List.mem_cons.mp hwaiter with rfl | hbefore
          · refine iff_of_false ?_ (not_not.mpr List.mem_cons_self)
            exact fun hmem => Nat.lt_irrefl _ (hwaits.numbered _ (Or.inl hmem))
          · rw [List.mem_cons, not_or]
            refine (hwaits.resumed waiter hbefore).trans (and_iff_right ?_).symm
            rintro rfl
            exact hunknown _ hbefore rfl
        · intro waiter hwaiter
          rcases List.mem_cons.mp hwaiter with rfl | hbefore
          · refine iff_of_false (not_not.mpr List.mem_cons_self) (not_or.mpr ⟨hopen, ?_⟩)
            exact fun hmem => Nat.lt_irrefl _ (hwaits.numbered _ (Or.inr hmem))
          · rw [List.mem_cons, not_or]
            refine (and_iff_right ?_).trans (hwaits.told waiter hbefore)
            rintro rfl
            exact hunknown _ hbefore rfl
        · intro waiter hwaiter hmem
          rcases List.mem_cons.mp hwaiter with rfl | hbefore
          · exact absurd (hwaits.numbered _ (Or.inr hmem)) (Nat.lt_irrefl _)
          · exact (hcancelledSame _).trans (hwaits.handled waiter hbefore hmem)
        · exact fun waiter hwaiter =>
            ⟨List.mem_cons_of_mem _ (hwaits.jobs waiter hwaiter).1,
              (hcancelledSame _).trans (hwaits.jobs waiter hwaiter).2⟩
        · intro waiter hwaiter hown
          have hown := (hcancelledSame _).symm.trans hown
          rcases List.mem_cons.mp hwaiter with rfl | hbefore
          · exact absurd hown hcancelled
          · exact hwaits.cancelling waiter hbefore hown

/-! ## A turn, and a run -/

theorem core_afterFailure (fileExists : Bool) :
    (store.afterFailure fileExists).toRefreshCore = store.toRefreshCore := by
  simp only [afterFailure]
  split
  · split
    · rfl
    · split
      · rfl
      · rfl
  · split
    · rfl
    · rfl

/-- A refresh publishes what it has loaded, or changes only what is shown. -/
theorem core_publish (store : DashboardStore) (id generation : Nat) (fileExists : Bool) (result : LoadResult) :
    (∃ outcome, (store.publish id generation fileExists result).2 = outcome ∧
      (outcome = .discarded ∨ ∃ message, outcome = .failed message) ∧
      (store.publish id generation fileExists result).1.toRefreshCore = store.toRefreshCore) ∨
    (store.publish id generation fileExists result).2 = .succeeded ∧
      (store.publish id generation fileExists result).1.toRefreshCore =
        { store.toRefreshCore with published := generation :: store.published } := by
  cases result with
  | loaded state =>
      simp only [publish]
      split
      · exact Or.inl ⟨_, rfl, Or.inl rfl, rfl⟩
      · exact Or.inr ⟨rfl, rfl⟩
  | cancelled => exact Or.inl ⟨_, rfl, Or.inl rfl, rfl⟩
  | failed message recovered =>
      simp only [publish]
      split
      · exact Or.inl ⟨_, rfl, Or.inl rfl, rfl⟩
      · refine Or.inl ⟨_, rfl, Or.inr ⟨message, rfl⟩, ?_⟩
        split
        · split
          · rfl
          · exact core_afterFailure fileExists
        · exact core_afterFailure fileExists

/-- What `finishRefresh` leaves keeps the invariant, and the outcome is one that callers
may trust. -/
theorem Sound.finishRefresh (hsound : store.Sound) (id lifecycle : Nat)
    (hbegun : generation ≤ store.refreshGeneration) (fileExists : Bool) (result : LoadResult) :
    (store.finishRefresh id generation lifecycle fileExists result).1.Sound ∧
    (store.finishRefresh id generation lifecycle fileExists result).1.tasks = store.tasks ∧
    ∀ floor < generation,
      (store.finishRefresh id generation lifecycle fileExists result).2.Supported
        (store.finishRefresh id generation lifecycle fileExists result).1.published floor := by
  rcases finishRefresh_cases store id generation lifecycle
    fileExists result with ⟨outcome, hfinish, hquiet⟩ | ⟨-, -, hfinish⟩
  · rw [hfinish]
    refine ⟨hsound, rfl, fun floor hfloor => ?_⟩
    rcases hquiet with rfl | rfl
    · trivial
    · exact Nat.lt_of_lt_of_le hfloor hbegun
  · rw [hfinish]
    rcases core_publish store id generation fileExists result
      with ⟨outcome, houtcome, hquiet, hcore⟩ | ⟨houtcome, hcore⟩
    · refine ⟨?_, congrArg RefreshCore.tasks hcore, fun floor _ => ?_⟩
      · rw [Sound, hcore]
        exact hsound
      · rw [houtcome]
        rcases hquiet with rfl | ⟨message, rfl⟩
        · trivial
        · trivial
    · have hgrows : store.published ⊆ generation :: store.published := List.subset_cons_self _ _
      obtain ⟨hadvances, hwaits⟩ := hsound
      refine ⟨?_, by rw [hcore], fun floor hfloor => ?_⟩
      · rw [Sound, hcore]
        constructor
        · constructor
          · exact hadvances.floors
          · exact fun other => (hadvances.stages other).mono hgrows (Nat.le_refl _)
          · exact fun other outcome hfound floor hfloor =>
              (hadvances.outcomes other outcome hfound floor hfloor).mono hgrows
          · exact hadvances.kept
        · exact hwaits.of_tasks _ _ _ (Nat.le_refl _) hwaits.present (fun _ _ _ => Iff.rfl)
            fun _ _ => rfl
      · rw [houtcome, congrArg RefreshCore.published hcore]
        exact ⟨generation, List.mem_cons_self, hfloor⟩

theorem Sound.loaded (hsound : store.Sound) {fileExists : Bool} {result : LoadResult}
    (hnext : store.loaded id fileExists result = some next) : next.Sound := by
  simp only [DashboardStore.loaded] at hnext
  split at hnext
  · next generation lifecycle hstage =>
    cases hnext
    have hsupported := hsound.1.stages id
    rw [hstage] at hsupported
    obtain ⟨hfinished, htasks, houtcome⟩ := hsound.finishRefresh id
      lifecycle hsupported.2 fileExists result
    have hcompleted := hfinished.completeRefresh houtcome
    generalize store.finishRefresh id generation lifecycle fileExists result = finished at *
    have hself : (finished.1.completeRefresh generation finished.2).tasks id = store.tasks id := by
      rcases stage_resumeWaiters hfinished.2 (·.generation = generation) finished.2 id with hsame | ⟨waiter, -, -, -, hwaiting, -⟩
      · exact hsame.trans (congrFun htasks id)
      · rw [htasks, hstage] at hwaiting
        cases hwaiting
    refine hcompleted.setStage ?_ trivial ?_
    · rw [hself, hstage]
      trivial
    · rw [hself]
      exact houtcome _ hsupported.1
  · cases hnext

theorem Sound.step (hsound : store.Sound) {event : StoreEvent} (hprompt : store.Prompt event)
    (hnext : store.step event = some next) : next.Sound := by
  cases event with
  | start =>
      cases hnext
      simp only [start]
      split
      · exact hsound.spawn (.poll store.storeStopGeneration) (Or.inl rfl)
      · exact hsound
  | stop =>
      cases hnext
      exact hsound.cancelAll _
  | refreshNow =>
      cases hnext
      exact hsound.spawn _ (Or.inl rfl)
  | mutate retry =>
      simp only [DashboardStore.step, Option.ite_none_right_eq_some, Option.some.injEq] at hnext
      obtain ⟨-, rfl⟩ := hnext
      exact hsound.spawn _ (Or.inr rfl)
  | requestSetup =>
      simp only [DashboardStore.step, Option.ite_none_left_eq_some, Option.some.injEq] at hnext
      obtain ⟨-, rfl⟩ := hnext
      exact (hsound.cancelAll store.setupTask.toList).spawn
        (.setup (store.setupGeneration + 1) store.storeStopGeneration) (Or.inl rfl)
  | confirmSetup =>
      simp only [DashboardStore.step, Option.ite_none_left_eq_some, Option.some.injEq] at hnext
      obtain ⟨-, rfl⟩ := hnext
      exact (hsound.cancelAll store.setupTask.toList).spawn
        (.setup (store.setupGeneration + 1) store.storeStopGeneration) (Or.inl rfl)
  | cancelSetup =>
      cases hnext
      exact hsound.cancelAll _
  | cancel task =>
      cases hnext
      exact hsound.cancel
  | beginTask task =>
      simp only [DashboardStore.step, Option.ite_none_right_eq_some, Option.some.injEq] at hnext
      obtain ⟨hstage, rfl⟩ := hnext
      exact hsound.beginTask (hstage ▸ trivial)
  | commandFinished task result =>
      simp only [DashboardStore.step, Option.ite_none_right_eq_some, Option.some.injEq] at hnext
      obtain ⟨hstage, rfl⟩ := hnext
      exact hsound.commandFinished (hstage ▸ trivial) result
  | call task =>
      simp only [DashboardStore.step, Option.ite_none_right_eq_some, Option.some.injEq] at hnext
      obtain ⟨hstage, rfl⟩ := hnext
      exact hsound.beginRefresh (hstage ▸ trivial)
  | loaded task fileExists result => exact hsound.loaded hnext
  | proceed task => exact hsound.proceed hnext
  | look task =>
      simp only [DashboardStore.step] at hnext
      split at hnext
      · next generation hstage =>
        cases hnext
        exact hsound.refreshOutcome hstage (hprompt generation hstage)
      · cases hnext
  | wake task applying =>
      simp only [DashboardStore.step, Option.ite_none_right_eq_some, Option.some.injEq] at hnext
      obtain ⟨hstage, rfl⟩ := hnext
      have hactive : (store.tasks task).stage.Active := hstage ▸ trivial
      split
      · exact hsound.finish hactive (by rintro ⟨⟩)
      · split
        · exact hsound
        · exact hsound.setStage hactive trivial trivial
  | runCancelJob waiter =>
      simp only [DashboardStore.step, Option.ite_none_right_eq_some, Option.some.injEq] at hnext
      obtain ⟨hjob, rfl⟩ := hnext
      exact hsound.cancelRefreshOutcomeWaiter hjob

theorem Sound.run {events : List StoreEvent} (hrun : PromptRun store events next)
    (hsound : store.Sound) : next.Sound := by
  induction hrun with
  | nil store => exact hsound
  | cons hprompt hstep hrest ih => exact ih (hsound.step hprompt hstep)

theorem sound_init : ({} : DashboardStore).Sound := by
  constructor
  · constructor
    · exact fun _ => Nat.le_refl _
    · exact fun _ => trivial
    · rintro generation outcome ⟨⟩
    · rintro generation ⟨newest, ⟨⟩⟩
  · constructor
    case once => exact List.nodup_nil
    case single => exact List.nodup_nil
    all_goals simp

theorem Sound.orderly (hsound : store.Sound) : store.Orderly := by
  obtain ⟨hadvances, hwaits⟩ := hsound
  constructor
  · intro event next hnext hchanges
    rcases endsNewest_of_step hnext with hends | ⟨hsame, hmessage⟩
    · exact hends
    · rcases hchanges with hshows | ⟨hrefresh, hmessages⟩
      · exact absurd hshows hsame.not_shows
      · exact absurd (hmessage hrefresh) hmessages
  · exact hwaits.once
  · exact fun waiter hknown =>
      (hwaits.resumed waiter hknown).trans (hwaits.told waiter hknown)
  · exact hwaits.handled
  · intro waiter hknown hcancelled
    by_cases hmem : waiter ∈ store.refreshOutcomeWaiters
    · exact Or.inr (hwaits.cancelling waiter hmem hcancelled)
    · exact Or.inl ((hwaits.resumed waiter hknown).mpr hmem)
  · intro waiter hmem hcompleted
    exact (hwaits.told waiter (hwaits.known waiter hmem)).mpr (Or.inl hcompleted) hmem
  · intro id hstage
    have hsupported := hadvances.stages id
    rw [hstage] at hsupported
    exact hsupported

/-- In every prompt run the refreshes keep their contract. -/
theorem orderly_of_promptRun {events : List StoreEvent} (hrun : PromptRun {} events store) :
    store.Orderly :=
  (sound_init.run hrun).orderly

/-! ## Two runs -/

/-- Runs as long as every turn is prompt. -/
def runPromptly (store : DashboardStore) (events : List StoreEvent) : Option DashboardStore :=
  events.foldlM (fun store event => if store.Prompt event then store.step event else none) store

theorem promptRun_of_runPromptly {events : List StoreEvent}
    (hrun : store.runPromptly events = some next) : PromptRun store events next := by
  induction events generalizing store with
  | nil =>
      cases hrun
      exact .nil _
  | cons event events ih =>
      simp only [runPromptly, List.foldlM_cons, Option.bind_eq_bind, Option.bind_eq_some_iff,
        Option.ite_none_right_eq_some] at hrun
      obtain ⟨middle, ⟨hprompt, hstep⟩, hrest⟩ := hrun
      exact .cons hprompt hstep (ih hrest)

/-- What the loader finds while brokerd serves. -/
def servingState : LoadedState where
  service := some "brokerd"

/-- The operator refreshes, and nothing comes between. -/
def refreshEvents (id : Nat) : List StoreEvent :=
  [.refreshNow, .beginTask id, .call id, .loaded id true (.loaded servingState), .proceed id]

/-- The refresh of the mutation 1 is superseded by the one of task 2, and that one by the
one of task 3. -/
def supersededEvents : List StoreEvent :=
  refreshEvents 0 ++
    [.mutate false, .commandFinished 1 .succeeded, .call 1,
      .refreshNow, .beginTask 2, .call 2, .loaded 1 true (.loaded servingState), .proceed 1, .look 1,
      .refreshNow, .beginTask 3, .call 3, .loaded 2 true (.loaded servingState),
      .loaded 3 true (.loaded servingState)]

/-- The mutation looks the last outcome up at once and succeeds on it. -/
theorem orderly_of_promptRun_superseded :
    ∃ store, PromptRun {} (supersededEvents ++ [.proceed 1, .look 1, .proceed 1]) store ∧
      (store.tasks 1).stage = .ended .succeeded ∧ store.Orderly := by
  obtain ⟨store, hrun, hended⟩ := (Option.any_eq_true
    (fun store => (store.tasks 1).stage = .ended .succeeded)
    (runPromptly {} (supersededEvents ++ [.proceed 1, .look 1, .proceed 1]))).mp
    (by decide +kernel)
  have hprompt := promptRun_of_runPromptly hrun
  exact ⟨store, hprompt, of_decide_eq_true hended, orderly_of_promptRun hprompt⟩

/-- The resumed mutation takes its turn after twenty-one more refreshes: its continuation is
stored for generation 4, which has completed, and nothing is left to resume it. -/
theorem orderly_fails :
    ∃ store, run {} (supersededEvents ++ ((List.range 21).map (· + 4)).flatMap refreshEvents ++
        [.proceed 1, .look 1]) = some store ∧
      store.refreshOutcomeWaiters = [⟨4, 1, 1⟩] ∧ store.Completed 4 ∧ ¬ store.Orderly := by
  obtain ⟨store, hrun, hchecks⟩ := (Option.any_eq_true
    (fun store => store.refreshOutcomeWaiters = [⟨4, 1, 1⟩] ∧ store.Completed 4)
    (run {} (supersededEvents ++ ((List.range 21).map (· + 4)).flatMap refreshEvents ++
      [.proceed 1, .look 1]))).mp (by decide +kernel)
  obtain ⟨hstored, hcompleted⟩ := of_decide_eq_true hchecks
  refine ⟨store, hrun, hstored, hcompleted, ?_⟩
  intro horderly
  refine horderly.pending ⟨4, 1, 1⟩ ?_ hcompleted
  rw [hstored]
  exact List.mem_singleton_self _

end DashboardStore

end SimulatorBroker.Dashboard
