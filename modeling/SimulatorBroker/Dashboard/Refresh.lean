import Mathlib.Logic.Function.Basic

/-!
# The dashboard store and its refreshes

All of the store runs on the main actor, so one event is one turn of a task between two
suspension points, and every `await` may suspend.  A refresh takes the next generation
before it loads; a newer one supersedes it, and whoever needs its outcome follows the
newer generation.  A continuation is stored under its generation until that generation
completes or the waiting task is cancelled.
-/

namespace SimulatorBroker.Dashboard

/-- `BrokerRefreshOutcome`. -/
inductive RefreshOutcome where
  | discarded
  | failed (message : String)
  | succeeded
  | superseded (generation : Nat)
  deriving DecidableEq, Repr

/-- `BrokerLoadedState`; the service stands for its metadata. -/
structure LoadedState where
  paths : String := ""
  hostConfigExists : Bool := true
  service : Option String := none
  snapshot : Option String := none
  serviceRequiresRestart : Bool := false
  deriving DecidableEq, Repr

/-- How `loader.load()` ends; the recovered state is the one of a partial failure. -/
inductive LoadResult where
  | loaded (state : LoadedState)
  | cancelled
  | failed (message : String) (recovered : Option LoadedState)
  deriving DecidableEq, Repr

/-- How the command of a mutation or of the guided setup ends. -/
inductive CommandResult where
  | succeeded
  | cancelled
  | unconfirmed
  | failed (message : String)
  deriving DecidableEq, Repr

/-! ## Tasks -/

/-- Who calls `refresh`, with the generations it has captured. -/
inductive Purpose where
  | poll (lifecycle : Nat)
  | refreshNow (lifecycle : Nat)
  | mutation (acceptSuccessfulRefreshRetry : Bool)
  | setup (setup lifecycle : Nat)
  | recovery (setup lifecycle : Nat)
  deriving DecidableEq, Repr

namespace Purpose

def expectedStopGeneration : Purpose → Option Nat
  | .poll lifecycle | .refreshNow lifecycle => some lifecycle
  | .mutation _ => none
  | .setup _ lifecycle | .recovery _ lifecycle => some lifecycle

def expectedSetupGeneration : Purpose → Option Nat
  | .setup generation _ | .recovery generation _ => some generation
  | _ => none

/-- Followed by `requireRefreshAfterMutation`. -/
def required : Purpose → Bool
  | .mutation _ | .setup _ _ => true
  | _ => false

end Purpose

inductive TaskResult where
  | done
  | succeeded
  | cancelled
  | failed
  deriving DecidableEq, Repr

inductive Stage where
  | absent
  | queued
  | operating
  | calling
  | loading (generation lifecycle : Nat)
  | returned (outcome : RefreshOutcome)
  | looking (generation : Nat)
  | waiting (generation waiterId : Nat)
  | sleeping
  | ended (result : TaskResult)
  deriving DecidableEq, Repr

/-- A task; `floor` is the newest generation that had begun when its command finished. -/
structure RefreshTask where
  purpose : Purpose := .mutation false
  stage : Stage := .absent
  cancelled : Bool := false
  followedGenerations : List Nat := []
  firstFailure : Option String := none
  floor : Nat := 0
  deriving DecidableEq, Repr

/-- A continuation in `refreshOutcomeWaiters`. -/
structure Waiter where
  generation : Nat
  waiterId : Nat
  task : Nat
  deriving DecidableEq, Repr

/-! ## The store -/

/-- The turns of the store, its callers and its tasks. -/
inductive StoreEvent where
  | start
  | stop
  | refreshNow
  | mutate (acceptSuccessfulRefreshRetry : Bool)
  | requestSetup
  | confirmSetup
  | cancelSetup
  | cancel (id : Nat)
  | beginTask (id : Nat)
  | commandFinished (id : Nat) (result : CommandResult)
  | call (id : Nat)
  | loaded (id : Nat) (fileExists : Bool) (result : LoadResult)
  | proceed (id : Nat)
  | look (id : Nat)
  | wake (id : Nat) (applying : Bool)
  | runCancelJob (waiter : Waiter)
  deriving DecidableEq, Repr

/-- What refreshes and their waiters share.  `completions` lists the generations that have
completed, each with the newest generation of that moment, and `published` the ones that
have set `loadedState` to what they loaded; `registered`, `resumes` and `handled` list the
continuations ever stored, the ones resumed and the ones whose cancellation has been
handled. -/
structure RefreshCore where
  refreshGeneration : Nat := 0
  completedRefreshOutcomes : Nat → Option RefreshOutcome := fun _ => none
  refreshOutcomeWaiters : List Waiter := []
  tasks : Nat → RefreshTask := fun _ => {}
  nextTask : Nat := 0
  nextWaiter : Nat := 0
  cancelJobs : List Waiter := []
  completions : List (Nat × Nat) := []
  published : List Nat := []
  registered : List Waiter := []
  resumes : List Nat := []
  handled : List Nat := []

structure DashboardStore extends RefreshCore where
  setupGeneration : Nat := 0
  storeStopGeneration : Nat := 0
  loadedState : Option LoadedState := none
  serviceStatusUnverified : Bool := false
  lastErrorMessage : Option String := none
  refreshTask : Option Nat := none
  setupTask : Option Nat := none

namespace DashboardStore

def setTask (store : DashboardStore) (id : Nat) (task : RefreshTask) : DashboardStore :=
  { store with tasks := Function.update store.tasks id task }

@[simp] theorem setTask_self (store : DashboardStore) (id : Nat) (task : RefreshTask) :
    (store.setTask id task).tasks id = task := Function.update_self _ _ _

theorem setTask_of_ne (store : DashboardStore) {id other : Nat} (hother : other ≠ id)
    (task : RefreshTask) : (store.setTask id task).tasks other = store.tasks other :=
  Function.update_of_ne hother _ _

def setStage (store : DashboardStore) (id : Nat) (stage : Stage) : DashboardStore :=
  store.setTask id { store.tasks id with stage }

def spawn (store : DashboardStore) (purpose : Purpose) (stage : Stage) : DashboardStore :=
  { store.setTask store.nextTask { purpose, stage } with nextTask := store.nextTask + 1 }

def serviceNeedsRestart (store : DashboardStore) : Bool :=
  store.loadedState.any (·.serviceRequiresRestart) && !store.serviceStatusUnverified

def canSendCommands (store : DashboardStore) : Bool :=
  store.loadedState.any (·.service.isSome) && !store.serviceNeedsRestart &&
    !store.serviceStatusUnverified

/-! ## Outcomes and their waiters -/

/-- Removes the continuations of these waiters and resumes them. -/
def resumeWaiters (store : DashboardStore) (chosen : Waiter → Bool) (outcome : RefreshOutcome) :
    DashboardStore :=
  let waiters := store.refreshOutcomeWaiters.filter chosen
  { store with
    refreshOutcomeWaiters := store.refreshOutcomeWaiters.filter (!chosen ·)
    tasks := fun id =>
      if waiters.any (·.task = id) then { store.tasks id with stage := .returned outcome }
      else store.tasks id
    resumes := store.resumes ++ waiters.map (·.waiterId) }

def completeRefresh (store : DashboardStore) (generation : Nat) (outcome : RefreshOutcome) :
    DashboardStore :=
  let completed := Function.update store.completedRefreshOutcomes generation (some outcome)
  { store.resumeWaiters (·.generation = generation) outcome with
    completedRefreshOutcomes := fun key =>
      if store.refreshGeneration ≤ key + 20 then completed key else none
    completions := (generation, store.refreshGeneration) :: store.completions }

/-- `refreshOutcome(for:)` up to its suspension. -/
def refreshOutcome (store : DashboardStore) (id generation : Nat) : DashboardStore :=
  match store.completedRefreshOutcomes generation with
  | some outcome => store.setStage id (.returned outcome)
  | none =>
      if (store.tasks id).cancelled then store.setStage id (.returned .discarded)
      else
        let waiter : Waiter := { generation, waiterId := store.nextWaiter, task := id }
        { store.setStage id (.waiting generation store.nextWaiter) with
          refreshOutcomeWaiters := waiter :: store.refreshOutcomeWaiters
          nextWaiter := store.nextWaiter + 1
          registered := waiter :: store.registered }

/-- The job that a cancelled waiter's handler queues. -/
def cancelRefreshOutcomeWaiter (store : DashboardStore) (waiter : Waiter) : DashboardStore :=
  { store.resumeWaiters (· = waiter) .discarded with
    cancelJobs := store.cancelJobs.erase waiter
    handled := waiter.waiterId :: store.handled }

/-- Cancels a task; the handler of a waiting one queues a job on the main actor. -/
def cancel (store : DashboardStore) (id : Nat) : DashboardStore :=
  let task := store.tasks id
  if task.cancelled then store
  else
    let next := store.setTask id { task with cancelled := true }
    match task.stage with
    | .waiting generation waiterId =>
        { next with cancelJobs := { generation, waiterId, task := id } :: store.cancelJobs }
    | _ => next

def cancelAll (store : DashboardStore) (ids : List Nat) : DashboardStore :=
  ids.foldl cancel store

/-! ## Refreshing -/

/-- The start of `refresh`, up to the load. -/
def beginRefresh (store : DashboardStore) (id : Nat) : DashboardStore :=
  let task := store.tasks id
  let lifecycle := task.purpose.expectedStopGeneration.getD store.storeStopGeneration
  if lifecycle ≠ store.storeStopGeneration then store.setStage id (.returned .discarded)
  else if task.purpose.expectedSetupGeneration.any (· ≠ store.setupGeneration) then
    store.setStage id (.returned .discarded)
  else if task.cancelled then store.setStage id (.returned .discarded)
  else
    { store.setStage id (.loading (store.refreshGeneration + 1) lifecycle) with
      refreshGeneration := store.refreshGeneration + 1 }

def acceptRecoverablePartialState (store : DashboardStore) (recovered : LoadedState) :
    DashboardStore :=
  { store with
    loadedState := some
      { recovered with snapshot := store.loadedState.bind (·.snapshot) }
    serviceStatusUnverified := false }

def replaceCachedServiceAuthority (store : DashboardStore) (state : LoadedState) :
    DashboardStore :=
  { store with loadedState := some { state with service := none, serviceRequiresRestart := false } }

/-- What a failed load makes of the cached authority. -/
def afterFailure (store : DashboardStore) (fileExists : Bool) : DashboardStore :=
  let couldAuthorize := store.loadedState.any (·.hostConfigExists) || fileExists
  match store.loadedState with
  | some state =>
      if couldAuthorize then
        { store.replaceCachedServiceAuthority state with serviceStatusUnverified := true }
      else if state.service.isSome || state.serviceRequiresRestart then
        store.replaceCachedServiceAuthority state
      else store
  | none => if couldAuthorize then { store with serviceStatusUnverified := true } else store

/-- What the newest refresh does with the result of its load. -/
def publish (store : DashboardStore) (id generation : Nat) (fileExists : Bool) :
    LoadResult → DashboardStore × RefreshOutcome
  | .loaded state =>
      if (store.tasks id).cancelled then (store, .discarded)
      else
        ({ store with
            loadedState := some state
            serviceStatusUnverified := false
            lastErrorMessage := none
            published := generation :: store.published }, .succeeded)
  | .cancelled => (store, .discarded)
  | .failed message recovered =>
      if (store.tasks id).cancelled then (store, .discarded)
      else
        let next :=
          match recovered with
          | some state =>
              if state.service = none ∨ state.serviceRequiresRestart = true then
                store.acceptRecoverablePartialState state
              else store.afterFailure fileExists
          | none => store.afterFailure fileExists
        ({ next with lastErrorMessage := some message }, .failed message)

/-- The end of `refresh`, from the load on. -/
def finishRefresh (store : DashboardStore) (id generation lifecycle : Nat) (fileExists : Bool)
    (result : LoadResult) : DashboardStore × RefreshOutcome :=
  let setup := (store.tasks id).purpose.expectedSetupGeneration
  if lifecycle ≠ store.storeStopGeneration then (store, .discarded)
  else if setup.any (· ≠ store.setupGeneration) then (store, .discarded)
  else if generation ≠ store.refreshGeneration then (store, .superseded store.refreshGeneration)
  else store.publish id generation fileExists result

/-- The turn after the load. -/
def loaded (store : DashboardStore) (id : Nat) (fileExists : Bool) (result : LoadResult) :
    Option DashboardStore :=
  match (store.tasks id).stage with
  | .loading generation lifecycle =>
      let (next, outcome) := store.finishRefresh id generation lifecycle fileExists result
      some ((next.completeRefresh generation outcome).setStage id (.returned outcome))
  | _ => none

/-! ## What the callers do with an outcome -/

/-- `refreshAfterSetupCancellation`. -/
def refreshAfterSetupCancellation (store : DashboardStore) (setup lifecycle : Nat) :
    DashboardStore :=
  if store.storeStopGeneration = lifecycle then store.spawn (.recovery setup lifecycle) .queued
  else store

/-- Ends a task; the guided setup gives up its place while its generations are current. -/
def finish (store : DashboardStore) (id : Nat) (result : TaskResult) : DashboardStore :=
  let ended := store.setStage id (.ended result)
  match (store.tasks id).purpose with
  | .setup setup lifecycle =>
      if setup = store.setupGeneration ∧ lifecycle = store.storeStopGeneration then
        { ended with setupTask := none }
      else ended
  | _ => ended

/-- A `CancellationError` leaves the mutation or the setup. -/
def abandon (store : DashboardStore) (id : Nat) : DashboardStore :=
  match (store.tasks id).purpose with
  | .setup setup lifecycle =>
      (store.finish id .cancelled).refreshAfterSetupCancellation setup lifecycle
  | _ => store.finish id .cancelled

/-- `requireRefreshAfterMutation` throws another error. -/
def fail (store : DashboardStore) (id : Nat) (message : String) : DashboardStore :=
  let task := store.tasks id
  match task.purpose, task.firstFailure with
  | .mutation true, none =>
      if task.cancelled then store.finish id .cancelled
      else
        store.setTask id
          { task with stage := .calling, firstFailure := some message, followedGenerations := [] }
  | .setup _ _, _ => store.setTask id { task with stage := .calling, firstFailure := some message }
  | _, first =>
      { store.finish id .failed with lastErrorMessage := some (first.getD message) }

/-- `requireRefreshAfterMutation` returns. -/
def succeed (store : DashboardStore) (id : Nat) : DashboardStore :=
  match (store.tasks id).purpose with
  | .setup _ _ =>
      if store.canSendCommands then
        { store.finish id .succeeded with lastErrorMessage := none }
      else
        store.fail id
          "Setup did not restore broker command authority. Refresh the dashboard or rerun setup."
  | _ => { store.finish id .succeeded with lastErrorMessage := none }

/-- The refresh after a failed setup has ended. -/
def concludeSetup (store : DashboardStore) (id setup lifecycle : Nat) (message : String) :
    DashboardStore :=
  let current := setup = store.setupGeneration ∧ lifecycle = store.storeStopGeneration
  if current ∧ (store.tasks id).cancelled = false then
    { store.finish id .failed with lastErrorMessage := some message }
  else store.finish id .failed

/-- One round of the loop of `requireRefreshAfterMutation`. -/
def follow (store : DashboardStore) (id : Nat) (outcome : RefreshOutcome) : DashboardStore :=
  let task := store.tasks id
  if task.cancelled then store.abandon id
  else
    match outcome with
    | .discarded => store.abandon id
    | .succeeded => store.succeed id
    | .superseded generation =>
        if generation ∈ task.followedGenerations then
          store.fail id "Snapshot refresh was superseded repeatedly."
        else
          store.setTask id
            { task with
              stage := .looking generation
              followedGenerations := generation :: task.followedGenerations }
    | .failed message => store.fail id message

/-- The turn after `refresh` or `refreshOutcome` has returned. -/
def proceed (store : DashboardStore) (id : Nat) : Option DashboardStore :=
  let task := store.tasks id
  match task.stage with
  | .returned outcome =>
      match task.purpose, task.firstFailure with
      | .poll _, _ =>
          some (if task.cancelled then store.finish id .done else store.setStage id .sleeping)
      | .refreshNow _, _ | .recovery _ _, _ => some (store.finish id .done)
      | .setup setup lifecycle, some message =>
          some (store.concludeSetup id setup lifecycle message)
      | .setup _ _, none | .mutation _, _ => some (store.follow id outcome)
  | _ => none

/-! ## Turns -/

def start (store : DashboardStore) : DashboardStore :=
  if store.refreshTask = none then
    { store.spawn (.poll store.storeStopGeneration) .queued with
      refreshTask := some store.nextTask }
  else store

def stop (store : DashboardStore) : DashboardStore :=
  { store.cancelAll (store.refreshTask.toList ++ store.setupTask.toList) with
    storeStopGeneration := store.storeStopGeneration + 1
    refreshTask := none
    setupTask := none }

/-- The task of the guided setup replaces an earlier one. -/
def replaceSetup (store : DashboardStore) : DashboardStore :=
  let next := store.cancelAll store.setupTask.toList
  { next.spawn (.setup (store.setupGeneration + 1) store.storeStopGeneration) .queued with
    setupGeneration := store.setupGeneration + 1
    setupTask := some next.nextTask }

/-- A task's first turn. -/
def beginTask (store : DashboardStore) (id : Nat) : DashboardStore :=
  let task := store.tasks id
  match task.purpose with
  | .setup setup lifecycle =>
      if task.cancelled = false ∧ setup = store.setupGeneration ∧
          lifecycle = store.storeStopGeneration ∧ store.serviceStatusUnverified = false then
        store.setStage id .operating
      else store.abandon id
  | _ => store.setStage id .calling

def commandFinished (store : DashboardStore) (id : Nat) : CommandResult → DashboardStore
  | .succeeded =>
      let task := store.tasks id
      if task.cancelled then store.abandon id
      else store.setTask id { task with stage := .calling, floor := store.refreshGeneration }
  | .cancelled => store.abandon id
  | .unconfirmed => store.finish id .failed
  | .failed message =>
      match (store.tasks id).purpose with
      | .setup _ _ => store.fail id message
      | _ => { store.finish id .failed with lastErrorMessage := some message }

def step (store : DashboardStore) : StoreEvent → Option DashboardStore
  | .start => some store.start
  | .stop => some store.stop
  | .refreshNow => some (store.spawn (.refreshNow store.storeStopGeneration) .queued)
  | .mutate acceptSuccessfulRefreshRetry =>
      if store.canSendCommands then
        some (store.spawn (.mutation acceptSuccessfulRefreshRetry) .operating)
      else none
  | .requestSetup =>
      if store.serviceStatusUnverified then none
      else some { store.replaceSetup with lastErrorMessage := none }
  | .confirmSetup => if store.serviceStatusUnverified then none else some store.replaceSetup
  | .cancelSetup =>
      some { store.cancelAll store.setupTask.toList with setupTask := none }
  | .cancel id => some (store.cancel id)
  | .beginTask id =>
      if (store.tasks id).stage = .queued then some (store.beginTask id) else none
  | .commandFinished id result =>
      if (store.tasks id).stage = .operating then some (store.commandFinished id result) else none
  | .call id => if (store.tasks id).stage = .calling then some (store.beginRefresh id) else none
  | .loaded id fileExists result => store.loaded id fileExists result
  | .proceed id => store.proceed id
  | .look id =>
      match (store.tasks id).stage with
      | .looking generation => some (store.refreshOutcome id generation)
      | _ => none
  | .wake id applying =>
      if (store.tasks id).stage = .sleeping then
        some (if (store.tasks id).cancelled then store.finish id .done
          else if applying then store else store.setStage id .calling)
      else none
  | .runCancelJob waiter =>
      if waiter ∈ store.cancelJobs then some (store.cancelRefreshOutcomeWaiter waiter) else none

def run (store : DashboardStore) (events : List StoreEvent) : Option DashboardStore :=
  events.foldlM step store

end DashboardStore

end SimulatorBroker.Dashboard
