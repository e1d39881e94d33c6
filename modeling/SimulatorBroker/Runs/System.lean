import SimulatorBroker.Safety.Capacity
import SimulatorBroker.Safety.HostInit
import SimulatorBroker.Safety.Idle
import SimulatorBroker.Safety.Leases
import SimulatorBroker.Safety.Queries
import SimulatorBroker.State.Truthful

/-!
# Runs of the broker

Commands follow each other as the locks allow, each from the world the one before
left, and each returns, throws or crashes anywhere.  Every command is safe in
every such run, so the invariant holds in every world that is reached.
-/

namespace SimulatorBroker.Runs

open SimulatorBroker.Effects
open SimulatorBroker.State
open SimulatorBroker.Broker
open SimulatorBroker.Safety

/-! ## Every command is safe -/

/-- What a command needs of its context: the reference of its caller, and how it may
name the leases the context is about. -/
def CommandOk (context : Context) (timestamp : Timestamp) (world : World) : Command → Prop
  | .register options =>
      timestamp ≤ context.since ∧ ∀ lease ∈ world.store.leases,
        LeaseReference.Names options.reference world lease.leaseId →
          ¬ context.rolledBack lease.leaseId
  | .contain reference _ | .release reference =>
      ∀ lease ∈ world.store.leases, LeaseReference.Names reference world lease.leaseId →
        ¬ context.rolledBack lease.leaseId ∧ ¬ context.spared lease.leaseId
  | .lifecycle action options => LifecycleOk context action options
  | .repairPurpose options => context.reference = options.reference
  | .deleteSimulator _ | .init _ | .setup _ _ => context.causeOnly = false
  | .applyIdleCleanup _ _ _ =>
      ∀ lease ∈ world.store.leases, ¬ context.rolledBack lease.leaseId
  | _ => True

section Commands

variable {context : Context} {world : World} {timestamp : Timestamp}

theorem safe_of_settled {α : Type} {body : Broker α}
    (hbody : Safe context body (fun _ after => Settled context after)
      (fun _ after => Counted context after) world) :
    Safe context body (fun _ after => Counted context after)
      (fun _ after => Counted context after) world :=
  hbody.weaken (fun _ _ _ h => h.2) fun _ _ _ h => h

theorem safe_of_kept {α : Type} {body : Broker α} (hcounted : Counted context world)
    (hbody : Safe context body (fun _ after => Kept world after)
      (fun _ after => Kept world after) world) :
    Safe context body (fun _ after => Counted context after)
      (fun _ after => Counted context after) world :=
  hbody.weaken (fun _ _ _ h => h.counted hcounted) fun _ _ _ h => h.counted hcounted

theorem safe_body {command : Command} (hready : Ready context timestamp world)
    (hok : CommandOk context timestamp world command) :
    Safe context (command.body context.paths timestamp) (fun _ after => Counted context after)
      (fun _ after => Counted context after) world := by
  cases command with
  | acquire options => exact safe_of_settled (safe_acquireLeaseBroker hready)
  | register options => exact safe_of_settled (safe_registerLeaseProcessBroker hready hok.1 hok.2)
  | contain reference reason => exact safe_of_settled (safe_containLeaseBroker hready hok)
  | release reference => exact safe_of_settled (safe_releaseLeaseBroker hready hok)
  | createPin options =>
      exact safe_of_settled (safe_settledUnderLock hready.counted fun _ hlocked =>
        safe_createPin (hready.kept hlocked.toKept))
  | clearPin name =>
      exact safe_of_settled (safe_settledUnderLock hready.counted fun _ hlocked =>
        safe_clearPin (hready.kept hlocked.toKept))
  | lifecycle action options => exact safe_of_settled (safe_lifecycleActionBroker hok hready)
  | repairPurpose options => exact safe_repairPurposeSimulatorsBroker hok hready
  | deleteSimulator name => exact safe_of_settled (safe_deleteSimulatorBroker hready hok)
  | deletePurpose purposeId => exact safe_of_settled (safe_deletePurposeSimulatorsBroker hready)
  | hostStatus =>
      exact (safe_hostStatusBroker hready).weaken (fun _ _ _ h => h.2.2) fun _ _ _ h => h
  | doctor => exact (safe_doctorBroker hready).weaken (fun _ _ _ h => h.2) fun _ _ _ h => h
  | explain purposeId explicitAlias => exact safe_of_settled (safe_explainLeaseBroker hready)
  | validateProject => exact safe_validateProjectBroker hready.counted
  | forgetProject projectId =>
      exact safe_of_settled (safe_settledUnderLock hready.counted fun _ hlocked =>
        safe_forgetKnownProject (hready.kept hlocked.toKept))
  | init options => exact safe_of_settled (safe_initBroker hok hready)
  | setup planner options => exact safe_of_settled (safe_applySetupBroker hok hready)
  | checkCapacity options => exact safe_checkCapacityBroker hready
  | reconcileCapacity planner options => exact safe_reconcileCapacityBroker hready
  | idleStatus => exact safe_of_settled (safe_idleStatusBroker hready)
  | enableIdle actor graceSeconds =>
      exact safe_of_kept hready.counted (safe_enableIdlePolicyBroker.weaken
        (fun _ _ _ h => h.toKept) fun _ _ _ h => h.toKept)
  | disableIdle actor =>
      exact safe_of_kept hready.counted (safe_disableIdlePolicyBroker.weaken
        (fun _ _ _ h => h.toKept) fun _ _ _ h => h.toKept)
  | reconcileIdle options =>
      exact (safe_reconcileIdleBroker hready).weaken (fun _ _ _ h => h.1) fun _ _ _ h => h
  | previewIdleCleanup =>
      exact safe_of_kept hready.counted (safe_previewIdleCleanupBroker.weaken
        (fun _ _ _ h => h.toKept) fun _ _ _ h => h.toKept)
  | applyIdleCleanup actor confirmPlanId persistNoChanges =>
      exact (safe_applyIdleCleanupBroker hok hready).weaken (fun _ _ _ h => h.1) fun _ _ _ h => h
  | appSnapshot skipLeaseIds =>
      exact safe_of_kept hready.counted safe_writeAppSnapshotArtifactUnderMutationLock

end Commands

/-! ## Runs -/

/-- No lease, no pin and no registry yet; the host config, where there is one, binds
simulators that were drawn. -/
structure Fresh (world : World) : Prop where
  registry : world.store.registry = none
  leases : world.store.leases = []
  pins : world.store.pins = []
  ledger : world.ledger = {}
  devicesDrawn : world.outside.DevicesDrawn
  boundDrawn : ∀ config, world.store.hostConfig = some config →
    ∀ simulatorId ∈ config.simulatorIds, simulatorId < world.outside.nextDevice

/-- The worlds that commands reach from a fresh one, each begun with a clock it has read
and taken as far as `rest`; time passes between them. -/
inductive Run (paths : BrokerPaths) (surroundings : Surroundings) : World → Prop where
  | fresh {world : World} (fresh : Fresh world) : Run paths surroundings world
  | command {world after : World} {command : Command} {timestamp : Timestamp}
      {rest : Broker command.Reply} (before : Run paths surroundings world)
      (past : timestamp ≤ world.outside.clock)
      (steps : Steps (brokerHandler surroundings) (command.body paths timestamp) world rest after) :
      Run paths surroundings after
  | time {world after : World} (before : Run paths surroundings world)
      (settles : Settles surroundings world after) : Run paths surroundings after

/-- The worlds that admitted commands reach from the first one. -/
inductive RunFrom (paths : BrokerPaths) (surroundings : Surroundings)
    (admits : World → Timestamp → Command → Prop) (first : World) : World → Prop where
  | refl : RunFrom paths surroundings admits first first
  | command {world after : World} {command : Command} {timestamp : Timestamp}
      {rest : Broker command.Reply} (before : RunFrom paths surroundings admits first world)
      (admitted : admits world timestamp command) (past : timestamp ≤ world.outside.clock)
      (steps : Steps (brokerHandler surroundings) (command.body paths timestamp) world rest after) :
      RunFrom paths surroundings admits first after
  | time {world after : World} (before : RunFrom paths surroundings admits first world)
      (settles : Settles surroundings world after) : RunFrom paths surroundings admits first after

/-- The same surroundings, in which every call may fail. -/
def Surroundings.failing (surroundings : Surroundings) : Surroundings :=
  { surroundings with mayFail := fun _ _ => True }

/-- The lease reference of the caller. -/
def Command.reference : Command → LeaseReference
  | .lifecycle _ options => options.reference
  | .repairPurpose options => options.reference
  | _ => {}

def Command.causeOnly : Command → Bool
  | .deletePurpose _ => true
  | _ => false

/-- The context in which nothing is assumed of a command. -/
def Command.context (command : Command) (paths : BrokerPaths) (surroundings : Surroundings)
    (timestamp : Timestamp) (world : World) : Context where
  paths := paths
  surroundings := Surroundings.failing surroundings
  since := timestamp
  drawnFrom := world.outside.nextId
  reference := Command.reference command
  causeOnly := Command.causeOnly command

section Runs

variable {paths : BrokerPaths} {surroundings : Surroundings} {world after : World}

theorem Fresh.consistent (hfresh : Fresh world) : Consistent paths world := by
  have hentry : ∀ name, world.store.entry name = none := by
    simp [Store.entry, hfresh.registry]
  constructor
  · exact hfresh.devicesDrawn
  · exact hfresh.boundDrawn
  · simp [hfresh.leases]
  · simp [hfresh.leases]
  · simp [hfresh.leases]
  · simp [hfresh.leases]
  · simp [hfresh.leases]
  · simp [hfresh.leases]
  · simp [hfresh.pins]
  · simp [hfresh.pins]
  · simp [hfresh.leases]
  · simp [hfresh.leases]
  · simp [hfresh.leases]
  · simp [hfresh.ledger]
  · simp [hentry]

/-- In a context that is about no lease, the invariant is that of the files. -/
theorem moment_of_consistent {context : Context} (hspared : ∀ leaseId, ¬ context.spared leaseId)
    (hrolledBack : ∀ leaseId, ¬ context.rolledBack leaseId) (hassumed : context.assumed world)
    (hconsistent : Consistent context.paths world) : Moment context world where
  toConsistent := hconsistent
  spared leaseId hleaseId := absurd hleaseId (hspared leaseId)
  rolledBack leaseId hleaseId := absurd hleaseId (hrolledBack leaseId)
  assumed := hassumed

/-- A context that is about no lease, with the reference of the caller. -/
theorem commandOk_of_reference {context : Context} {command : Command} {timestamp : Timestamp}
    (hspared : ∀ leaseId, ¬ context.spared leaseId)
    (hrolledBack : ∀ leaseId, ¬ context.rolledBack leaseId) (hsince : timestamp ≤ context.since)
    (hreference : context.reference = Command.reference command)
    (hcauseOnly : context.causeOnly = Command.causeOnly command) :
    CommandOk context timestamp world command := by
  cases command with
  | register options => exact ⟨hsince, fun _ _ _ => hrolledBack _⟩
  | contain reference reason => exact fun _ _ _ => ⟨hrolledBack _, hspared _⟩
  | release reference => exact fun _ _ _ => ⟨hrolledBack _, hspared _⟩
  | lifecycle action options => exact ⟨hreference, fun _ _ => hspared _⟩
  | repairPurpose options => exact hreference
  | deleteSimulator name => exact hcauseOnly
  | init options => exact hcauseOnly
  | setup planner options => exact hcauseOnly
  | applyIdleCleanup actor confirmPlanId persistNoChanges => exact fun _ _ => hrolledBack _
  | _ => trivial

theorem commandOk_context {command : Command} {timestamp : Timestamp} :
    CommandOk (Command.context command paths surroundings timestamp world) timestamp world
      command :=
  commandOk_of_reference (fun _ => id) (fun _ => id) le_rfl rfl rfl

theorem refines_failing :
    (brokerHandler surroundings).Refines (brokerHandler (Surroundings.failing surroundings)) := by
  intro op before answer last hstep
  cases hstep with
  | ok hanswered hafter =>
      refine .ok ?_ ⟨hafter.store, hafter.ledger, hafter.drift⟩
      cases op with
      | _ => exact hanswered
  | error _ herror hafter => exact .error trivial herror ⟨hafter.store, hafter.ledger, hafter.drift⟩
  | late _ herror hlate hafter =>
      exact .late trivial herror hlate ⟨hafter.store, hafter.ledger, hafter.drift⟩

/-- Where every write may fail, no count is promised. -/
theorem counted_failing {context : Context}
    (hfailing : context.surroundings = Surroundings.failing surroundings) :
    Counted context world := by
  intro hrecords
  rw [hfailing] at hrecords
  exact absurd trivial (hrecords.files (.fs .ensureDir) world rfl)

/-- A safe program in surroundings of which nothing is assumed. -/
theorem wp_of_safe {α : Type} {context : Context} {body : Broker α} {post : α → World → Prop}
    {raise : BrokerError → World → Prop}
    (hfailing : context.surroundings = Surroundings.failing surroundings)
    (hassumed : ∀ after, context.assumed after) (hmoment : Moment context world)
    (hsafe : Safe context body post raise world) :
    wp (brokerHandler surroundings) (fun op after => StepOk context op after ∧ Invariant context after)
      body (fun value after => post value after ∧ Invariant context after)
      (fun error after => raise error after ∧ Invariant context after) world := by
  have hsound := hsafe.sound hmoment
  rw [hfailing] at hsound
  refine wp.refine ?_ hsound
  exact fun _ _ _ after hstep => ⟨refines_failing _ _ _ _ hstep, hassumed after⟩

/-- In a context that fits the command, every operation is within its guard, and the
invariant holds where it is performed and where the command ends. -/
theorem sound_command (context : Context) (command : Command) {timestamp : Timestamp}
    (hfailing : context.surroundings = Surroundings.failing surroundings)
    (hmoment : Moment context world) (hassumed : ∀ after, context.assumed after)
    (hsince : context.since ≤ timestamp) (hpast : timestamp ≤ world.outside.clock)
    (hdrawn : context.drawnFrom ≤ world.outside.nextId)
    (hok : CommandOk context timestamp world command) :
    wp (brokerHandler surroundings) (fun op after => StepOk context op after ∧ Invariant context after)
      (command.body context.paths timestamp) (fun _ => Invariant context)
      (fun _ => Invariant context) world := by
  have hready : Ready context timestamp world :=
    ⟨hsince, hpast, hdrawn, counted_failing hfailing⟩
  exact (wp_of_safe hfailing hassumed hmoment (safe_body hready hok)).weaken (fun _ _ h => h.2)
    fun _ _ h => h.2

theorem sound_body {command : Command} {timestamp : Timestamp}
    (hconsistent : Consistent paths world) (hpast : timestamp ≤ world.outside.clock) :
    wp (brokerHandler surroundings)
      (fun op after => StepOk (Command.context command paths surroundings timestamp world) op after ∧
        Consistent paths after)
      (command.body paths timestamp) (fun _ => Consistent paths) (fun _ => Consistent paths)
      world := by
  have hmoment : Moment (Command.context command paths surroundings timestamp world) world :=
    moment_of_consistent (fun _ => id) (fun _ => id) trivial hconsistent
  have hsound := sound_command _ command rfl hmoment (fun _ => trivial) le_rfl hpast le_rfl
    commandOk_context
  exact hsound.mono (fun _ _ h => ⟨h.1, h.2.toConsistent⟩) (fun _ _ h => h.toConsistent)
    fun _ _ h => h.toConsistent

/-- A command keeps the files consistent wherever it stops. -/
theorem Consistent.steps {command : Command} {timestamp : Timestamp}
    {rest : Broker command.Reply} (hconsistent : Consistent paths world)
    (hpast : timestamp ≤ world.outside.clock)
    (hsteps : Steps (brokerHandler surroundings) (command.body paths timestamp) world rest after) :
    Consistent paths after :=
  ((sound_body hconsistent hpast).mono (fun _ _ h => h.2) (fun _ _ h => h)
    fun _ _ h => h).stopped hsteps

/-- The files are consistent in every world that is reached. -/
theorem Run.consistent (hrun : Run paths surroundings world) : Consistent paths world := by
  induction hrun with
  | fresh hfresh => exact hfresh.consistent
  | command _ hpast hsteps ih => exact Consistent.steps ih hpast hsteps
  | time _ hsettles ih => exact (Settles.kept hsettles).consistent ih

/-- A scripted command is a command of a run. -/
theorem Run.script (hrun : Run paths .arbitrary world) (script : Script) (command : Command)
    {timestamp : Timestamp} (hpast : timestamp ≤ world.outside.clock) :
    Run paths .arbitrary ((command.body paths timestamp).run script.respond 0 world).2 :=
  .command hrun hpast (script.sound_respond.run_steps _ 0 world)

theorem fresh_singleHost : Fresh singleHost where
  registry := rfl
  leases := rfl
  pins := rfl
  ledger := rfl
  devicesDrawn := by
    intro device hdevice
    rw [List.mem_singleton.mp hdevice]
    decide
  boundDrawn := by
    rintro config ⟨⟩ simulatorId hbound
    rw [List.mem_singleton.mp hbound]
    decide

end Runs

end SimulatorBroker.Runs
