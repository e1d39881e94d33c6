import SimulatorBroker.Runs.Live

/-!
# Holders

One lease for an alias, a registry that names it, and no simulator shut down, erased or deleted
under its holder: in every run, wherever commands fail or crash.
-/

namespace SimulatorBroker.Runs

open SimulatorBroker.Effects
open SimulatorBroker.State
open SimulatorBroker.Broker
open SimulatorBroker.Safety

variable {paths : BrokerPaths} {surroundings : Surroundings} {world middle after : World}

/-! ## One lease for an alias -/

/-- No two lease files have an id, an alias or an artifact path in common, and each is on an alias
of the host config. -/
structure Exclusive (paths : BrokerPaths) (world : World) : Prop where
  ids : (world.store.leases.map (·.leaseId)).Nodup
  aliases : (world.store.leases.map (·.aliasName)).Nodup
  artifacts : ∀ lease ∈ world.store.leases, ∀ other ∈ world.store.leases,
    lease.leaseId ≠ other.leaseId → Apart paths lease other
  configured : ∀ lease ∈ world.store.leases, lease.aliasName ∈ world.store.configuredAliases

/-- A lease file is written only where no other lease stands on its alias, and the host config is
replaced only by one that keeps the alias of every lease. -/
def KeepsExclusive (world : World) : BrokerOp → Prop
  | .rename (.lease record) => ∀ other ∈ world.store.leases, other.leaseId ≠ record.leaseId →
      other.aliasName ≠ record.aliasName
  | .rename (.hostConfig config) => ∀ lease ∈ world.store.leases,
      lease.aliasName ∈ config.aliasNames
  | _ => True

theorem exclusive_of_consistent (hconsistent : Consistent paths world) : Exclusive paths world :=
  ⟨hconsistent.leaseIds, hconsistent.leaseAliases, hconsistent.leaseApart,
    hconsistent.leaseConfigured⟩

theorem keepsExclusive_of_stepOk {context : Context} {op : BrokerOp}
    (hspared : ∀ leaseId, ¬ context.spared leaseId)
    (hrolledBack : ∀ leaseId, ¬ context.rolledBack leaseId) (hassumed : context.assumed world)
    (hconsistent : Consistent context.paths world) (hok : StepOk context op world) :
    KeepsExclusive world op := by
  cases op with
  | rename file =>
      cases file with
      | lease record =>
          have hmoment := moment_of_consistent hspared hrolledBack hassumed hconsistent
          exact LeaseWriteOk.fresh hmoment.toInvariant hok
      | hostConfig config => exact HostWriteOk.leases hok
      | _ => trivial
  | _ => trivial

/-! ## Destructive calls -/

/-- What the call site of a shutdown, an erase or a delete is entitled to for every alias that the
host config on disk binds to the simulator; the deletions of a capacity transaction are left to its
journal. -/
def RespectsHolders (context : Context) (world : World) : BrokerOp → Prop
  | .shutdownDevice simulatorId site | .eraseDevice simulatorId site
  | .deleteDevice simulatorId site =>
      site ≠ .capacity → ∀ config, world.store.hostConfig = some config →
        ∀ hostAlias ∈ config.aliases, hostAlias.simulatorId = simulatorId →
          Permitted context world hostAlias site
  | _ => True

theorem respectsHolders_of_stepOk {context : Context} {op : BrokerOp}
    (hok : StepOk context op world) : RespectsHolders context world op := by
  cases op with
  | shutdownDevice simulatorId site => exact fun _ => hok
  | eraseDevice simulatorId site => exact fun _ => hok
  | deleteDevice simulatorId site => exact fun _ => hok
  | _ => trivial

/-! ## A registry that names the lease -/

/-- The commands that return only after a state load that was written. -/
def persistsState : Command → Bool
  | .acquire _ | .register _ | .contain _ _ | .release _ | .createPin _ | .clearPin _
  | .lifecycle _ _ | .deleteSimulator _ | .deletePurpose _ | .hostStatus | .explain _ _
  | .forgetProject _ | .init _ | .setup _ _ | .idleStatus => true
  | _ => false

/-- The commands that load no state of their own; a confirmed idle cleanup writes back the
registry that is on disk. -/
def keepsState : Command → Bool
  | .validateProject | .enableIdle _ _ | .disableIdle _ | .previewIdleCleanup | .appSnapshot _
  | .applyIdleCleanup _ _ _ => true
  | _ => false

/-- The worlds after a command that persisted the state it loaded, and after further commands that
returned; what came before it may have failed or crashed anywhere. -/
inductive AgreedRun (paths : BrokerPaths) (surroundings : Surroundings) : World → Prop where
  | persisted {world after : World} {command : Command} {timestamp : Timestamp}
      {value : command.Reply} (before : Run paths surroundings world)
      (persists : persistsState command = true) (past : timestamp ≤ world.outside.clock)
      (steps : Steps (brokerHandler surroundings) (command.body paths timestamp) world (.done value)
        after) : AgreedRun paths surroundings after
  | kept {world after : World} {command : Command} {timestamp : Timestamp}
      {value : command.Reply} (before : AgreedRun paths surroundings world)
      (keeps : keepsState command = true) (past : timestamp ≤ world.outside.clock)
      (steps : Steps (brokerHandler surroundings) (command.body paths timestamp) world (.done value)
        after) : AgreedRun paths surroundings after
  | time {world after : World} (before : AgreedRun paths surroundings world)
      (settles : Settles surroundings world after) : AgreedRun paths surroundings after

theorem AgreedRun.run (hrun : AgreedRun paths surroundings world) :
    Run paths surroundings world := by
  induction hrun with
  | persisted hbefore _ hpast hsteps => exact .command hbefore hpast hsteps
  | kept _ _ hpast hsteps ih => exact .command ih hpast hsteps
  | time _ hsettles ih => exact .time ih hsettles

section Commands

variable {context : Context} {timestamp : Timestamp}

theorem safe_persisting {command : Command} (hpersists : persistsState command = true)
    (hready : Ready context timestamp world) (hok : CommandOk context timestamp world command) :
    Safe context (command.body context.paths timestamp) (fun _ after => Agree after)
      (fun _ _ => True) world := by
  have hagree : ∀ {α : Type} {body : Broker α},
      Safe context body (fun _ after => Settled context after)
        (fun _ after => Counted context after) world →
      Safe context body (fun _ after => Agree after) (fun _ _ => True) world :=
    fun hbody => hbody.weaken (fun _ _ _ h => h.1) fun _ _ _ _ => trivial
  cases command with
  | acquire options => exact hagree (safe_acquireLeaseBroker hready)
  | register options => exact hagree (safe_registerLeaseProcessBroker hready hok.1 hok.2)
  | contain reference reason => exact hagree (safe_containLeaseBroker hready hok)
  | release reference => exact hagree (safe_releaseLeaseBroker hready hok)
  | createPin options =>
      exact hagree (safe_settledUnderLock hready.counted fun _ hlocked =>
        safe_createPin (hready.kept hlocked.toKept))
  | clearPin name =>
      exact hagree (safe_settledUnderLock hready.counted fun _ hlocked =>
        safe_clearPin (hready.kept hlocked.toKept))
  | lifecycle action options => exact hagree (safe_lifecycleActionBroker hok hready)
  | deleteSimulator name => exact hagree (safe_deleteSimulatorBroker hready hok)
  | deletePurpose purposeId => exact hagree (safe_deletePurposeSimulatorsBroker hready)
  | hostStatus =>
      exact (safe_hostStatusBroker hready).weaken (fun _ _ _ h => h.2.1) fun _ _ _ _ => trivial
  | explain purposeId explicitAlias => exact hagree (safe_explainLeaseBroker hready)
  | forgetProject projectId =>
      exact hagree (safe_settledUnderLock hready.counted fun _ hlocked =>
        safe_forgetKnownProject (hready.kept hlocked.toKept))
  | init options => exact hagree (safe_initBroker hok hready)
  | setup planner options => exact hagree (safe_applySetupBroker hok hready)
  | idleStatus => exact hagree (safe_idleStatusBroker hready)
  | _ => cases hpersists

theorem still_validateProjectBroker :
    Safe context validateProjectBroker (fun _ after => Kept world after)
      (fun _ after => Kept world after) world := by
  refine safe_withLock (fun _ => stable_kept) stable_kept (fun _ _ h => h) (.refl world)
    fun locked hlocked => ?_
  refine .seq (safe_read rfl (by simp)) (fun _ _ _ h => hlocked.toKept.trans h.1.toKept)
    fun project read hread => ?_
  have hkept : Kept world read := hlocked.toKept.trans hread.2.toKept
  exact .seq safe_rememberKnownProjectFromDisk (fun _ _ _ h => hkept.trans h)
    fun _ _ hremembered => .pure (hkept.trans hremembered)

theorem safe_keeping {command : Command} (hkeeps : keepsState command = true)
    (hready : Ready context timestamp world) (hok : CommandOk context timestamp world command)
    (hagree : Agree world) :
    Safe context (command.body context.paths timestamp) (fun _ after => Agree after)
      (fun _ _ => True) world := by
  have hkept : ∀ {α : Type} {body : Broker α},
      Safe context body (fun _ after => Kept world after) (fun _ after => Kept world after) world →
      Safe context body (fun _ after => Agree after) (fun _ _ => True) world :=
    fun hbody => hbody.weaken (fun _ _ _ h => h.agree hagree) fun _ _ _ _ => trivial
  have hstill : ∀ {α : Type} {body : Broker α},
      Safe context body (fun _ after => Still world after) (fun _ after => Still world after) world →
      Safe context body (fun _ after => Agree after) (fun _ _ => True) world :=
    fun hbody => hbody.weaken (fun _ _ _ h => h.toKept.agree hagree) fun _ _ _ _ => trivial
  cases command with
  | validateProject => exact hkept still_validateProjectBroker
  | enableIdle actor graceSeconds => exact hstill safe_enableIdlePolicyBroker
  | disableIdle actor => exact hstill safe_disableIdlePolicyBroker
  | previewIdleCleanup => exact hstill safe_previewIdleCleanupBroker
  | appSnapshot skipLeaseIds => exact hkept safe_writeAppSnapshotArtifactUnderMutationLock
  | applyIdleCleanup actor confirmPlanId persistNoChanges =>
      exact (safe_applyIdleCleanupBroker hok hready).weaken (fun _ _ _ h => h.2 hagree)
        fun _ _ _ _ => trivial
  | _ => cases hkeeps

end Commands

/-- A command that returned, in the context that assumes nothing of it. -/
theorem agree_of_safe {command : Command} {timestamp : Timestamp} {value : command.Reply}
    (hconsistent : Consistent paths world) (hpast : timestamp ≤ world.outside.clock)
    (hsafe : Ready (Command.context command paths surroundings timestamp world) timestamp world →
      Safe (Command.context command paths surroundings timestamp world)
        (command.body paths timestamp) (fun _ after => Agree after) (fun _ _ => True) world)
    (hsteps : Steps (brokerHandler surroundings) (command.body paths timestamp) world (.done value)
      after) : Agree after := by
  have hmoment : Moment (Command.context command paths surroundings timestamp world) world :=
    moment_of_consistent (fun _ => id) (fun _ => id) trivial hconsistent
  have hready : Ready (Command.context command paths surroundings timestamp world) timestamp world :=
    ⟨le_rfl, hpast, le_rfl, counted_failing rfl⟩
  exact ((wp_of_safe rfl (fun _ => trivial) hmoment (hsafe hready)).returned hsteps).1

/-! ## A deleted simulator -/

/-- The destructive call that the rest of a command makes next. -/
def nextDestructive {α : Type} : Broker α → Option (SimulatorId × DeviceSite)
  | .perform (.deleteDevice simulatorId site) _ => some (simulatorId, site)
  | _ => none

/-- An undisturbed delete of the alias, up to the call that deletes its simulator. -/
def deletingPoint : Broker Bool × World :=
  ((Command.deleteSimulator "build-1").body {} 0).runFor ({} : Script).respond 28 0 singleHost

theorem performs_delete : Performs (brokerHandler .arbitrary)
    ((Command.deleteSimulator "build-1").body {} 0) singleHost (.deleteDevice 0 .delete)
    deletingPoint.2 := by
  have hsteps : Steps (brokerHandler .arbitrary) ((Command.deleteSimulator "build-1").body {} 0)
      singleHost deletingPoint.1 deletingPoint.2 :=
    ({} : Script).sound_respond.runFor_steps 28 _ 0 singleHost
  have hnext : nextDestructive deletingPoint.1 = some (0, .delete) := by decide +kernel
  generalize deletingPoint.1 = rest at hsteps hnext
  unfold nextDestructive at hnext
  split at hnext
  · cases hnext
    exact ⟨_, hsteps⟩
  · cases hnext

/-! ## Two leases -/

/-- A second alias like the first, bound to a simulator of its own. -/
def pairedHost : World where
  store := {
    hostConfig := some {
      hostId := "mac"
      aliases := [{
        aliasName := "build-1", capabilities := ["build-fast"], deviceFamily := .iPhone
        displayName := "Build 1", iosVersion := "18.0", resetPolicy := .none, simulatorId := 0 }, {
        aliasName := "build-2", capabilities := ["build-fast"], deviceFamily := .iPhone
        displayName := "Build 2", iosVersion := "18.0", resetPolicy := .none, simulatorId := 1 }] } }
  outside := { singleHost.outside with
    nextDevice := 2
    devices := [{
      udid := 0, deviceTypeIdentifier := "iPhone-16", name := "Build 1"
      runtimeIdentifier := "iOS-18-0" }, {
      udid := 1, deviceTypeIdentifier := "iPhone-16", name := "Build 2"
      runtimeIdentifier := "iOS-18-0" }] }

theorem fresh_pairedHost : Fresh pairedHost where
  registry := rfl
  leases := rfl
  pins := rfl
  ledger := rfl
  devicesDrawn := by simp [pairedHost, Outside.DevicesDrawn]
  boundDrawn := by
    rintro config ⟨⟩ simulatorId hbound
    obtain rfl | rfl : simulatorId = 0 ∨ simulatorId = 1 := by
      simpa [HostConfig.simulatorIds] using hbound
    · decide
    · decide

/-- The world that a command leaves whose owner lives. -/
def leaves (command : Command) (world : World) : World :=
  ((command.body {} 0).run holderScript.respond 0 world).2

theorem steps_returned (command : Command) (world : World)
    (hok : ((command.body {} 0).run holderScript.respond 0 world).1.isOk = true) :
    ∃ value, Steps (brokerHandler .arbitrary) (command.body {} 0) world (.done value)
      (leaves command world) := by
  have hsteps := holderScript.sound_respond.run_steps (command.body {} 0) 0 world
  unfold leaves
  generalize (command.body {} 0).run holderScript.respond 0 world = outcome at hok hsteps
  obtain ⟨answer, last⟩ := outcome
  cases answer with
  | ok value => exact ⟨value, hsteps⟩
  | error error => cases hok

/-- One alias is leased, the other is free. -/
def onceLeasedWorld : World := leaves holding pairedHost

theorem run_onceLeasedWorld : Run {} .arbitrary onceLeasedWorld :=
  (Run.fresh fresh_pairedHost).script holderScript holding (Nat.zero_le _)

/-- The lease file that the rest of a command writes next. -/
def nextLeaseWrite {α : Type} : Broker α → Option Lease
  | .perform (.rename (.lease record)) _ => some record
  | _ => none

/-- A further acquire, up to the write of its lease file. -/
def leasingPoint : Broker holding.Reply × World :=
  (holding.body {} 0).runFor holderScript.respond 37 0 onceLeasedWorld

theorem performs_leaseWrite : ∃ record, record.aliasName = "build-2" ∧
    Performs (brokerHandler .arbitrary) (holding.body {} 0) onceLeasedWorld
      (.rename (.lease record)) leasingPoint.2 := by
  have hsteps : Steps (brokerHandler .arbitrary) (holding.body {} 0) onceLeasedWorld
      leasingPoint.1 leasingPoint.2 :=
    holderScript.sound_respond.runFor_steps 37 _ 0 onceLeasedWorld
  have hnext : (nextLeaseWrite leasingPoint.1).map (·.aliasName) = some "build-2" := by
    decide +kernel
  generalize leasingPoint.1 = rest at hsteps hnext
  unfold nextLeaseWrite at hnext
  split at hnext
  · exact ⟨_, Option.some_inj.mp hnext, _, hsteps⟩
  · cases hnext

/-- Both aliases are leased. -/
def twiceLeasedWorld : World := leaves holding onceLeasedWorld

/-- The operator sets an idle policy. -/
abbrev enabling : Command := .enableIdle { actorType := "human", actorId := some "operator" } 600

def policedWorld : World := leaves enabling twiceLeasedWorld

/-! ## In every run -/

/-- At every moment of every run, inside commands and between them. -/
theorem exclusive_of_run (hrun : Run paths surroundings world) :
    Exclusive paths world ∧
      ∀ (command : Command) (timestamp : Timestamp) (op : BrokerOp) (middle : World),
        timestamp ≤ world.outside.clock →
        Performs (brokerHandler surroundings) (command.body paths timestamp) world op middle →
        Exclusive paths middle ∧ KeepsExclusive middle op := by
  refine ⟨exclusive_of_consistent hrun.consistent, ?_⟩
  intro command timestamp op middle hpast hperforms
  obtain ⟨hok, hconsistent⟩ := (sound_body hrun.consistent hpast).guarded hperforms
  exact ⟨exclusive_of_consistent hconsistent,
    keepsExclusive_of_stepOk (fun _ => id) (fun _ => id) trivial hconsistent hok⟩

theorem exclusive_leasingPoint :
    leasingPoint.2.store.leases.map (·.aliasName) = ["build-1"] ∧ Exclusive {} leasingPoint.2 ∧
      ∃ record, record.aliasName = "build-2" ∧
        KeepsExclusive leasingPoint.2 (.rename (.lease record)) := by
  obtain ⟨record, halias, hwrites⟩ := performs_leaseWrite
  obtain ⟨hexclusive, hkeeps⟩ :=
    (exclusive_of_run run_onceLeasedWorld).2 _ 0 _ _ (Nat.zero_le _) hwrites
  exact ⟨by decide +kernel, hexclusive, record, halias, hkeeps⟩

/-- After a command that persisted its state, for every alias of the host config the registry on disk
names the lease on it, or none where there is none; commands that load no state keep that. -/
theorem agree_of_agreedRun (hrun : AgreedRun paths surroundings world) : Agree world := by
  induction hrun with
  | persisted hbefore hpersists hpast hsteps =>
      exact agree_of_safe hbefore.consistent hpast
        (fun hready => safe_persisting hpersists hready commandOk_context) hsteps
  | kept hbefore hkeeps hpast hsteps ih =>
      exact agree_of_safe hbefore.run.consistent hpast
        (fun hready => safe_keeping hkeeps hready commandOk_context ih) hsteps
  | time _ hsettles ih => exact (Settles.kept hsettles).agree ih

theorem agree_policedWorld :
    policedWorld.store.leases.map (·.aliasName) = ["build-2", "build-1"] ∧ Agree policedWorld := by
  obtain ⟨_, hleased⟩ := steps_returned holding onceLeasedWorld (by decide +kernel)
  obtain ⟨_, henabled⟩ := steps_returned enabling twiceLeasedWorld (by decide +kernel)
  exact ⟨by decide +kernel, agree_of_agreedRun (.kept
    (.persisted run_onceLeasedWorld rfl (Nat.zero_le _) hleased) rfl (Nat.zero_le _) henabled)⟩

/-- No command of a run takes a simulator from under its holder. -/
theorem respectsHolders_of_run {command : Command} {timestamp : Timestamp} {op : BrokerOp}
    (hrun : Run paths surroundings world) (hpast : timestamp ≤ world.outside.clock)
    (hperforms : Performs (brokerHandler surroundings) (command.body paths timestamp) world op
      middle) :
    RespectsHolders (Command.context command paths surroundings timestamp world) middle op :=
  respectsHolders_of_stepOk ((sound_body hrun.consistent hpast).guarded hperforms).1

theorem respectsHolders_deletingPoint :
    RespectsHolders (Command.context (.deleteSimulator "build-1") {} .arbitrary 0 singleHost)
      deletingPoint.2 (.deleteDevice 0 .delete) :=
  respectsHolders_of_run (.fresh fresh_singleHost) (Nat.zero_le _) performs_delete

end SimulatorBroker.Runs
