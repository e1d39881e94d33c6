import SimulatorBroker.Broker.Static

/-!
# Sections under the lease lock

What changes the fleet takes both locks first and then never touches the lease lock until it is
done.
-/

namespace SimulatorBroker.Broker

open SimulatorBroker.Effects
open SimulatorBroker.State

/-- Neither taken nor released. -/
def sparesLock : BrokerOp → Bool
  | .lock .lease | .unlock .lease => false
  | _ => true

/-- The program never touches the lease lock. -/
abbrev Unlocking {α : Type} (body : Broker α) : Prop :=
  body.All fun op => sparesLock op = true

variable {α : Type} {paths : BrokerPaths} {timestamp : Timestamp} {state : BrokerState}
  {config : HostConfig} {hostAlias : HostAlias} {simulatorId : SimulatorId}

theorem unlocking_of_static {body : Broker α} (hbody : Static body) : Unlocking body := by
  refine hbody.mono fun op hordinary => ?_
  cases op with
  | lock name => cases name <;> first | rfl | cases hordinary
  | unlock name => cases name <;> first | rfl | cases hordinary
  | _ => rfl

theorem unlocking_of_passive {body : Broker α} (hbody : Passive body) : Unlocking body :=
  unlocking_of_static (static_of_passive hbody)

/-- What a command of the broker is. -/
inductive Bracketed : Broker α → Prop where
  | refused (error : BrokerError) : Bracketed (throw error)
  | lease {work : Broker α} (spares : Unlocking work) : Bracketed (withLock .lease work)
  | both {work : Broker α} (spares : Unlocking work) :
      Bracketed (withLock .capacity (withLock .lease work))

theorem bracketed_of_section {body : Broker α} (hsection : Section body) : Bracketed body := by
  cases hsection with
  | refused error => exact .refused error
  | lease hstatic => exact .lease (unlocking_of_static hstatic)

/-! ## Simulators -/

theorem unlocking_deleteAliasSimulator {site : DeviceSite} :
    Unlocking (deleteAliasSimulator simulatorId site) :=
  .bind (.request rfl) fun _ => .request rfl

theorem unlocking_ensureAliasSimulator {template : AliasTemplate} {current : Option SimulatorId}
    {deferred : Bool} : Unlocking (ensureAliasSimulator locale template current deferred) := by
  unfold ensureAliasSimulator selectRuntimeForAlias selectPreferredDeviceType
  refine .bind (.bind (.request rfl) fun runtimes => ?_) fun runtime => .bind ?_ fun deviceType =>
    .bind (unlocking_of_passive passive_readSimctlInventory) fun inventory => ?_
  · split
    · exact .throw _
    · exact .pure _
  · split
    · exact .throw _
    · exact .pure _
  · simp only
    split
    · split
      · exact .bind (.request rfl) fun _ => .pure _
      · exact .pure _
    · split
      · exact .pure _
      · split
        · exact .bind unlocking_deleteAliasSimulator fun _ => .bind (.request rfl) fun _ => .pure _
        · exact .bind (.request rfl) fun _ => .pure _

theorem unlocking_rollbackCreatedSimulators {created : List SimulatorId}
    {attribution : Option (List SimulatorId × List String)} :
    Unlocking (rollbackCreatedSimulators created attribution) := by
  have hdelete : ∀ failures simulatorId, Unlocking (rollbackDelete failures simulatorId) :=
    fun _ _ => .tryCatch (.bind (.request rfl) fun _ => .pure _) fun _ => .pure _
  have hdeletes : ∀ planned : List SimulatorId × List RollbackFailure,
      Unlocking ((created ++ planned.1).eraseDups.reverse.foldlM rollbackDelete planned.2) :=
    fun planned => .foldlM hdelete _ _
  unfold rollbackCreatedSimulators
  simp only
  split
  · exact .bind (.pure _) hdeletes
  · exact .bind (.tryCatch (.bind (unlocking_of_passive passive_readSimctlInventory) fun _ =>
      .pure _) fun _ => .pure _) hdeletes

theorem unlocking_retirePendingHostSimulators {pendingIds : List SimulatorId} {next : HostConfig} :
    Unlocking (retirePendingHostSimulators pendingIds next) := by
  unfold retirePendingHostSimulators
  split
  · exact .pure _
  · refine .bind (unlocking_of_passive passive_readSimctlInventory) fun inventory =>
      .foldlM (fun failed simulatorId => ?_) _ _
    unfold retireSimulator
    split
    · exact .pure _
    · exact .tryCatch (.bind unlocking_deleteAliasSimulator fun _ => .pure _) fun _ => .pure _

/-! ## The host config -/

theorem unlocking_writeHostConfig : Unlocking (writeHostConfig config) := by
  unfold writeHostConfig writeJsonAtomicRestricted
  exact .bind (.request rfl) fun _ => .bind (.request rfl) fun _ => .bind (.request rfl)
    fun _ => .bind (.request rfl) fun _ => .request rfl

theorem unlocking_writeJsonAtomicDurable : Unlocking (writeJsonAtomicDurable config) := by
  unfold writeJsonAtomicDurable
  refine .bind (.request rfl) fun _ => .bind (.tryCatch (.bind (.request rfl) fun _ =>
    .bind (.tryCatch ?_ fun _ => ?_) fun _ => .request rfl) fun _ =>
      .bind (.request rfl) fun _ => .throw _) fun _ => .tryCatch ?_ fun _ => .throw _
  · exact .bind (.request rfl) fun _ => .bind (.request rfl) fun _ => .request rfl
  · exact .bind (unlocking_of_static (static_ignoringErrors (.request rfl))) fun _ => .throw _
  · exact .bind (.request rfl) fun _ => .ensuring (.request rfl) (.request rfl)

/-! ## Repair -/

theorem unlocking_repairHostAlias : Unlocking (repairHostAlias locale config hostAlias) := by
  unfold repairHostAlias rollbackCreatedAliasSimulator
  refine .bind unlocking_ensureAliasSimulator fun provisioned =>
    .bind (.tryCatch unlocking_writeJsonAtomicDurable fun error => ?_) fun _ =>
      .bind unlocking_retirePendingHostSimulators fun _ =>
        .bind unlocking_writeJsonAtomicDurable fun _ => .pure _
  split
  · exact .bind (.tryCatch unlocking_deleteAliasSimulator fun _ => .pure _) fun _ => .throw _
  · exact .throw _

theorem unlocking_runRepairAction {requester : LifecycleRequester} :
    Unlocking (runRepairAction locale state hostAlias requester timestamp) := by
  unfold runRepairAction invokeLifecycleAdapter
  have hwrite : ∀ (registry : Registry) (note : RegistryNote),
      Unlocking (writeRegistry registry note) := fun _ _ => unlocking_of_static static_writeRegistry
  have happend : ∀ event : Event, Unlocking (appendEventRecord event) :=
    fun _ => unlocking_of_static static_appendEventRecord
  refine .bind (hwrite _ _) fun _ => .bind (happend _) fun _ => .bind (.tryCatch
    (.tryCatch unlocking_repairHostAlias fun error => ?_) fun error => ?_) fun _ =>
      .bind (hwrite _ _) fun _ => .bind (happend _) fun _ => .pure _
  · split
    · exact .throw _
    · exact .throw _
  · exact .bind (hwrite _ _) fun _ => .bind (happend _) fun _ => .throw _

theorem unlocking_runLifecycleAction {action : LifecycleAction} {options : LifecycleOptions} :
    Unlocking (runLifecycleAction paths action options) := by
  by_cases hrepair : action = .repair
  · subst hrepair
    unfold runLifecycleAction
    refine .bind (.request rfl) fun now => .bind (unlocking_of_static static_loadBrokerState)
      fun state => .bind (unlocking_of_static static_findHostAliasOrThrow) fun hostAlias => ?_
    split
    · exact .throw _
    · exact .bind (unlocking_of_static static_resolveLifecycleRequester) fun _ =>
        .bind (unlocking_of_static static_assertLifecycleHealth) fun _ =>
          .bind (unlocking_of_static static_admitLifecycleRequester) fun _ =>
            .bind unlocking_runRepairAction fun _ => .pure _
  · exact unlocking_of_static (static_runLifecycleAction hrepair)

theorem unlocking_repairPurposeSimulators {options : PurposeOptions} :
    Unlocking (repairPurposeSimulators paths options) := by
  unfold repairPurposeSimulators
  refine .bind (.request rfl) fun now => .bind (unlocking_of_static static_loadBrokerState)
    fun state => .bind (.request rfl) fun project =>
      .bind (unlocking_of_passive passive_getPurpose) fun purpose =>
        .bind (.foldlM (fun counts candidate => ?_) _ _) fun counts => ?_
  · unfold repairCandidate
    split
    · exact .pure _
    · split
      · exact .pure _
      · refine .tryCatch (.bind unlocking_runLifecycleAction fun _ => .pure _) fun error => ?_
        split
        · exact .pure _
        · exact .pure _
  · split
    · exact .throw _
    · split
      · exact .throw _
      · exact .pure _

/-! ## Deletes -/

theorem unlocking_deleteAliasUnderHeldLocks {name : AliasName} {failed : List AliasName} :
    Unlocking (deleteAliasUnderHeldLocks state name failed timestamp) := by
  have hremoved : Unlocking (removeDeletedAliasRecords state name failed timestamp) := by
    unfold removeDeletedAliasRecords
    refine .bind (.attempt unlocking_writeHostConfig) fun written => ?_
    cases written with
    | error error => exact .pure _
    | ok value =>
        refine .bind (.attempt (unlocking_of_static static_writeRegistry)) fun recorded => ?_
        cases recorded with
        | error error => exact .pure _
        | ok value =>
            exact .bind (unlocking_of_static static_appendEventRecord) fun _ => .pure _
  unfold deleteAliasUnderHeldLocks
  split
  · exact .pure _
  · refine .bind (.attempt (unlocking_of_static static_assertAliasCanBeDeleted)) fun admitted => ?_
    cases admitted with
    | error error => exact .pure _
    | ok value =>
        refine .bind (.attempt (unlocking_of_passive passive_readSimctlInventory)) fun listed => ?_
        cases listed with
        | error error => exact .pure _
        | ok inventory =>
            simp only
            split
            · refine .bind (.attempt unlocking_deleteAliasSimulator) fun deleted => ?_
              cases deleted with
              | ok value => exact hremoved
              | error error =>
                  unfold failedDelete persistDeleteFailure
                  refine .bind (.attempt (.bind (unlocking_of_static static_writeRegistry)
                    fun _ => .bind (unlocking_of_static static_appendEventRecord) fun _ =>
                      .pure _)) fun persisted => ?_
                  cases persisted with
                  | error error => exact .pure _
                  | ok value => exact .pure _
            · exact hremoved

theorem unlocking_deleteSimulator {name : AliasName} : Unlocking (deleteSimulator paths name) := by
  unfold deleteSimulator
  refine .bind (.request rfl) fun now => .bind (unlocking_of_static static_loadBrokerState)
    fun state => .bind unlocking_deleteAliasUnderHeldLocks fun outcome => ?_
  split
  · exact .pure _
  · exact .throw _

theorem unlocking_deletePurposeSimulators {purposeId : PurposeId} :
    Unlocking (deletePurposeSimulators paths purposeId) := by
  unfold deletePurposeSimulators
  refine .bind (.request rfl) fun now => .bind (unlocking_of_static static_loadBrokerState)
    fun state => .bind (.request rfl) fun project =>
      .bind (unlocking_of_passive passive_getPurpose) fun purpose =>
        .bind (.foldlM (fun progress candidate => ?_) _ _) fun progress => ?_
  · unfold deleteCandidate
    simp only
    split
    · split
      · exact .pure _
      · exact .bind unlocking_deleteAliasUnderHeldLocks fun _ => .pure _
    · exact .pure _
  · simp only
    split
    · exact .throw _
    · split
      · exact .throw _
      · exact .pure _

/-! ## Init -/

theorem unlocking_provisionTemplates (templates : List AliasTemplate)
    {progress : ProvisionProgress} : Unlocking (provisionTemplates locale templates progress) := by
  induction templates generalizing progress with
  | nil => exact .pure _
  | cons template rest ih =>
      unfold provisionTemplates
      refine .bind (.attempt unlocking_ensureAliasSimulator) fun ensured => ?_
      cases ensured with
      | error error => exact .pure _
      | ok provisioned => exact ih

theorem unlocking_bootstrapHostConfig {options : InitOptions} {previous : Option HostConfig} :
    Unlocking (bootstrapHostConfig locale options previous) := by
  unfold bootstrapHostConfig buildProvisionedStarterHostConfig
  refine .bind (.bind (unlocking_of_passive passive_readSimctlInventory) fun baseline =>
    .bind (unlocking_provisionTemplates _) fun progress => ?_) fun provisioned => ?_
  · split
    · exact .bind unlocking_rollbackCreatedSimulators fun _ => .throw _
    · exact .pure _
  · simp only
    refine .bind (.tryCatch unlocking_writeHostConfig fun error =>
      .bind unlocking_rollbackCreatedSimulators fun _ => .throw _) fun _ => ?_
    split
    · unfold retireReplacedSimulators
      refine .bind unlocking_retirePendingHostSimulators fun failed =>
        .bind unlocking_writeHostConfig fun _ => ?_
      split
      · exact .pure _
      · exact .throw _
    · exact .pure _

theorem unlocking_initHost {options : InitOptions} :
    Unlocking (initHost paths options timestamp) := by
  have hrest : Unlocking (do
      let _ ← loadBrokerState paths { timestamp }
      let _ ← appendEventRecord { type := .hostInitialized, timestamp }) :=
    .bind (unlocking_of_static static_loadBrokerState) fun _ =>
      .bind (unlocking_of_static static_appendEventRecord) fun _ => .pure _
  unfold initHost
  simp only
  split
  · refine .bind (.request rfl) fun configExists => ?_
    split
    · refine .bind ?_ fun previous => .bind unlocking_bootstrapHostConfig fun _ => hrest
      unfold previousHostConfig assertHostConfigCanBeReplaced
      split
      · refine .bind (unlocking_of_passive passive_readHostConfigOrThrow) fun previous =>
          .bind (.bind (unlocking_of_static static_loadBrokerState) fun state => ?_) fun _ => .pure _
        split
        · exact .pure _
        · exact .throw _
      · exact .pure _
    · exact hrest
  · exact hrest

theorem bracketed_initBroker {options : InitOptions} :
    Bracketed (initBroker paths options timestamp) := by
  unfold initBroker
  split
  · exact .both unlocking_initHost
  · exact .lease unlocking_initHost

/-! ## Setup -/

theorem unlocking_createSetupDevice {baselineIds : List SimulatorId} {name : String}
    {device : SetupDevice} {progress : SetupProgress} :
    Unlocking (createSetupDevice baselineIds name device progress) := by
  unfold createSetupDevice
  simp only
  refine .bind (.attempt (.request rfl)) fun created => ?_
  cases created with
  | error error =>
      refine .bind (.attempt (unlocking_of_passive passive_readSimctlInventory)) fun listed => ?_
      cases listed with
      | error error => exact .pure _
      | ok inventory => exact .pure _
  | ok simulatorId =>
      refine .bind (.attempt (.request rfl)) fun renamed => ?_
      cases renamed with
      | error error => exact .pure _
      | ok value => exact .pure _

theorem unlocking_createSetupDevices {options : SetupOptions} {baselineIds : List SimulatorId}
    (devices : List SetupDevice) {progress : SetupProgress} :
    Unlocking (createSetupDevices options baselineIds devices progress) := by
  induction devices generalizing progress with
  | nil =>
      unfold createSetupDevices
      split
      · exact .pure _
      · exact .pure _
  | cons device rest ih =>
      unfold createSetupDevices
      split
      · exact .pure _
      · cases device.simulatorId with
        | some simulatorId => exact ih
        | none =>
            refine .bind unlocking_createSetupDevice fun created => ?_
            split
            · exact .pure _
            · exact ih

theorem unlocking_failSetup {baselineIds : List SimulatorId} {progress : SetupProgress}
    {error : BrokerError} :
    Unlocking (failSetup baselineIds progress error : Broker α) := by
  unfold failSetup
  refine .bind (.request rfl) fun exists' => ?_
  split
  · exact .throw _
  · exact .bind unlocking_rollbackCreatedSimulators fun _ => .throw _

theorem unlocking_applySetup {planner : SetupPlanner} {options : SetupOptions} :
    Unlocking (applySetup paths planner options) := by
  have hadmitted : ∀ inventory blocked, Unlocking (admitSetup options inventory blocked) := by
    intro inventory blocked
    unfold admitSetup
    split
    · exact .throw _
    · split
      · exact .throw _
      · split
        · exact .throw _
        · exact .pure _
  unfold applySetup ensureStatePaths
  refine .bind (.request rfl) fun now => .bind (unlocking_of_passive passive_readSimctlInventory)
    fun inventory => .bind (.request rfl) fun configExists => ?_
  split
  · refine .bind ?_ fun existing => .bind (hadmitted _ _) fun _ => .bind (.request rfl) fun _ =>
      .bind (unlocking_of_static static_loadBrokerState) fun _ => .pure _
    unfold existingSetupHost
    refine .tryCatch (.map (unlocking_of_passive passive_readHostConfigOrThrow)) fun error => ?_
    split
    · exact .pure _
    · exact .throw _
  · split
    · exact hadmitted _ _
    · exact .throw _
    · refine .bind (hadmitted _ _) fun _ => .bind (.request rfl) fun _ => ?_
      unfold provisionSetup
      refine .bind (unlocking_of_passive passive_readSimctlInventory) fun baseline =>
        .bind (unlocking_createSetupDevices _) fun progress => ?_
      split
      · exact unlocking_failSetup
      · unfold commitSetup
        exact .tryCatch (.bind unlocking_writeJsonAtomicDurable fun _ => .bind (.request rfl)
          fun _ => .bind (unlocking_of_static static_loadBrokerState) fun _ =>
            .bind (unlocking_of_static static_appendEventRecord) fun _ => .pure _)
          fun _ => unlocking_failSetup

/-! ## Commands -/

namespace Command

/-- The commands of which everything that changes anything is one section under the lease lock. -/
def isBracketed : Command → Bool
  | .doctor | .checkCapacity _ | .reconcileCapacity _ _ => false
  | _ => true

end Command

theorem bracketed_body {command : Command} (hbracketed : Command.isBracketed command = true) :
    Bracketed (command.body paths timestamp) := by
  by_cases hstatic : Command.mayChangeFleet command = false
  · refine bracketed_of_section (section_body hstatic ?_ ?_)
    · rintro rfl
      cases hbracketed
    · rintro options rfl
      cases hbracketed
  · cases command with
    | lifecycle action options =>
        cases action with
        | repair => exact .both unlocking_runLifecycleAction
        | _ => exact absurd rfl hstatic
    | repairPurpose options => exact .both unlocking_repairPurposeSimulators
    | deleteSimulator name => exact .both unlocking_deleteSimulator
    | deletePurpose purposeId => exact .both unlocking_deletePurposeSimulators
    | init options => exact bracketed_initBroker
    | setup planner options => exact .both unlocking_applySetup
    | reconcileCapacity planner options => cases hbracketed
    | _ => exact absurd rfl hstatic

end SimulatorBroker.Broker
