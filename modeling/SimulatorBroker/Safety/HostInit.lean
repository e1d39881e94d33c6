import SimulatorBroker.Broker.HostInit
import SimulatorBroker.Safety.Delete

/-!
# Host init and setup

A host config is only created, or replaced while there are no leases and no pins,
so nothing that either command deletes is held.
-/

namespace SimulatorBroker.Safety

open SimulatorBroker.Effects
open SimulatorBroker.State
open SimulatorBroker.Broker

variable {α : Type} {context : Context} {first world after : World} {timestamp : Timestamp}

/-! ## Nothing is held -/

/-- There are no lease files and no pins. -/
structure Unheld (world : World) : Prop where
  leases : world.store.leases = []
  pins : world.store.pins = []

theorem HostChanged.unheld (hchanged : HostChanged world after) (hunheld : Unheld world) :
    Unheld after :=
  ⟨hchanged.leases.trans hunheld.leases, hchanged.pins.trans hunheld.pins⟩

theorem Unheld.rollbackOk (hunheld : Unheld world) (simulatorId : SimulatorId) :
    DestructiveOk context world simulatorId .rollback := by
  intro config _ hostAlias _ _ lease hlease
  rw [hunheld.leases] at hlease
  cases hlease

theorem Unheld.hostWriteOk {config : HostConfig} (hunheld : Unheld world)
    (hcause : context.causeOnly = false)
    (hdrawn : ∀ simulatorId ∈ config.simulatorIds, simulatorId < world.outside.nextDevice) :
    HostWriteOk context world config where
  drawn := hdrawn
  leases lease hlease := by
    rw [hunheld.leases] at hlease
    cases hlease
  pins pin hpin := by
    rw [hunheld.pins] at hpin
    cases hpin
  caused hcauseOnly := by
    rw [hcause] at hcauseOnly
    cases hcauseOnly

/-- Without a host config nothing is held. -/
theorem unheld_of_none {paths : BrokerPaths} (hconsistent : Consistent paths world)
    (hnone : world.store.hostConfig = none) : Unheld world := by
  have hconfigured : world.store.configuredAliases = [] := by
    simp [Store.configuredAliases, hnone]
  constructor
  · refine List.eq_nil_iff_forall_not_mem.mpr fun lease hlease => ?_
    have := hconsistent.leaseConfigured lease hlease
    simp [hconfigured] at this
  · refine List.eq_nil_iff_forall_not_mem.mpr fun pin hpin => ?_
    have := hconsistent.pinConfigured pin hpin
    simp [hconfigured] at this

/-! ## The starter aliases -/

/-- The aliases provisioned so far are bound to simulators that were drawn. -/
theorem safe_provisionTemplates (templates : List AliasTemplate) {progress : ProvisionProgress}
    (hstill : Still first world)
    (hdrawn : ∀ hostAlias ∈ progress.aliases, hostAlias.simulatorId < world.outside.nextDevice) :
    Safe context (provisionTemplates locale templates progress)
      (fun progress' after => Still first after ∧ ∀ hostAlias ∈ progress'.aliases,
        hostAlias.simulatorId < after.outside.nextDevice)
      (fun _ _ => False) world := by
  induction templates generalizing progress world with
  | nil => exact .pure ⟨hstill, hdrawn⟩
  | cons template rest ih =>
      unfold provisionTemplates
      refine .seq (M := fun outcome after => match outcome with
          | .ok provisioned => Provisioned world provisioned after
          | .error _ => Still world after) (E := fun _ _ => False)
        (.attempt (safe_ensureAliasSimulator (.inl rfl))) (fun _ _ _ h => h)
        fun outcome provided hprovided => ?_
      cases outcome with
      | error error =>
          exact .pure ⟨hstill.trans hprovided, fun hostAlias hmem =>
            (hdrawn hostAlias hmem).trans_le (Still.toKept hprovided).later.nextDevice⟩
      | ok provisioned =>
          refine ih (hstill.trans hprovided.still) fun hostAlias hmem => ?_
          obtain hmem | hmem := List.mem_append.mp hmem
          · exact (hdrawn hostAlias hmem).trans_le hprovided.still.later.nextDevice
          · rw [List.mem_singleton.mp hmem]
            exact hprovided.drawn

theorem safe_buildProvisionedStarterHostConfig {hostId iosVersion : String}
    (hunheld : Unheld world) :
    Safe context (buildProvisionedStarterHostConfig locale hostId iosVersion)
      (fun provisioned after => Still world after ∧
        ∀ simulatorId ∈ provisioned.hostConfig.simulatorIds, simulatorId < after.outside.nextDevice)
      (fun _ after => Still world after) world := by
  unfold buildProvisionedStarterHostConfig
  dsimp only
  refine .seq safe_readSimctlInventory (fun _ _ _ h => h.1) fun baseline listed hlisted => ?_
  refine .seq (safe_provisionTemplates _ hlisted.1 (by simp)) (fun _ _ _ h => h.elim)
    fun progress provided hprovided => ?_
  obtain ⟨hstill, hdrawn⟩ := hprovided
  cases progress.error with
  | none =>
      refine .pure ⟨hstill, fun simulatorId hmem => ?_⟩
      obtain ⟨hostAlias, hbound, rfl⟩ := List.mem_map.mp hmem
      exact hdrawn hostAlias hbound
  | some error =>
      have hfree := hstill.hostChanged.unheld hunheld
      refine .seq (E := fun _ _ => False) (safe_rollbackCreatedSimulators
        (fun simulatorId _ => hfree.rollbackOk simulatorId) fun _ => hfree.rollbackOk)
        (fun _ _ _ h => h.elim) fun failures rolledBack hrolledBack => ?_
      exact .throw (hstill.trans hrolledBack)

/-! ## Replacing the host config -/

/-- A host config is replaced only where a load finds no lease and no pin. -/
theorem safe_previousHostConfig {configExists : Bool} (hready : Ready context timestamp world)
    (hexists : configExists = false → Unheld world) :
    Safe context (previousHostConfig context.paths configExists timestamp)
      (fun _ after => Ready context timestamp after ∧ Unheld after)
      (fun _ after => Counted context after) world := by
  unfold previousHostConfig
  cases configExists with
  | false => exact .pure ⟨hready, hexists rfl⟩
  | true =>
      refine .seq safe_readHostConfigOrThrow (fun _ _ _ h => h.toKept.counted hready.counted)
        fun previous read hread => ?_
      replace hready := hready.kept hread.2.toKept
      refine .seq (M := fun _ after => Ready context timestamp after ∧ Unheld after) ?_
        (fun _ _ _ h => h) fun _ replaced hreplaced => .pure hreplaced
      unfold assertHostConfigCanBeReplaced
      refine .seq (safe_loadBrokerState hready.counted hready.loadOk) (fun _ _ _ h => h.2)
        fun state loaded hloaded => ?_
      split
      · rename_i hnone
        refine .pure ⟨hloaded.ready hready, ?_, ?_⟩
        · exact List.nil_perm.mp (hnone.1 ▸ hloaded.loaded.leases)
        · exact List.nil_perm.mp (hnone.2 ▸ hloaded.loaded.pins)
      · exact .throw hloaded.counted

theorem safe_writeHostConfig {config : HostConfig} (hok : HostWriteOk context world config) :
    Safe context (writeHostConfig config) (fun _ after => Written (.hostConfig config) world after)
      (fun _ after => HostChanged world after) world := by
  have hstep : StepOk context (.rename (.hostConfig config)) world := hok
  refine (safe_writeJsonAtomicRestricted hstep).weaken (fun _ _ _ h => h) ?_
  rintro error failed - ⟨-, hstill | hwritten⟩
  · exact hstill.hostChanged
  · exact hwritten.hostChanged

theorem simulatorIds_keepSlotReclaim (previous : Option HostConfig) (next : HostConfig) :
    (keepSlotReclaim previous next).simulatorIds = next.simulatorIds := by
  unfold keepSlotReclaim
  split
  · rfl
  · rfl

theorem safe_retireReplacedSimulators {pendingRetirementIds : List SimulatorId}
    {next disk : HostConfig} (hcause : context.causeOnly = false) (hunheld : Unheld world)
    (hdrawn : ∀ simulatorId ∈ next.simulatorIds, simulatorId < world.outside.nextDevice)
    (hdisk : world.store.hostConfig = some disk)
    (hbound : disk.simulatorIds = next.simulatorIds) :
    Safe context (retireReplacedSimulators pendingRetirementIds next)
      (fun _ after => HostChanged world after) (fun _ after => HostChanged world after) world := by
  unfold retireReplacedSimulators
  refine .seq (safe_retirePendingHostSimulators hdisk hbound) (fun _ _ _ h => h.hostChanged)
    fun failedRetirements retired hretired => ?_
  have hok : HostWriteOk context retired
      (hostConfigWithPendingRetirements next (failedRetirements.map (·.1))) :=
    (hretired.hostChanged.unheld hunheld).hostWriteOk hcause fun simulatorId hmem =>
      (hdrawn simulatorId hmem).trans_le hretired.later.nextDevice
  refine .seq (safe_writeHostConfig hok) (fun _ _ _ h => hretired.hostChanged.trans h)
    fun _ written hwritten => ?_
  have hchanged := hretired.hostChanged.trans hwritten.hostChanged
  split
  · exact .pure hchanged
  · exact .throw hchanged

theorem safe_bootstrapHostConfig {options : InitOptions} {previous : Option HostConfig}
    (hcause : context.causeOnly = false) (hunheld : Unheld world) :
    Safe context (bootstrapHostConfig locale options previous)
      (fun _ after => HostChanged world after) (fun _ after => HostChanged world after) world := by
  unfold bootstrapHostConfig
  refine .seq (safe_buildProvisionedStarterHostConfig hunheld) (fun _ _ _ h => h.hostChanged)
    fun provisioned provided hprovided => ?_
  obtain ⟨hstill, hdrawn⟩ := hprovided
  dsimp only
  generalize (previous.map fun previous =>
    pendingRetirementIdsForHostReplacement previous provisioned.hostConfig).getD [] = pending
  rw [← simulatorIds_keepSlotReclaim previous] at hdrawn
  generalize keepSlotReclaim previous provisioned.hostConfig = next at hdrawn ⊢
  have hchanged := hstill.hostChanged
  replace hunheld := hchanged.unheld hunheld
  have hok : HostWriteOk context provided (hostConfigWithPendingRetirements next pending) :=
    hunheld.hostWriteOk hcause hdrawn
  refine .seq (M := fun _ after =>
      Written (.hostConfig (hostConfigWithPendingRetirements next pending)) provided after)
    (E := fun _ after => HostChanged world after)
    (.catch (safe_writeHostConfig hok) fun error failed hfailed => ?_) (fun _ _ _ h => h)
    fun _ written hwritten => ?_
  · have hfree := hfailed.unheld hunheld
    refine .seq (E := fun _ _ => False) (safe_rollbackCreatedSimulators
      (fun simulatorId _ => hfree.rollbackOk simulatorId) fun _ => hfree.rollbackOk)
      (fun _ _ _ h => h.elim) fun failures rolledBack hrolledBack => ?_
    exact .throw ((hchanged.trans hfailed).trans hrolledBack.hostChanged)
  · have hreplaced := hchanged.trans hwritten.hostChanged
    split
    · refine (safe_retireReplacedSimulators hcause (hwritten.hostChanged.unheld hunheld)
        (fun simulatorId hmem => (hdrawn simulatorId hmem).trans_le hwritten.later.nextDevice)
        hwritten.hostConfig rfl).weaken ?_ ?_
      · exact fun _ _ _ h => hreplaced.trans h
      · exact fun _ _ _ h => hreplaced.trans h
    · exact .pure hreplaced

/-! ## Host init -/

theorem safe_hostConfigExists {raise : BrokerError → World → Prop} :
    Safe context (perform .hostConfigExists)
      (fun configExists after => Still world after ∧
        (configExists = false → after.store.hostConfig = none)) raise world := by
  refine .opStill rfl trivial (fun configExists after hanswered hstill => ⟨hstill, ?_⟩)
    fun _ _ _ hof _ => hof.elim
  rintro rfl
  have hnone : false = world.store.hostConfig.isSome := hanswered
  rw [hstill.hostConfig]
  simpa using hnone

theorem safe_initHost {options : InitOptions} (hcause : context.causeOnly = false)
    (hready : Ready context timestamp world) :
    Safe context (initHost context.paths options timestamp)
      (fun _ after => Settled context after) (fun _ after => Counted context after) world := by
  have hfinish : ∀ started, Ready context timestamp started → Safe context
      (do
        let _ ← loadBrokerState context.paths { timestamp }
        let _ ← appendEventRecord { type := .hostInitialized, timestamp } : Broker Unit)
      (fun _ after => Settled context after) (fun _ after => Counted context after) started := by
    intro started hstarted
    refine .seq (safe_loadBrokerState hstarted.counted hstarted.loadOk) (fun _ _ _ h => h.2)
      fun state loaded hloaded => ?_
    refine .seq (safe_appendEventRecord (.refl loaded) (eventOk_of_ne (by simp) (by simp)))
      (fun _ _ _ h => h.elim) fun _ appended happended => ?_
    exact .pure (happended.toKept.settled hloaded.settled)
  unfold initHost
  dsimp only
  split
  · refine .seq (E := fun _ _ => False) safe_hostConfigExists (fun _ _ _ h => h.elim)
      fun configExists existing hexisting => ?_
    obtain ⟨hstill, hnone⟩ := hexisting
    replace hready := hready.kept hstill.toKept
    split
    · refine .assume fun hinvariant => ?_
      refine .seq (safe_previousHostConfig hready fun hexists =>
        unheld_of_none hinvariant.toConsistent (hnone hexists)) (fun _ _ _ h => h)
        fun previous prepared hprepared => ?_
      obtain ⟨hready, hunheld⟩ := hprepared
      refine .seq (safe_bootstrapHostConfig hcause hunheld) (fun _ _ _ h => (h.ready hready).counted)
        fun _ replaced hreplaced => ?_
      exact hfinish replaced (hreplaced.ready hready)
    · exact hfinish existing hready
  · exact hfinish world hready

theorem safe_initBroker {options : InitOptions} (hcause : context.causeOnly = false)
    (hready : Ready context timestamp world) :
    Safe context (initBroker context.paths options timestamp)
      (fun _ after => Settled context after) (fun _ after => Counted context after) world := by
  unfold initBroker
  split
  · exact safe_settledUnderLock hready.counted fun _ hcapacity =>
      safe_settledUnderLock (hready.kept hcapacity.toKept).counted fun _ hlease =>
        safe_initHost hcause (hready.kept (hcapacity.trans hlease).toKept)
  · exact safe_settledUnderLock hready.counted fun _ hlease =>
      safe_initHost hcause (hready.kept hlease.toKept)

/-! ## Setup -/

/-- The simulators of a setup so far were drawn. -/
def SetupDrawn (progress : SetupProgress) (world : World) : Prop :=
  ∀ pair ∈ progress.simulatorIds, pair.2 < world.outside.nextDevice

theorem SetupDrawn.kept {progress : SetupProgress} (hkept : Kept world after)
    (hdrawn : SetupDrawn progress world) : SetupDrawn progress after :=
  fun pair hpair => (hdrawn pair hpair).trans_le hkept.later.nextDevice

theorem setupDrawn_append {progress : SetupProgress} {name : AliasName} {simulatorId : SimulatorId}
    (hprogress : SetupDrawn progress world) (hdrawn : simulatorId < world.outside.nextDevice) :
    ∀ pair ∈ progress.simulatorIds ++ [(name, simulatorId)], pair.2 < world.outside.nextDevice := by
  intro pair hpair
  obtain hpair | hpair := List.mem_append.mp hpair
  · exact hprogress pair hpair
  · rw [List.mem_singleton.mp hpair]
    exact hdrawn

theorem safe_createSetupDevice {baselineDeviceIds : List SimulatorId} {name : String}
    {device : SetupDevice} {progress : SetupProgress} (hdrawn : SetupDrawn progress world) :
    Safe context (createSetupDevice baselineDeviceIds name device progress)
      (fun progress' after => Still world after ∧ SetupDrawn progress' after)
      (fun _ _ => False) world := by
  unfold createSetupDevice
  dsimp only
  refine .seq (M := fun (outcome : Except BrokerError SimulatorId) created => match outcome with
      | .ok simulatorId => Still world created ∧ simulatorId < created.outside.nextDevice
      | .error _ => Still world created) (E := fun _ _ => False)
    (.attempt (safe_createDevice.weaken (fun _ _ _ h => ⟨h.1, h.2.2⟩) fun _ _ _ h => h))
    (fun _ _ _ h => h.elim) fun outcome created hcreated => ?_
  cases outcome with
  | error error =>
      have hstill : Still world created := hcreated
      refine .seq (M := fun _ listed => Still world listed) (E := fun _ _ => False)
        (.attempt (safe_readSimctlInventory.weaken (fun _ _ _ h => hstill.trans h.1)
          fun _ _ _ h => hstill.trans h.1)) (fun _ _ _ h => h.elim)
        fun listing listed hlisted => ?_
      cases listing with
      | error _ => exact .pure ⟨hlisted, hdrawn.kept hlisted.toKept⟩
      | ok _ => exact .pure ⟨hlisted, hdrawn.kept hlisted.toKept⟩
  | ok simulatorId =>
      obtain ⟨hstill, hfresh⟩ := hcreated
      refine .seq (M := fun _ renamed => Still created renamed) (E := fun _ _ => False)
        (.attempt ((safe_read rfl (by simp)).weaken (fun _ _ _ h => h.2) fun _ _ _ h => h.1))
        (fun _ _ _ h => h.elim) fun outcome renamed hrenamed => ?_
      have hlast := hstill.trans hrenamed
      cases outcome with
      | error _ => exact .pure ⟨hlast, hdrawn.kept hlast.toKept⟩
      | ok _ =>
          refine .pure ⟨hlast, setupDrawn_append (hdrawn.kept hlast.toKept) ?_⟩
          exact hfresh.trans_le hrenamed.later.nextDevice

theorem safe_createSetupDevices {options : SetupOptions} {baselineDeviceIds : List SimulatorId}
    (devices : List SetupDevice) {progress : SetupProgress} (hstill : Still first world)
    (hplanned : ∀ device ∈ devices, ∀ simulatorId, device.simulatorId = some simulatorId →
      simulatorId < world.outside.nextDevice)
    (hdrawn : SetupDrawn progress world) :
    Safe context (createSetupDevices options baselineDeviceIds devices progress)
      (fun progress' after => Still first after ∧ SetupDrawn progress' after)
      (fun _ _ => False) world := by
  induction devices generalizing progress world with
  | nil =>
      unfold createSetupDevices
      split
      · exact .pure ⟨hstill, hdrawn⟩
      · exact .pure ⟨hstill, hdrawn⟩
  | cons device rest ih =>
      unfold createSetupDevices
      split
      · exact .pure ⟨hstill, hdrawn⟩
      · cases hreused : device.simulatorId with
        | some simulatorId =>
            refine ih hstill (fun other hother => hplanned other (List.mem_cons_of_mem _ hother)) ?_
            exact setupDrawn_append hdrawn (hplanned device List.mem_cons_self _ hreused)
        | none =>
            refine .seq (safe_createSetupDevice hdrawn) (fun _ _ _ h => h.elim)
              fun progress' created hcreated => ?_
            have hlast := hstill.trans hcreated.1
            cases progress'.error with
            | some _ => exact .pure ⟨hlast, hcreated.2⟩
            | none =>
                refine ih hlast (fun other hother simulatorId hid => ?_) hcreated.2
                exact (hplanned other (List.mem_cons_of_mem _ hother) _ hid).trans_le
                  hcreated.1.later.nextDevice

theorem mem_simulatorIds_setupHostConfigFromPlan {hostId : String} {devices : List SetupDevice}
    {simulatorIds : List (AliasName × SimulatorId)} {simulatorId : SimulatorId}
    (hmem : simulatorId ∈ (setupHostConfigFromPlan hostId devices simulatorIds).simulatorIds) :
    ∃ pair ∈ simulatorIds, pair.2 = simulatorId := by
  obtain ⟨hostAlias, hbound, rfl⟩ := List.mem_map.mp hmem
  obtain ⟨device, -, hdevice⟩ := List.mem_filterMap.mp hbound
  obtain ⟨pair, hfound, rfl⟩ := Option.map_eq_some_iff.mp hdevice
  exact ⟨pair, List.mem_of_find?_eq_some hfound, rfl⟩

theorem safe_failSetup {baselineDeviceIds : List SimulatorId} {progress : SetupProgress}
    {error : BrokerError} {Q : α → World → Prop} (hcounted : Counted context world) :
    Safe context (failSetup baselineDeviceIds progress error : Broker α) Q
      (fun _ after => Counted context after) world := by
  unfold failSetup
  refine .seq (E := fun _ _ => False) safe_hostConfigExists (fun _ _ _ h => h.elim)
    fun configExists existing hexisting => ?_
  obtain ⟨hstill, hnone⟩ := hexisting
  have hcounted := hstill.toKept.counted hcounted
  split
  · exact .throw hcounted
  · rename_i hmissing
    have hnone := hnone (by simpa using fun h => hmissing (.inr h))
    have hfree : ∀ simulatorId, DestructiveOk context existing simulatorId .rollback :=
      fun simulatorId => (unbound_of_none hnone).destructiveOk
    refine .seq (E := fun _ _ => False) (safe_rollbackCreatedSimulators
      (fun simulatorId _ => hfree simulatorId) fun _ => hfree)
      (fun _ _ _ h => h.elim) fun failures rolledBack hrolledBack => ?_
    exact .throw (hrolledBack.toKept.counted hcounted)

/-- The host config of a setup, the load and the event after it. -/
theorem safe_commitSetup {config : HostConfig} (hready : Ready context timestamp world)
    (hok : HostWriteOk context world config) :
    Safe context (commitSetup context.paths config timestamp)
      (fun _ after => Settled context after) (fun _ after => Counted context after) world := by
  unfold commitSetup
  refine .seq (safe_writeJsonAtomicDurable hok) (fun _ failed _ hfailure => ?_)
    fun _ written hwritten => ?_
  · obtain ⟨-, hstill⟩ | ⟨-, hwritten⟩ := hfailure
    · exact hstill.toKept.counted hready.counted
    · exact hwritten.hostChanged.counted hready.counted
  have hready := hwritten.hostChanged.ready hready
  refine .seq (safe_read rfl (by simp)) (fun _ _ _ h => h.1.toKept.counted hready.counted)
    fun _ restricted hrestricted => ?_
  replace hready := hready.kept hrestricted.2.toKept
  refine .seq (safe_loadBrokerState hready.counted hready.loadOk) (fun _ _ _ h => h.2)
    fun state loaded hloaded => ?_
  refine .seq (safe_appendEventRecord (.refl loaded) (eventOk_of_ne (by simp) (by simp)))
    (fun _ _ _ h => h.elim) fun _ appended happended => ?_
  exact .pure (happended.toKept.settled hloaded.settled)

theorem safe_provisionSetup {options : SetupOptions} {devices : List SetupDevice}
    (hcause : context.causeOnly = false) (hready : Ready context timestamp world) (hunheld : Unheld world)
    (hplanned : ∀ device ∈ devices, ∀ simulatorId, device.simulatorId = some simulatorId →
      simulatorId < world.outside.nextDevice) :
    Safe context (provisionSetup context.paths options devices timestamp)
      (fun _ after => Settled context after) (fun _ after => Counted context after) world := by
  unfold provisionSetup
  refine .seq safe_readSimctlInventory (fun _ _ _ h => h.1.toKept.counted hready.counted)
    fun baseline listed hlisted => ?_
  refine .seq (safe_createSetupDevices devices hlisted.1 (fun device hdevice simulatorId hid =>
      (hplanned device hdevice simulatorId hid).trans_le hlisted.1.later.nextDevice)
      fun _ hpair => by cases hpair) (fun _ _ _ h => h.elim) fun progress created hcreated => ?_
  obtain ⟨hstill, hdrawn⟩ := hcreated
  replace hready := hready.kept hstill.toKept
  have hunheld := hstill.hostChanged.unheld hunheld
  cases progress.error with
  | some error => exact safe_failSetup hready.counted
  | none =>
      refine .catch (safe_commitSetup hready (hunheld.hostWriteOk hcause fun simulatorId hmem => ?_))
        fun error failed hfailed => safe_failSetup hfailed
      obtain ⟨pair, hpair, rfl⟩ := mem_simulatorIds_setupHostConfigFromPlan hmem
      exact hdrawn pair hpair

theorem safe_existingSetupHost :
    Safe context existingSetupHost (fun _ after => Still world after)
      (fun _ after => Still world after) world := by
  unfold existingSetupHost
  refine .catch (E := fun _ after => Still world after) ?_ fun error failed hfailed => ?_
  · refine .seq safe_readHostConfigOrThrow (fun _ _ _ h => h) fun config read hread => ?_
    exact .pure hread.2
  · split
    · exact .pure hfailed
    · exact .throw hfailed

theorem safe_admitSetup {options : SetupOptions} {inventory : SimctlInventory} {blocked : Bool} :
    Safe context (admitSetup options inventory blocked)
      (fun _ after => Still world after ∧ blocked = false) (fun _ after => Still world after)
      world := by
  unfold admitSetup
  split
  · exact .throw (.refl world)
  · split
    · exact .throw (.refl world)
    · split
      · exact .throw (.refl world)
      · rename_i hpossible
        exact .pure ⟨.refl world, by simpa using hpossible⟩

/-- A planned simulator is one of the inventory. -/
theorem mem_setupDevicePlan {inventory : SimctlInventory} {hostId : String} {choice : SetupChoice}
    {device : SetupDevice} {simulatorId : SimulatorId}
    (hdevice : device ∈ setupDevicePlan inventory hostId choice)
    (hid : device.simulatorId = some simulatorId) : simulatorId ∈ inventory.deviceIds := by
  obtain ⟨template, -, rfl⟩ := List.mem_map.mp hdevice
  have hmem := List.mem_of_mem_head? (Option.mem_def.mpr hid)
  rw [List.mem_insertionSort] at hmem
  exact (List.mem_filter.mp hmem).1

theorem safe_applySetup {planner : SetupPlanner} {options : SetupOptions} {past : Timestamp}
    (hcause : context.causeOnly = false) (hready : Ready context past world) :
    Safe context (applySetup context.paths planner options)
      (fun _ after => Settled context after) (fun _ after => Counted context after) world := by
  unfold applySetup
  refine .seq (E := fun _ _ => False) (safe_now hready) (fun _ _ _ h => h.elim)
    fun timestamp started hstarted => ?_
  replace hready := hstarted.2
  refine .seq safe_readSimctlInventory (fun _ _ _ h => h.1.toKept.counted hready.counted)
    fun inventory listed hlisted => ?_
  replace hready := hready.kept hlisted.1.toKept
  refine .seq (E := fun _ _ => False) safe_hostConfigExists (fun _ _ _ h => h.elim)
    fun configExists existing hexisting => ?_
  obtain ⟨hstill, hnone⟩ := hexisting
  replace hready := hready.kept hstill.toKept
  split
  · refine .seq safe_existingSetupHost (fun _ _ _ h => h.toKept.counted hready.counted)
      fun host read hread => ?_
    replace hready := hready.kept hread.toKept
    refine .seq safe_admitSetup (fun _ _ _ h => h.toKept.counted hready.counted)
      fun _ admitted hadmitted => ?_
    replace hready := hready.kept hadmitted.1.toKept
    refine .seq safe_ensureStatePaths (fun _ _ _ h => h.1.toKept.counted hready.counted)
      fun _ ensured hensured => ?_
    replace hready := hready.kept hensured.toKept
    refine .seq (safe_loadBrokerState hready.counted hready.loadOk) (fun _ _ _ h => h.2)
      fun state loaded hloaded => ?_
    exact .pure hloaded.settled
  · rename_i hmissing
    refine .assume fun hinvariant => ?_
    have hunheld := unheld_of_none hinvariant.toConsistent (hnone (by simpa using hmissing))
    cases planner inventory with
    | blocked =>
        refine safe_admitSetup.weaken (fun _ _ _ h => ?_) fun _ _ _ h => h.toKept.counted hready.counted
        cases h.2
    | unserved => exact .throw hready.counted
    | possible choice =>
        refine .seq safe_admitSetup (fun _ _ _ h => h.toKept.counted hready.counted)
          fun _ admitted hadmitted => ?_
        replace hready := hready.kept hadmitted.1.toKept
        refine .seq safe_ensureStatePaths (fun _ _ _ h => h.1.toKept.counted hready.counted)
          fun _ ensured hensured => ?_
        have hplanned := (hlisted.2 : Inventoried listed inventory).kept
          ((hstill.trans hadmitted.1).trans hensured).toKept
        exact safe_provisionSetup hcause (hready.kept hensured.toKept)
          ((hadmitted.1.trans hensured).hostChanged.unheld hunheld)
          fun device hdevice simulatorId hid => hplanned _ (mem_setupDevicePlan hdevice hid)

theorem safe_applySetupBroker {planner : SetupPlanner} {options : SetupOptions} {past : Timestamp}
    (hcause : context.causeOnly = false) (hready : Ready context past world) :
    Safe context (applySetupBroker context.paths planner options)
      (fun _ after => Settled context after) (fun _ after => Counted context after) world := by
  unfold applySetupBroker
  exact safe_settledUnderLock hready.counted fun _ hcapacity =>
    safe_settledUnderLock (hready.kept hcapacity.toKept).counted fun _ hlease =>
      safe_applySetup hcause (hready.kept (hcapacity.trans hlease).toKept)

end SimulatorBroker.Safety
