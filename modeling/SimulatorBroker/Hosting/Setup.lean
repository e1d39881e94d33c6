import SimulatorBroker.Hosting.Bootstrap

/-!
# Setting up a host

`setup` binds the simulators of its plan: those of the right name that the plan
has found, and new ones, created under a temporary name.
-/

namespace SimulatorBroker.Hosting

open SimulatorBroker.Effects
open SimulatorBroker.State
open SimulatorBroker.Broker
open SimulatorBroker.Safety (ReadConfig)

variable {surroundings : Surroundings} {distinct : Prop} {world after : World} {hostId : String}
  {paths : BrokerPaths} {timestamp : Timestamp} {inventory : SimctlInventory}

/-! ## The plan -/

/-- The binding of a device that the plan reuses. -/
def plannedBinding (device : SetupDevice) : Option Binding :=
  device.simulatorId.map fun simulatorId => (device.template.aliasName, simulatorId)

theorem mem_reusableSetupDevice {template : AliasTemplate} {runtime : Runtime}
    {deviceType : DeviceType} {simulatorId : SimulatorId}
    (hreusable : reusableSetupDevice inventory template runtime deviceType = some simulatorId) :
    ∃ device, inventory.device? simulatorId = some device ∧
      device.name = template.simulatorName := by
  unfold reusableSetupDevice at hreusable
  have hmem := (List.mem_insertionSort _).mp (List.mem_of_head? hreusable)
  obtain ⟨-, hselected⟩ := List.mem_filter.mp hmem
  rw [Option.any_eq_true] at hselected
  obtain ⟨device, hdevice, hreuse⟩ := hselected
  refine ⟨device, hdevice, ?_⟩
  simp only [isReusableDevice, Bool.and_eq_true, decide_eq_true_eq] at hreuse
  exact hreuse.1.1.2

/-- What the plan reuses bears the names of its aliases. -/
theorem bears_planned {begun : World} (hlisted : Listed surroundings begun world inventory)
    (devices : List SetupDevice) (hnames : (devices.map (·.template.aliasName)).Nodup)
    (hplanned : ∀ device ∈ devices, ∀ simulatorId, device.simulatorId = some simulatorId →
      ∃ listed, inventory.device? simulatorId = some listed ∧
        listed.name = simulatorDisplayName hostId device.template.aliasName) :
    Bears surroundings world hostId (devices.filterMap plannedBinding) ∧
      ∀ bound ∈ devices.filterMap plannedBinding, ∃ device ∈ devices,
        device.template.aliasName = bound.1 ∧ device.simulatorId = some bound.2 := by
  induction devices with
  | nil => exact ⟨.nil, by simp⟩
  | cons device rest ih =>
      rw [List.map_cons, List.nodup_cons] at hnames
      obtain ⟨hbears, hfrom⟩ := ih hnames.2 fun other hother =>
        hplanned other (List.mem_cons_of_mem _ hother)
      have hlater : ∀ bound ∈ rest.filterMap plannedBinding, ∃ other ∈ device :: rest,
          other.template.aliasName = bound.1 ∧ other.simulatorId = some bound.2 := by
        intro bound hbound
        obtain ⟨other, hother, hsame⟩ := hfrom bound hbound
        exact ⟨other, List.mem_cons_of_mem _ hother, hsame⟩
      cases hid : device.simulatorId with
      | none =>
          rw [List.filterMap_cons_none (by simp [plannedBinding, hid])]
          exact ⟨hbears, hlater⟩
      | some simulatorId =>
          obtain ⟨listed, hdevice, hname⟩ := hplanned device List.mem_cons_self simulatorId hid
          rw [List.filterMap_cons_some (by rw [plannedBinding, hid]; rfl)]
          refine ⟨hbears.cons (hlisted.drawn _ (mem_of_device? hdevice)) ?_ ?_, ?_⟩
          · intro hkeeps last hlast
            rw [hlisted.since hkeeps _ _ hdevice last hlast, hname]
          · -- listed under one name, the simulator is reused once
            rintro - bound hbound rfl
            obtain ⟨other, hother, hsame, hbound'⟩ := hfrom bound hbound
            obtain ⟨again, hagain, hothername⟩ :=
              hplanned other (List.mem_cons_of_mem _ hother) _ hbound'
            rw [hdevice] at hagain
            cases hagain
            rw [hname] at hothername
            exact hnames.1 (List.mem_map.mpr
              ⟨other, hother, (simulatorDisplayName_injective hothername).symm⟩)
          · rintro bound hbound
            rcases List.mem_cons.mp hbound with rfl | hrest
            · exact ⟨device, List.mem_cons_self, rfl, hid⟩
            · exact hlater bound hrest

/-- What a setup relies on about its devices. -/
structure Planned (hostId : String) (devices : List SetupDevice) : Prop where
  names : (devices.map (·.template.aliasName)).Nodup
  fitting : ∀ device ∈ devices, Fitting hostId device.template

theorem planned_setupDevicePlan {choice : SetupChoice} :
    Planned hostId (setupDevicePlan inventory hostId choice) := by
  constructor
  · unfold setupDevicePlan
    rw [List.map_map]
    exact starterNames_nodup
  · intro device hmem
    obtain ⟨template, htemplate, rfl⟩ := List.mem_map.mp hmem
    exact fitting_starterTemplates template htemplate

theorem listed_setupDevicePlan {choice : SetupChoice} :
    ∀ device ∈ setupDevicePlan inventory hostId choice, ∀ simulatorId,
      device.simulatorId = some simulatorId →
        ∃ listed, inventory.device? simulatorId = some listed ∧
          listed.name = simulatorDisplayName hostId device.template.aliasName := by
  intro device hmem simulatorId hid
  obtain ⟨template, htemplate, rfl⟩ := List.mem_map.mp hmem
  obtain ⟨listed, hlisted, hname⟩ := mem_reusableSetupDevice hid
  exact ⟨listed, hlisted, hname.trans (fitting_starterTemplates template htemplate).simulatorName⟩

/-! ## Creating the devices -/

/-- A created device bears the name of its alias, and is bound to no other one. -/
theorem hosts_createSetupDevice {baselineDeviceIds : List SimulatorId} {name : String}
    {device : SetupDevice} {progress : SetupProgress} {bindings : List Binding}
    (hdrawn : Drawn surroundings distinct world) (hnone : world.store.hostConfig = none)
    (hname : device.template.simulatorName = simulatorDisplayName hostId device.template.aliasName)
    (hbears : Bears surroundings world hostId bindings) :
    Hosts surroundings distinct (createSetupDevice baselineDeviceIds name device progress)
      (fun created after => Drawn surroundings distinct after ∧ after.store.hostConfig = none ∧
        (created.error = none → ∃ simulatorId,
          created.simulatorIds =
            progress.simulatorIds ++ [(device.template.aliasName, simulatorId)] ∧
          Bears surroundings after hostId ((device.template.aliasName, simulatorId) :: bindings)))
      (fun _ _ => False) world := by
  unfold createSetupDevice
  have hafter : ∀ {renamed : Option (SimulatorId × String)} {last : World},
      Moved surroundings renamed world last →
      Drawn surroundings distinct last ∧ last.store.hostConfig = none := by
    intro renamed last hmoved
    refine ⟨hdrawn.moved hmoved fun _ _ disk hdisk => ?_, hmoved.hostConfig.trans hnone⟩
    rw [hnone] at hdisk
    cases hdisk
  simp only
  refine .either (hosts_createDevice hdrawn.devices) ?_ fun error failed hfailed => ?_
  · rintro simulatorId created ⟨hcreated, hfresh, hid, -⟩
    simp only
    have hallows : KeepsNames surroundings → distinct → ∀ disk, created.store.hostConfig = some disk →
        Allows disk (some (simulatorId, device.template.simulatorName)) := by
      intro _ _ disk hdisk
      rw [hcreated.hostConfig, hnone] at hdisk
      cases hdisk
    refine .either (Hosts.renameDevice hallows) ?_ fun error failed hfailed => ?_
    · rintro - last ⟨hmoved, hnamed⟩
      have hall : Moved surroundings _ world last := hcreated.of_onward.trans hmoved
      refine .pure ⟨(hafter hall).1, (hafter hall).2, fun _ => ⟨simulatorId, rfl, ?_⟩⟩
      have hother : ∀ bound ∈ bindings, bound.2 ≠ simulatorId := fun bound hbound hsame =>
        absurd (hbears.drawn bound hbound) (by rw [hsame]; exact hfresh.not_gt)
      refine (hbears.moved hall ?_).cons (hid.trans_le hmoved.later.nextDevice) ?_
        fun _ => hother
      · rintro bound hbound renamed ⟨⟩
        exact hother _ hbound rfl
      · intro hkeeps last hlast
        rw [hnamed hkeeps hid last hlast, hname]
    · have hall : Moved surroundings _ world failed := hcreated.of_onward.trans hfailed
      exact .pure ⟨(hafter hall).1, (hafter hall).2, by simp⟩
  · have hdrawnFailed := hdrawn.onward hfailed
    refine .either (hosts_readSimctlInventory hdrawnFailed) (fun inventory listed hlisted => ?_)
      fun error last hlast => ?_
    · have hall := hfailed.trans hlisted.onward
      exact .pure ⟨(hafter hall).1, (hafter hall).2, by simp⟩
    · have hall := hfailed.trans hlast
      exact .pure ⟨(hafter hall).1, (hafter hall).2, by simp⟩

/-- The devices so far are bound, and those to come that are reused bear their names. -/
theorem hosts_createSetupDevices {options : SetupOptions} {baselineDeviceIds : List SimulatorId}
    (devices : List SetupDevice) (progress : SetupProgress) {before : World}
    (hdrawn : Drawn surroundings distinct before) (hnone : before.store.hostConfig = none)
    (hfitting : ∀ device ∈ devices, Fitting hostId device.template)
    (herror : progress.error = none)
    (hbears : Bears surroundings before hostId
      (progress.simulatorIds ++ devices.filterMap plannedBinding)) :
    Hosts surroundings distinct (createSetupDevices options baselineDeviceIds devices progress)
      (fun progress' after => Drawn surroundings distinct after ∧ after.store.hostConfig = none ∧
        (progress'.error = none →
          progress'.simulatorIds.map (·.1) =
            progress.simulatorIds.map (·.1) ++ devices.map (·.template.aliasName) ∧
          Bears surroundings after hostId progress'.simulatorIds))
      (fun _ _ => False) before := by
  induction devices generalizing progress before with
  | nil =>
      unfold createSetupDevices
      split
      · exact .pure ⟨hdrawn, hnone, by simp⟩
      · refine .pure ⟨hdrawn, hnone, fun _ => ⟨by simp, ?_⟩⟩
        simpa using hbears
  | cons device rest ih =>
      unfold createSetupDevices
      have hrest := fun other hother => hfitting other (List.mem_cons_of_mem device hother)
      split
      · exact .pure ⟨hdrawn, hnone, by simp⟩
      · cases hid : device.simulatorId with
        | some simulatorId =>
            have hplanned : plannedBinding device = some (device.template.aliasName, simulatorId) := by
              rw [plannedBinding, hid]
              rfl
            rw [List.filterMap_cons_some hplanned] at hbears
            refine (ih {
                progress with
                simulatorIds := progress.simulatorIds ++ [(device.template.aliasName, simulatorId)] }
              hdrawn hnone hrest herror (by simpa using hbears)).weaken ?_ fun _ _ h => h
            rintro progress' after ⟨hafter, hstill, hresult⟩
            refine ⟨hafter, hstill, fun hok => ?_⟩
            obtain ⟨hnames, hlast⟩ := hresult hok
            exact ⟨by simpa using hnames, hlast⟩
        | none =>
            rw [List.filterMap_cons_none (by rw [plannedBinding, hid]; rfl)] at hbears
            refine .seq (hosts_createSetupDevice hdrawn hnone
              (hfitting device List.mem_cons_self).simulatorName hbears) (fun _ _ h => h.elim) ?_
            rintro created last ⟨hdrawnLast, hnoneLast, hcreated⟩
            cases hfailed : created.error with
            | some error =>
                refine .pure ⟨hdrawnLast, hnoneLast, fun hok => ?_⟩
                rw [hfailed] at hok
                cases hok
            | none =>
                obtain ⟨simulatorId, hids, hbound⟩ := hcreated hfailed
                refine (ih created hdrawnLast hnoneLast hrest hfailed ?_).weaken ?_ fun _ _ h => h
                · rw [hids]
                  refine hbound.perm ?_
                  rw [List.append_assoc, List.singleton_append]
                  exact List.perm_middle
                · rintro progress' after ⟨hafter, hstill, hresult⟩
                  refine ⟨hafter, hstill, fun hok => ?_⟩
                  obtain ⟨hnames, hlast⟩ := hresult hok
                  refine ⟨?_, hlast⟩
                  rw [hnames, hids]
                  simp

/-! ## The config -/

/-- The alias of a device, with the simulator that is found for it. -/
def boundAlias (pairs : List Binding) (device : SetupDevice) : Option HostAlias :=
  (pairs.find? fun pair => pair.1 = device.template.aliasName).map fun pair =>
    { aliasName := device.template.aliasName, capabilities := device.template.capabilities
      deviceFamily := device.template.deviceFamily, displayName := device.template.displayName
      iosVersion := device.runtimeVersion, resetPolicy := device.template.resetPolicy
      simulatorId := pair.2 }

theorem setupHostConfigFromPlan_eq {devices : List SetupDevice} {pairs : List Binding} :
    setupHostConfigFromPlan hostId devices pairs =
      { aliases := devices.filterMap (boundAlias pairs), hostId } :=
  rfl

/-- The pairs are found again in their order. -/
theorem bindings_filterMap (done rest : List Binding) (devices : List SetupDevice)
    (hnames : ((done ++ rest).map (·.1)).Nodup)
    (hsame : rest.map (·.1) = devices.map (·.template.aliasName)) :
    (devices.filterMap (boundAlias (done ++ rest))).map binding = rest := by
  induction devices generalizing done rest with
  | nil =>
      rw [List.map_nil, List.map_eq_nil_iff] at hsame
      rw [hsame]
      rfl
  | cons device others ih =>
      cases rest with
      | nil => cases hsame
      | cons pair later =>
          rw [List.map_cons, List.map_cons, List.cons.injEq] at hsame
          have hfound : (done ++ pair :: later).find?
              (fun other => other.1 = device.template.aliasName) = some pair := by
            rw [List.find?_append, List.find?_eq_none.mpr, Option.none_or,
              List.find?_cons_of_pos (by simpa using hsame.1)]
            intro other hother
            rw [decide_eq_true_eq, ← hsame.1]
            rw [List.map_append, List.map_cons] at hnames
            exact fun heq => List.disjoint_of_nodup_append hnames
              (List.mem_map_of_mem hother) (heq ▸ List.mem_cons_self)
          have happend : done ++ pair :: later = (done ++ [pair]) ++ later := by simp
          rw [List.filterMap_cons_some (by rw [boundAlias, hfound]; rfl), List.map_cons]
          rw [happend] at hnames ⊢
          rw [ih (done ++ [pair]) later hnames hsame.2]
          exact congrArg (· :: later) (Prod.ext hsame.1.symm rfl)

theorem checked_setup {devices : List SetupDevice} {pairs : List Binding}
    (hplanned : Planned hostId devices) (hhostId : HostIdOk hostId)
    (hversions : ∀ device ∈ devices, isHostSchemaIosVersion device.runtimeVersion = true)
    (hsame : pairs.map (·.1) = devices.map (·.template.aliasName)) :
    Checked (setupHostConfigFromPlan hostId devices pairs) := by
  rw [setupHostConfigFromPlan_eq]
  refine ⟨?_, ?_, hhostId, by simp⟩
  · have hnames : (pairs.map (·.1)).Nodup := by
      rw [hsame]
      exact hplanned.names
    have hbindings := bindings_filterMap [] pairs devices hnames hsame
    have hmap : (devices.filterMap (boundAlias pairs)).map (·.aliasName) = pairs.map (·.1) := by
      conv_rhs => rw [← hbindings]
      rw [List.map_map]
      rfl
    show (List.map _ _).Nodup
    rwa [hmap]
  · intro hostAlias hmem
    obtain ⟨device, hdevice, hbound⟩ := List.mem_filterMap.mp hmem
    obtain ⟨pair, -, rfl⟩ := Option.map_eq_some_iff.mp hbound
    have hfitting := hplanned.fitting device hdevice
    exact ⟨hfitting.aliasName, hfitting.capabilities, hfitting.nonEmpty, hfitting.displayName,
      hversions device hdevice⟩

theorem kept_setup {devices : List SetupDevice} {pairs : List Binding}
    (hdrawn : Drawn surroundings distinct world) (hnone : world.store.hostConfig = none)
    (hplanned : Planned hostId devices) (hhostId : distinct → HostIdOk hostId)
    (hversions : distinct → ∀ device ∈ devices,
      isHostSchemaIosVersion device.runtimeVersion = true)
    (hsame : pairs.map (·.1) = devices.map (·.template.aliasName))
    (hbears : Bears surroundings world hostId pairs) :
    Kept surroundings distinct world (setupHostConfigFromPlan hostId devices pairs) := by
  have hnames : (pairs.map (·.1)).Nodup := by
    rw [hsame]
    exact hplanned.names
  have hbound : Bears surroundings world hostId
      ((setupHostConfigFromPlan hostId devices pairs).aliases.map binding) := by
    rw [setupHostConfigFromPlan_eq]
    have hbindings := bindings_filterMap [] pairs devices hnames hsame
    rw [List.nil_append] at hbindings
    rwa [hbindings]
  constructor
  · exact hdrawn
  · refine .fresh hnone fun simulatorId hmem => ?_
    rcases List.mem_append.mp hmem with hnew | hpending
    · exact hbound.bound_drawn simulatorId hnew
    · cases hpending
  · intro hkeeps hdistinct
    exact Bears.sound hkeeps
      (checked_setup hplanned (hhostId hdistinct) (hversions hdistinct) hsame) hbound

/-! ## The command -/

theorem hostless_failSetup {α : Type} {baselineDeviceIds : List SimulatorId}
    {progress : SetupProgress} {error : BrokerError} :
    Hostless (failSetup baselineDeviceIds progress error : Broker α) := by
  unfold failSetup
  refine .bind (hostless_perform rfl) fun hostConfigExists => ?_
  split
  · exact .throw _
  · exact .bind hostless_rollbackCreatedSimulators fun _ => .throw _

theorem keeps_provisionSetup {options : SetupOptions} {devices : List SetupDevice}
    (hdrawn : Drawn surroundings distinct world) (hnone : world.store.hostConfig = none)
    (hplanned : Planned options.hostId devices) (hhostId : distinct → HostIdOk options.hostId)
    (hversions : distinct → ∀ device ∈ devices,
      isHostSchemaIosVersion device.runtimeVersion = true)
    (hbears : Bears surroundings world options.hostId (devices.filterMap plannedBinding)) :
    Keeps surroundings distinct (provisionSetup paths options devices timestamp) world := by
  unfold provisionSetup
  refine .seq (Hosts.frame (hostless_of_loading loading_readSimctlInventory))
    (fun _ _ h => hdrawn.onward h) fun baseline listed hlisted => ?_
  refine .seq (hosts_createSetupDevices devices {} (hdrawn.onward hlisted)
    (hlisted.hostConfig.trans hnone) hplanned.fitting rfl (hbears.onward hlisted))
    (fun _ _ h => h.elim) ?_
  rintro progress created ⟨hdrawnCreated, hnoneCreated, hcreated⟩
  cases herror : progress.error with
  | some error => exact keeps_of_hostless hdrawnCreated hostless_failSetup
  | none =>
      obtain ⟨hsame, hbound⟩ := hcreated herror
      have hkept := kept_setup hdrawnCreated hnoneCreated hplanned hhostId hversions hsame hbound
      refine .tryCatch (?_ : Keeps surroundings distinct _ _)
        fun error failed hfailed => keeps_of_hostless hfailed hostless_failSetup
      unfold commitSetup
      refine .seq (hosts_writeJsonAtomicDurable hkept) (fun _ _ h => h.drawn)
        fun _ written hwritten => ?_
      exact keeps_of_static hwritten.drawn (.bind (static_perform rfl) fun _ =>
        .bind static_loadBrokerState fun _ => .bind static_appendEventRecord fun _ => .pure _)

theorem static_admitSetup {options : SetupOptions} {blocked : Bool} :
    Static (admitSetup options inventory blocked) := by
  unfold admitSetup
  split
  · exact .throw _
  · split
    · exact .throw _
    · split
      · exact .throw _
      · exact .pure _

theorem static_existingSetupHost : Static existingSetupHost := by
  unfold existingSetupHost
  refine .tryCatch (.map (static_of_passive passive_readHostConfigOrThrow)) fun error => ?_
  split
  · exact .pure _
  · exact .throw _

/-- Every runtime of a plan has a version that a host config may have. -/
def PlansVersions (planner : SetupPlanner) : Prop :=
  ∀ inventory choice, planner inventory = .possible choice → SchemaRuntime choice.runtime

theorem keeps_applySetup {planner : SetupPlanner} {options : SetupOptions}
    (hdrawn : Drawn surroundings distinct world) (hhostId : distinct → HostIdOk options.hostId)
    (hplanner : distinct → PlansVersions planner) :
    Keeps surroundings distinct (applySetup paths planner options) world := by
  unfold applySetup
  refine keeps_after hdrawn (static_perform rfl) fun timestamp begun _ hbegun => ?_
  refine .seq (hosts_readSimctlInventory hbegun) (fun _ _ h => hbegun.onward h)
    fun inventory listed hlisted => ?_
  have hdrawnListed := hbegun.onward hlisted.onward
  refine .seq hosts_hostConfigExists (fun _ _ h => hdrawnListed.onward h) ?_
  rintro configExists found ⟨hexists, hfound⟩
  have hdrawnFound := hdrawnListed.onward hfound
  cases configExists with
  | true =>
      exact keeps_of_static hdrawnFound (.bind static_existingSetupHost fun _ =>
        .bind static_admitSetup fun _ => .bind (static_perform rfl) fun _ =>
          .bind static_loadBrokerState fun _ => .pure _)
  | false =>
      have hnone : found.store.hostConfig = none := by
        rw [hfound.hostConfig]
        simpa using hexists.symm
      cases hverdict : planner inventory with
      | blocked => exact keeps_of_static hdrawnFound static_admitSetup
      | unserved => exact .throw hdrawnFound
      | possible choice =>
          have hplanned : Planned options.hostId
              (setupDevicePlan inventory options.hostId choice) := planned_setupDevicePlan
          have hbears := (bears_planned (hlisted.later hfound) _ hplanned.names
            listed_setupDevicePlan).1
          refine .seq (Hosts.frame (hostless_of_static static_admitSetup))
            (fun _ _ h => hdrawnFound.onward h) fun _ admitted hadmitted => ?_
          refine .seq (Hosts.frame (hostless_perform rfl))
            (fun _ _ h => hdrawnFound.onward (hadmitted.trans h)) fun _ ready hready => ?_
          have hall := hadmitted.trans hready
          refine keeps_provisionSetup (hdrawnFound.onward hall) (hall.hostConfig.trans hnone)
            hplanned hhostId (fun hdistinct device hmem => ?_) (hbears.onward hall)
          obtain ⟨template, -, rfl⟩ := List.mem_map.mp hmem
          exact hplanner hdistinct inventory choice hverdict

end SimulatorBroker.Hosting
