import SimulatorBroker.Hosting.Frames

/-!
# Reading and replacing the host config

One rule for each way a command reads the file, lists the simulators, deletes or
creates one, or replaces the file.
-/

namespace SimulatorBroker.Hosting

open SimulatorBroker.Effects
open SimulatorBroker.State
open SimulatorBroker.Broker
open SimulatorBroker.Safety (ReadConfig)

variable {α : Type} {surroundings : Surroundings} {distinct : Prop} {world after : World}
  {paths : BrokerPaths} {config : HostConfig}

/-! ## Reading -/

theorem hosts_readHostConfigOrThrow :
    Hosts surroundings distinct readHostConfigOrThrow
      (fun config after => ReadConfig world config ∧ Onward surroundings world after)
      (fun _ after => Onward surroundings world after) world := by
  unfold readHostConfigOrThrow
  have hread : Hosts surroundings distinct (perform .readHostConfig)
      (fun value after => value = world.store.hostConfig ∧ Onward surroundings world after)
      (fun _ after => Onward surroundings world after) world := by
    refine wp_perform (admits_of_onward rfl) ?_ ?_
    · exact fun value after hvalue hsettles => ⟨hvalue, moved_settles hsettles⟩
    · rintro error after - - (hsettles | ⟨hlate, -⟩)
      · exact moved_settles hsettles
      · cases hlate
  refine hread.seq (fun _ _ h => h) ?_
  rintro value after ⟨hvalue, honward⟩
  cases value with
  | none => exact .throw honward
  | some disk =>
      by_cases hvalid : disk.Valid
      · simp only [validateHostConfig, if_pos hvalid]
        exact .pure ⟨⟨disk, hvalue.symm, hvalid, rfl⟩, honward⟩
      · simp only [validateHostConfig, if_neg hvalid]
        exact .throw honward

/-- The loaded state carries the config on disk. -/
theorem hosts_loadBrokerState {options : LoadOptions} :
    Hosts surroundings distinct (loadBrokerState paths options)
      (fun state after => ReadConfig world state.hostConfig ∧ Onward surroundings world after)
      (fun _ after => Onward surroundings world after) world := by
  unfold loadBrokerState
  have hpart : ∀ {β : Type} {body : Broker β} {before : World}, Hostless body →
      Onward surroundings world before → Hosts surroundings distinct body
        (fun _ after => Onward surroundings world after)
        (fun _ after => Onward surroundings world after) before := fun hhostless honward =>
    (Hosts.frame hhostless).weaken (fun _ _ h => honward.trans h) fun _ _ h => honward.trans h
  refine .seq (hpart (hostless_perform rfl) (.refl _)) (fun _ _ h => h) fun _ first hfirst => ?_
  refine .seq hosts_readHostConfigOrThrow (fun _ _ h => hfirst.trans h) ?_
  rintro config second ⟨hconfig, hsecond⟩
  have hread : ReadConfig world config := hconfig.of_hostConfig hfirst.hostConfig.symm
  refine .seq (hpart (hostless_perform rfl) (hfirst.trans hsecond)) (fun _ _ h => h)
    fun projects third hthird => ?_
  refine .seq (hpart (hostless_perform rfl) hthird) (fun _ _ h => h) fun registry fourth hfourth => ?_
  refine .seq (hpart (hostless_perform rfl) hfourth) (fun _ _ h => h) fun pins fifth hfifth => ?_
  refine .seq (hpart (hostless_perform rfl) hfifth) (fun _ _ h => h) fun leases sixth hsixth => ?_
  refine .seq (hpart (.foldlM (fun _ _ => hostless_of_loading loading_scanLease) _ _) hsixth) (fun _ _ h => h)
    fun scan seventh hseventh => ?_
  refine .seq (hpart (hostless_of_loading loading_syncRegistryWithSimctl) hseventh) (fun _ _ h => h)
    fun synced eighth heighth => ?_
  refine .seq (hpart (hostless_of_loading loading_writeLoadedRegistry) heighth) (fun _ _ h => h)
    fun _ ninth hninth => ?_
  exact .seq (hpart (hostless_of_static static_writeKnownProjects) hninth) (fun _ _ h => h)
    fun _ tenth htenth => .pure ⟨hread, htenth⟩

/-- Where the simulators are listed: what is listed was drawn, what is not listed is gone, and the
names are the ones before and since. -/
structure Listed (surroundings : Surroundings) (world after : World)
    (inventory : SimctlInventory) : Prop where
  onward : Onward surroundings world after
  drawn : ∀ simulatorId ∈ inventory.deviceIds, simulatorId < after.outside.nextDevice
  gone : NeverReturns surroundings → ∀ simulatorId < world.outside.nextDevice,
    simulatorId ∉ inventory.deviceIds → Absent after.outside simulatorId
  before : KeepsNames surroundings → ∀ simulatorId device,
    inventory.device? simulatorId = some device → simulatorId < world.outside.nextDevice →
      nameOf world.outside simulatorId = some device.name
  since : KeepsNames surroundings → ∀ simulatorId device,
    inventory.device? simulatorId = some device →
      ∀ name, nameOf after.outside simulatorId = some name → name = device.name

theorem mem_deviceIds {inventory : SimctlInventory} {simulatorId : SimulatorId} :
    simulatorId ∈ inventory.deviceIds ↔ ∃ device ∈ inventory.devices, device.udid = simulatorId := by
  rw [SimctlInventory.deviceIds, List.mem_eraseDups, List.mem_map]

theorem device?_eq_none {inventory : SimctlInventory} {simulatorId : SimulatorId} :
    inventory.device? simulatorId = none ↔ simulatorId ∉ inventory.deviceIds := by
  simp only [SimctlInventory.device?, Option.map_eq_none_iff, lastOf, List.find?_eq_none,
    List.mem_reverse, decide_eq_true_eq, mem_deviceIds, not_exists, not_and]

theorem mem_of_device? {inventory : SimctlInventory} {simulatorId : SimulatorId}
    {device : IndexedDevice} (hdevice : inventory.device? simulatorId = some device) :
    simulatorId ∈ inventory.deviceIds := by
  by_contra hmem
  rw [device?_eq_none.mpr hmem] at hdevice
  cases hdevice

theorem Listed.later {inventory : SimctlInventory} {last : World}
    (hlisted : Listed surroundings world after inventory)
    (honward : Onward surroundings after last) : Listed surroundings world last inventory where
  onward := hlisted.onward.trans honward
  drawn simulatorId hmem := (hlisted.drawn simulatorId hmem).trans_le honward.later.nextDevice
  gone hnever simulatorId hdrawn hmem :=
    honward.gone hnever simulatorId (hdrawn.trans_le hlisted.onward.later.nextDevice)
      (hlisted.gone hnever simulatorId hdrawn hmem)
  before := hlisted.before
  since hkeeps simulatorId device hdevice name hname :=
    hlisted.since hkeeps simulatorId device hdevice name
      (honward.nameOf hkeeps (hlisted.drawn _ (mem_of_device? hdevice)) hname)

theorem Listed.begun {inventory : SimctlInventory} {first : World}
    (hlisted : Listed surroundings world after inventory)
    (honward : Onward surroundings first world) : Listed surroundings first after inventory where
  onward := honward.trans hlisted.onward
  drawn := hlisted.drawn
  gone hnever simulatorId hdrawn :=
    hlisted.gone hnever simulatorId (hdrawn.trans_le honward.later.nextDevice)
  before hkeeps simulatorId device hdevice hdrawn :=
    honward.nameOf hkeeps hdrawn (hlisted.before hkeeps simulatorId device hdevice
      (hdrawn.trans_le honward.later.nextDevice))
  since := hlisted.since

/-- The index gives a device the name it is listed under. -/
theorem nameOf_of_device? {inventory : SimctlInventory} {outside : Outside}
    {simulatorId : SimulatorId} {device : IndexedDevice}
    (hdevices : inventory.devices = outside.devices)
    (hdevice : inventory.device? simulatorId = some device) :
    nameOf outside simulatorId = some device.name := by
  unfold SimctlInventory.device? at hdevice
  obtain ⟨listed, hlisted, rfl⟩ := Option.map_eq_some_iff.mp hdevice
  rw [hdevices] at hlisted
  exact Option.map_eq_some_iff.mpr ⟨listed, hlisted, rfl⟩

theorem hosts_readSimctlInventory (hdrawn : Drawn surroundings distinct world) :
    Hosts surroundings distinct readSimctlInventory
      (fun inventory after => Listed surroundings world after inventory)
      (fun _ after => Onward surroundings world after) world := by
  unfold readSimctlInventory
  refine .seq (Hosts.frame (hostless_perform rfl)) (fun _ _ h => h) fun deviceTypes first hfirst => ?_
  have hdevices : Hosts surroundings distinct (perform .listDevices)
      (fun value after => value = first.outside.devices ∧ Onward surroundings first after)
      (fun _ after => Onward surroundings first after) first := by
    refine wp_perform (admits_of_onward rfl) ?_ ?_
    · exact fun value after hvalue hsettles => ⟨hvalue, moved_settles hsettles⟩
    · rintro error after - - (hsettles | ⟨hlate, -⟩)
      · exact moved_settles hsettles
      · cases hlate
  refine hdevices.seq (fun _ _ h => hfirst.trans h) ?_
  rintro devices second ⟨rfl, hsecond⟩
  refine .seq (Hosts.frame (hostless_perform rfl)) (fun _ _ h => (hfirst.trans hsecond).trans h)
    fun runtimes third hthird => .pure ?_
  have hrest := hsecond.trans hthird
  refine ⟨hfirst.trans hrest, ?_, ?_, ?_, ?_⟩
  · intro simulatorId hmem
    obtain ⟨device, hdevice, rfl⟩ := mem_deviceIds.mp hmem
    exact ((hdrawn.onward hfirst).devices device hdevice).trans_le hrest.later.nextDevice
  · intro hnever simulatorId hid hmem
    refine hrest.gone hnever simulatorId (hid.trans_le hfirst.later.nextDevice) ?_
    exact fun device hdevice hsame => hmem (mem_deviceIds.mpr ⟨device, hdevice, hsame⟩)
  · intro hkeeps simulatorId device hdevice hid
    exact hfirst.nameOf hkeeps hid (nameOf_of_device? rfl hdevice)
  · intro hkeeps simulatorId device hdevice name hname
    obtain ⟨listed, hmem, rfl⟩ := mem_deviceIds.mp (mem_of_device? hdevice)
    have hid : listed.udid < first.outside.nextDevice := (hdrawn.onward hfirst).devices listed hmem
    have hbefore := hrest.nameOf hkeeps hid hname
    rw [nameOf_of_device? rfl hdevice] at hbefore
    cases hbefore
    rfl

/-! ## Deleting and creating -/

/-- Once deleted, a simulator is gone. -/
theorem hosts_deleteDevice {simulatorId : SimulatorId} {site : DeviceSite} :
    Hosts surroundings distinct (perform (.deleteDevice simulatorId site))
      (fun _ after => Onward surroundings world after ∧
        (NeverReturns surroundings → simulatorId < world.outside.nextDevice →
          Absent after.outside simulatorId))
      (fun _ after => Onward surroundings world after) world := by
  refine wp_perform (admits_of_onward rfl) ?_ ?_
  · intro value after _ hsettles
    refine ⟨(onward_effect rfl).trans (moved_settles hsettles), fun hnever hid => ?_⟩
    refine hnever _ _ hsettles.drift simulatorId hid ?_
    intro device hdevice
    exact of_decide_eq_true (List.mem_filter.mp hdevice).2
  · rintro error after - - (hsettles | ⟨-, hsettles⟩)
    · exact moved_settles hsettles
    · exact (onward_effect rfl).trans (moved_settles hsettles)

theorem hosts_deleteAliasSimulator {simulatorId : SimulatorId} {site : DeviceSite} :
    Hosts surroundings distinct (deleteAliasSimulator simulatorId site)
      (fun _ after => Onward surroundings world after ∧
        (NeverReturns surroundings → simulatorId < world.outside.nextDevice →
          Absent after.outside simulatorId))
      (fun _ after => Onward surroundings world after) world := by
  unfold deleteAliasSimulator
  refine .seq (Hosts.frame (hostless_perform rfl)) (fun _ _ h => h) fun _ first hfirst => ?_
  refine hosts_deleteDevice.weaken ?_ fun _ _ h => hfirst.trans h
  rintro - after ⟨honward, hgone⟩
  exact ⟨hfirst.trans honward, fun hnever hid =>
    hgone hnever (hid.trans_le hfirst.later.nextDevice)⟩

/-- A created simulator has an identifier that was not drawn before, and its name. -/
theorem hosts_createDevice {name deviceTypeIdentifier runtimeIdentifier : String}
    (hdevices : world.outside.DevicesDrawn) :
    Hosts surroundings distinct
      (perform (.createDevice name deviceTypeIdentifier runtimeIdentifier))
      (fun simulatorId after => Onward surroundings world after ∧
        world.outside.nextDevice ≤ simulatorId ∧ simulatorId < after.outside.nextDevice ∧
          (KeepsNames surroundings →
            ∀ last, nameOf after.outside simulatorId = some last → last = name))
      (fun _ after => Onward surroundings world after) world := by
  refine wp_perform (admits_of_onward rfl) ?_ ?_
  · intro value after hvalue hsettles
    have hsettled : Onward surroundings _ after := moved_settles hsettles
    have hid : value = world.outside.nextDevice := hvalue
    rw [hid]
    refine ⟨(onward_effect rfl).trans hsettled, le_rfl, hsettled.later.nextDevice, ?_⟩
    intro hkeeps last hlast
    have hcreated : nameOf (world.outside.createDevice name deviceTypeIdentifier runtimeIdentifier)
        world.outside.nextDevice = some last :=
      hsettled.nameOf hkeeps (Nat.lt_succ_self _) hlast
    rw [nameOf_created hdevices] at hcreated
    cases hcreated
    rfl
  · rintro error after - - (hsettles | ⟨-, hsettles⟩)
    · exact moved_settles hsettles
    · exact (onward_effect rfl).trans (moved_settles hsettles)

/-! ## Replacing -/

/-- The file and the config in memory go together. -/
structure Kept (surroundings : Surroundings) (distinct : Prop) (world : World)
    (config : HostConfig) : Prop where
  drawn : Drawn surroundings distinct world
  retains : Retains surroundings world config
  sound : KeepsNames surroundings → distinct → Sound world.outside config

theorem Kept.onward (hkept : Kept surroundings distinct world config)
    (honward : Onward surroundings world after) : Kept surroundings distinct after config where
  drawn := hkept.drawn.onward honward
  retains := hkept.retains.moved hkept.drawn honward
  sound hkeeps hdistinct := by
    obtain ⟨hvalid, hnamed⟩ := hkept.sound hkeeps hdistinct
    refine ⟨hvalid, hnamed.moved honward hkeeps ?_ (allows_none _)⟩
    exact fun simulatorId hmem => hkept.retains.drawn simulatorId (List.mem_append_left _ hmem)

/-- The config that was read. -/
theorem Kept.read (hdrawn : Drawn surroundings distinct world) (hread : ReadConfig world config) :
    Kept surroundings distinct world config where
  drawn := hdrawn
  retains := .read hdrawn hread
  sound hkeeps hdistinct := by
    obtain ⟨disk, hdisk, hvalid, rfl⟩ := hread
    exact ⟨hvalid, (hdrawn.sound hkeeps hdistinct disk hdisk).named⟩

/-- The config is the one on disk. -/
structure Written (surroundings : Surroundings) (distinct : Prop) (world : World)
    (config : HostConfig) : Prop extends Kept surroundings distinct world config where
  disk : world.store.hostConfig = some config

theorem Written.onward (hwritten : Written surroundings distinct world config)
    (honward : Onward surroundings world after) : Written surroundings distinct after config :=
  ⟨hwritten.toKept.onward honward, by rw [honward.hostConfig, hwritten.disk]⟩

theorem hosts_rename (hkept : Kept surroundings distinct world config) :
    Hosts surroundings distinct (perform (.rename (.hostConfig config)))
      (fun _ after => Written surroundings distinct after config)
      (fun _ after => Kept surroundings distinct after config) world := by
  refine (Hosts.rename hkept.drawn hkept.retains hkept.sound).weaken ?_ fun _ _ h => hkept.onward h
  rintro - after ⟨hdrawn, hretains, hdisk⟩
  exact ⟨⟨hdrawn, hretains, fun hkeeps hdistinct => hdrawn.sound hkeeps hdistinct _ hdisk⟩, hdisk⟩

theorem hosts_writeHostConfig (hkept : Kept surroundings distinct world config) :
    Hosts surroundings distinct (writeHostConfig config)
      (fun _ after => Written surroundings distinct after config)
      (fun _ after => Kept surroundings distinct after config) world := by
  unfold writeHostConfig writeJsonAtomicRestricted
  have hpart : ∀ {op : BrokerOp} {before : World}, touchesHost op = false →
      Kept surroundings distinct before config → Hosts surroundings distinct (perform op)
        (fun _ after => Kept surroundings distinct after config)
        (fun _ after => Kept surroundings distinct after config) before := fun hop hbefore =>
    (Hosts.frame (hostless_perform hop)).weaken (fun _ _ h => hbefore.onward h)
      fun _ _ h => hbefore.onward h
  refine .seq (hpart rfl hkept) (fun _ _ h => h) fun _ first hfirst => ?_
  refine .seq (hpart rfl hfirst) (fun _ _ h => h) fun _ second hsecond => ?_
  refine .seq (hpart rfl hsecond) (fun _ _ h => h) fun _ third hthird => ?_
  refine .seq (hosts_rename hthird) (fun _ _ h => h) fun _ fourth hfourth => ?_
  exact (Hosts.frame (hostless_perform rfl)).weaken (fun _ _ h => hfourth.onward h)
    fun _ _ h => hfourth.toKept.onward h

theorem hosts_writeJsonAtomicDurable (hkept : Kept surroundings distinct world config) :
    Hosts surroundings distinct (writeJsonAtomicDurable config)
      (fun _ after => Written surroundings distinct after config)
      (fun _ after => Kept surroundings distinct after config) world := by
  unfold writeJsonAtomicDurable
  have hpart : ∀ {body : Broker Unit} {before : World}, Hostless body →
      Kept surroundings distinct before config → Hosts surroundings distinct body
        (fun _ after => Kept surroundings distinct after config)
        (fun _ after => Kept surroundings distinct after config) before := fun hhostless hbefore =>
    (Hosts.frame hhostless).weaken (fun _ _ h => hbefore.onward h) fun _ _ h => hbefore.onward h
  refine .seq (hpart (hostless_perform rfl) hkept) (fun _ _ h => h) fun _ first hfirst => ?_
  refine .seq (?_ : Hosts surroundings distinct _
    (fun _ after => Written surroundings distinct after config)
    (fun _ after => Kept surroundings distinct after config) first) (fun _ _ h => h)
    fun _ second hsecond => ?_
  · refine .tryCatch (?_ : Hosts surroundings distinct _ _
      (fun _ after => Kept surroundings distinct after config) first) ?_
    · refine .seq (hpart (hostless_perform rfl) hfirst) (fun _ _ h => h) fun _ opened hopened => ?_
      refine .seq (hpart (.tryCatch (.bind (hostless_perform rfl) fun _ => .bind
        (hostless_perform rfl) fun _ => hostless_perform rfl) fun _ => .bind
          (hostless_ignoringErrors (hostless_perform rfl)) fun _ => .throw _) hopened)
        (fun _ _ h => h) fun _ written hwritten => ?_
      exact hosts_rename hwritten
    · intro error after hafter
      exact .seq (hpart (hostless_perform rfl) hafter) (fun _ _ h => h) fun _ _ h => .throw h
  · have hsync : Hosts surroundings distinct
        (do
          perform (.fs .openDirectory)
          Program.ensuring (perform (.fs .syncDirectory)) (perform (.fs .closeTemp)))
        (fun _ after => Written surroundings distinct after config)
        (fun _ after => Written surroundings distinct after config) second :=
      (Hosts.frame (.bind (hostless_perform rfl) fun _ =>
        .ensuring (hostless_perform rfl) (hostless_perform rfl))).weaken
          (fun _ _ h => hsecond.onward h) fun _ _ h => hsecond.onward h
    exact hsync.tryCatch fun error after hafter => .throw hafter.toKept

/-! ## Locks -/

/-- A program that leaves the file as it should be. -/
abbrev Keeps {α : Type} (surroundings : Surroundings) (distinct : Prop) (body : Broker α)
    (world : World) : Prop :=
  Hosts surroundings distinct body (fun _ after => Drawn surroundings distinct after)
    (fun _ after => Drawn surroundings distinct after) world

theorem keeps_of_hostless {body : Broker α} (hdrawn : Drawn surroundings distinct world)
    (hbody : Hostless body) : Keeps surroundings distinct body world :=
  (Hosts.frame hbody).weaken (fun _ _ h => hdrawn.onward h) fun _ _ h => hdrawn.onward h

theorem keeps_withLock {name : LockName} {work : Broker α}
    (hdrawn : Drawn surroundings distinct world)
    (hwork : ∀ before, Drawn surroundings distinct before →
      Keeps surroundings distinct work before) :
    Keeps surroundings distinct (withLock name work) world := by
  unfold withLock ensureStatePaths
  refine .seq (keeps_of_hostless hdrawn (hostless_perform rfl)) (fun _ _ h => h)
    fun _ first hfirst => ?_
  refine .seq (keeps_of_hostless hfirst (hostless_perform rfl)) (fun _ _ h => h)
    fun _ second hsecond => ?_
  refine .ensuring ((hwork second hsecond).weaken ?_ ?_)
  · exact fun value before hbefore => keeps_of_hostless hbefore (hostless_perform rfl)
  · exact fun error before hbefore => keeps_of_hostless hbefore (hostless_perform rfl)

end SimulatorBroker.Hosting
