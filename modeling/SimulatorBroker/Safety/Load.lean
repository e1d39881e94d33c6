import SimulatorBroker.Safety.Scan

/-!
# Loading the state

What `loadBrokerState` returns: a registry that tracks the files, the lease of
each alias, and the pins.
-/

namespace SimulatorBroker.Safety

open SimulatorBroker.Effects
open SimulatorBroker.State
open SimulatorBroker.Broker

variable {context : Context} {first world after : World} {registry : Registry}
  {timestamp : Timestamp}

/-! ## Synchronizing -/

@[simp]
theorem syncEntry_active (verdict : SyncVerdict) (entry : RegistryEntry) :
    (syncEntry verdict entry).activeLeaseId = entry.activeLeaseId := by
  cases verdict with
  | matching powerState =>
      simp only [syncEntry]
      split
      · rfl
      · split <;> rfl
  | _ => rfl

theorem syncEntry_counted (verdict : SyncVerdict) (entry : RegistryEntry) :
    (syncEntry verdict entry).leasesSinceErase = entry.leasesSinceErase ∧
      (syncEntry verdict entry).lastLeaseReleasedAt = entry.lastLeaseReleasedAt := by
  cases verdict with
  | matching powerState =>
      simp only [syncEntry]
      split
      · exact ⟨rfl, rfl⟩
      · split <;> exact ⟨rfl, rfl⟩
  | _ => exact ⟨rfl, rfl⟩

/-- The inventory never makes an unhealthy alias healthy. -/
theorem syncEntry_latched {verdict : SyncVerdict} {entry : RegistryEntry}
    (hlatched : entry.health.latched = true) :
    (syncEntry verdict entry).health.latched = true := by
  cases verdict with
  | matching powerState =>
      simp only [syncEntry]
      split
      · rfl
      · cases hhealth : entry.health <;> simp_all [Health.latched]
  | _ => rfl

/-- It keeps the cause of an unhealthy alias and gives none. -/
theorem syncEntry_cause {verdict : SyncVerdict} {entry : RegistryEntry} {code : ReasonCode}
    (hcode : (syncEntry verdict entry).driftCauseCode = some code) :
    entry.driftCauseCode = some code := by
  cases verdict with
  | matching powerState =>
      simp only [syncEntry] at hcode
      split at hcode
      · exact hcode
      · split at hcode <;> first | exact hcode | simp at hcode
  | _ => exact hcode

/-! ## Adopting holders -/

/-- The entry with the lease and the pin found for it. -/
def adoptedEntry (leasesByAlias : AliasName → Option Lease) (pinsByAlias : AliasName → Option Pin)
    (timestamp : Timestamp) (name : AliasName) (entry : RegistryEntry) : RegistryEntry :=
  { entry with
    activeLeaseId := (leasesByAlias name).map (·.leaseId)
    pinId := (pinsByAlias name).map (·.pinId)
    updatedAt := timestamp }

theorem find_isSome_iff {config : HostConfig} {name : AliasName} :
    (config.find name).isSome ↔ name ∈ config.aliasNames := by
  simp [HostConfig.find, HostConfig.aliasNames]

/-- What adopting and synchronizing make of the entry of a configured alias. -/
theorem synchronized_aliases (registry : Registry) (timestamp : Timestamp) {config : HostConfig}
    {name : AliasName} (hname : name ∈ config.aliasNames) (inventory : SimctlInventory)
    (leasesByAlias : AliasName → Option Lease) (pinsByAlias : AliasName → Option Pin) :
    ∃ verdict,
      (syncRegistry config inventory
        (adoptHolders leasesByAlias pinsByAlias config timestamp registry)).aliases name =
        (registry.aliases name).map fun entry =>
          syncEntry verdict (adoptedEntry leasesByAlias pinsByAlias timestamp name entry) := by
  obtain ⟨hostAlias, hfind⟩ := Option.isSome_iff_exists.mp (find_isSome_iff.mpr hname)
  refine ⟨syncVerdict inventory hostAlias, ?_⟩
  simp only [syncRegistry, hfind, adoptHolders, hname, if_true, Option.map_map]
  rfl

theorem synchronized_aliases_of_not_mem {config : HostConfig} {name : AliasName}
    (hname : name ∉ config.aliasNames) (inventory : SimctlInventory)
    (leasesByAlias : AliasName → Option Lease) (pinsByAlias : AliasName → Option Pin) :
    (syncRegistry config inventory
      (adoptHolders leasesByAlias pinsByAlias config timestamp registry)).aliases name =
      registry.aliases name := by
  have hfind : config.find name = none := by
    rw [← Option.not_isSome_iff_eq_none, find_isSome_iff]
    exact hname
  simp [syncRegistry, hfind, adoptHolders, hname]

/-- Every entry that adopting and synchronizing leave was there before. -/
theorem synchronized_cases (hmirrors : Mirrors world registry) {config : HostConfig}
    (hconfig : world.store.configuredAliases = config.aliasNames) {inventory : SimctlInventory}
    {leasesByAlias : AliasName → Option Lease} {pinsByAlias : AliasName → Option Pin}
    {name : AliasName} {entry : RegistryEntry}
    (hentry : (syncRegistry config inventory
      (adoptHolders leasesByAlias pinsByAlias config timestamp registry)).aliases name =
        some entry) :
    ∃ verdict old, registry.aliases name = some old ∧
      entry = syncEntry verdict (adoptedEntry leasesByAlias pinsByAlias timestamp name old) := by
  by_cases hname : name ∈ config.aliasNames
  · obtain ⟨verdict, haliases⟩ :=
      synchronized_aliases registry timestamp hname inventory leasesByAlias pinsByAlias
    rw [haliases] at hentry
    obtain ⟨old, hold, rfl⟩ := Option.map_eq_some_iff.mp hentry
    exact ⟨verdict, old, hold, rfl⟩
  · rw [synchronized_aliases_of_not_mem hname, hmirrors.absent name (hconfig ▸ hname)] at hentry
    simp at hentry

/-- After the scan, adopting and synchronizing give a registry that tracks the
files. -/
theorem Scanned.tracks {skipLeaseIds : List LeaseId} {scan : LoadScan} {config : HostConfig}
    (hscanned : Scanned context timestamp skipLeaseIds first [] scan world)
    (hinvariant : Invariant context world)
    (hconfig : world.store.configuredAliases = config.aliasNames) (inventory : SimctlInventory)
    (pinsByAlias : AliasName → Option Pin) :
    Tracks context world
      (syncRegistry config inventory
        (adoptHolders (indexLeases scan.activeLeases) pinsByAlias config timestamp scan.registry))
      {} := by
  have hperm : scan.activeLeases.Perm world.store.leases := by simpa using hscanned.leases
  refine ⟨?_, ?_, ?_, ?_, ?_, ?_⟩
  · intro name hname hlatched
    obtain ⟨disk, hdisk, hhealth⟩ := hinvariant.latched name hlatched
    obtain ⟨old, hold⟩ := hscanned.mirrors.present name hname
    have hsame := (hscanned.mirrors.entry name old hold).health
    rw [hdisk] at hsame
    obtain ⟨verdict, haliases⟩ := synchronized_aliases scan.registry timestamp
      (hconfig ▸ hname) inventory (indexLeases scan.activeLeases)
      pinsByAlias
    refine .inr ⟨_, by rw [haliases, hold]; rfl, syncEntry_latched ?_⟩
    rw [show (adoptedEntry (indexLeases scan.activeLeases) pinsByAlias timestamp name old).health
      = old.health from rfl, hsame]
    exact hhealth
  · intro name entry code hentry hcode
    obtain ⟨verdict, old, hold, rfl⟩ := synchronized_cases hscanned.mirrors hconfig hentry
    have hmirrored := hscanned.mirrors.entry name old hold
    have holdCode := syncEntry_cause hcode
    obtain ⟨disk, hdisk, hdiskCode⟩ :=
      Option.bind_eq_some_iff.mp (hmirrored.cause code holdCode)
    obtain ⟨hcause, hhealth⟩ := hinvariant.cause name disk code hdisk hdiskCode
    have hsame := hmirrored.health
    rw [hdisk] at hsame
    refine ⟨syncEntry_latched ?_, .inr hcause⟩
    rw [show (adoptedEntry (indexLeases scan.activeLeases) pinsByAlias timestamp name old).health
      = old.health from rfl, hsame]
    exact hhealth
  · intro name hname
    obtain ⟨old, hold⟩ := hscanned.mirrors.present name hname
    obtain ⟨verdict, haliases⟩ := synchronized_aliases scan.registry timestamp
      (hconfig ▸ hname) inventory (indexLeases scan.activeLeases)
      pinsByAlias
    exact ⟨_, by rw [haliases, hold]; rfl⟩
  · intro name entry hentry
    obtain ⟨verdict, old, hold, rfl⟩ := synchronized_cases hscanned.mirrors hconfig hentry
    rw [syncEntry_active, ← indexLeases_perm hinvariant.toConsistent hperm]
    rfl
  · exact fun lease hlease => hscanned.gone lease (hperm.mem_iff.mpr hlease)
  · intro hrecords name entry hentry
    obtain ⟨verdict, old, hold, rfl⟩ := synchronized_cases hscanned.mirrors hconfig hentry
    obtain ⟨hcount, hlast⟩ := syncEntry_counted verdict
      (adoptedEntry (indexLeases scan.activeLeases) pinsByAlias timestamp name old)
    rw [hcount, hlast]
    exact hscanned.tallied hrecords name old hold

/-! ## The loaded state -/

/-- The state in memory is current: its host config is the one on disk, its
registry tracks the files, it knows the lease and the pins of each alias. -/
structure Current (context : Context) (state : BrokerState) (world : World) : Prop where
  config : ReadConfig world state.hostConfig
  tracks : Tracks context world state.registry {}
  byAlias : state.leasesByAlias = holder world
  pins : state.pins.Perm world.store.pins
  byPin : state.pinsByAlias = indexPins state.pins

/-- A load also counts exactly the lease files that are left. -/
structure Loaded (context : Context) (state : BrokerState) (world : World) : Prop
    extends Current context state world where
  leases : state.leases.Perm world.store.leases

theorem Current.kept {state : BrokerState} (hkept : Kept world after)
    (hcurrent : Current context state world) : Current context state after where
  config := hcurrent.config.kept hkept
  tracks := hcurrent.tracks.kept hkept
  byAlias := hkept.holder ▸ hcurrent.byAlias
  pins := hkept.pins ▸ hcurrent.pins
  byPin := hcurrent.byPin

theorem Loaded.kept {state : BrokerState} (hkept : Kept world after)
    (hloaded : Loaded context state world) : Loaded context state after :=
  ⟨hloaded.toCurrent.kept hkept, hkept.leases ▸ hloaded.leases⟩

/-- An alias without a pin in the index has no pin file. -/
theorem Current.unpinned {state : BrokerState} (hcurrent : Current context state world)
    {name : AliasName} (hpin : state.pinsByAlias name = none) : Unpinned world name := by
  intro pin hmem halias
  rw [hcurrent.byPin] at hpin
  have habsent := List.find?_eq_none.mp hpin pin
    (List.mem_reverse.mpr (hcurrent.pins.mem_iff.mpr hmem))
  simp [halias] at habsent

/-- A pin file is the one in the index. -/
theorem Current.pinned {paths : BrokerPaths} {state : BrokerState}
    (hcurrent : Current context state world) (hconsistent : Consistent paths world) {pin : Pin}
    (hpin : pin ∈ world.store.pins) : state.pinsByAlias pin.aliasName = some pin := by
  cases hfind : state.pinsByAlias pin.aliasName with
  | none => exact absurd rfl (hcurrent.unpinned hfind pin hpin)
  | some other =>
      rw [hcurrent.byPin] at hfind
      have hmem : other ∈ world.store.pins := hcurrent.pins.mem_iff.mp
        (List.mem_reverse.mp (List.mem_of_find?_eq_some hfind))
      have halias : other.aliasName = pin.aliasName := by simpa using List.find?_some hfind
      rw [eq_of_nodup_map hconsistent.pinAliases hmem hpin halias]

/-- An alias without a lease in the index has no lease file. -/
theorem Current.free {state : BrokerState} (hcurrent : Current context state world)
    {name : AliasName} (hlease : state.leasesByAlias name = none) :
    ∀ lease ∈ world.store.leases, lease.aliasName ≠ name := by
  rw [hcurrent.byAlias] at hlease
  exact holder_eq_none.mp hlease

theorem inactive_of_free {name : AliasName} {alive : LeaseId → Prop}
    (hfree : ∀ lease ∈ world.store.leases, lease.aliasName ≠ name) : Inactive alive world name :=
  fun lease hlease halias => absurd halias (hfree lease hlease)

/-- An alias of the config is the only one bound to its simulator on disk. -/
theorem ReadConfig.destructiveOk {config : HostConfig} (hread : ReadConfig world config)
    {hostAlias : HostAlias} (hmem : hostAlias ∈ config.aliases) {site : DeviceSite}
    (hpermitted : Permitted context world hostAlias site) :
    DestructiveOk context world hostAlias.simulatorId site := by
  obtain ⟨disk, hdisk, hvalid, rfl⟩ := hread
  intro other hother bound hbound hsame
  rw [hdisk, Option.some_inj] at hother
  subst hother
  rwa [eq_of_nodup_map hvalid.simulators hbound hmem hsame]

/-- What a load leaves. -/
structure LoadDone (context : Context) (skipLeaseIds : List LeaseId) (first : World)
    (state : BrokerState) (after : World) : Prop where
  host : HostKept first after
  loaded : Loaded context state after
  agree : Agree after
  counted : Counted context after
  skipped : ∀ lease ∈ first.store.leases, lease.leaseId ∈ skipLeaseIds →
    lease ∈ after.store.leases

theorem safe_writeLoadedRegistry {options : LoadOptions}
    (htracks : Tracks context world registry {}) :
    Safe context (writeLoadedRegistry options registry)
      (fun _ after => RegistryWritten registry {} world after)
      (fun _ after => ¬ RecordsEnds context.surroundings ∧
        (Kept world after ∨ RegistryWritten registry {} world after)) world := by
  unfold writeLoadedRegistry
  split
  · exact .catch (safe_writeTracked htracks) fun _ _ h => .throw h
  · exact safe_writeTracked htracks

theorem safe_writeKnownProjects {projects : List ProjectConfig} (hfirst : Kept first world) :
    Safe context (writeKnownProjects projects) (fun _ after => Kept first after)
      (fun _ after => ¬ RecordsEnds context.surroundings ∧ Kept first after) world := by
  have heffect := kept_effect (.rename (.knownProjects projects)) rfl world
  have hok : StepOk context (.rename (.knownProjects projects)) world := trivial
  refine (safe_writeJsonAtomicRestricted hok).weaken ?_ ?_
  · exact fun _ _ _ hwritten => (hfirst.trans heffect).trans hwritten.toKept
  · rintro error failed - ⟨hfails, hstill | hwritten⟩
    · exact ⟨hfails, hfirst.trans hstill.toKept⟩
    · exact ⟨hfails, (hfirst.trans heffect).trans hwritten.toKept⟩

theorem safe_syncRegistryWithSimctl {config : HostConfig} {inventory : Option SimctlInventory} :
    Safe context (syncRegistryWithSimctl config registry inventory)
      (fun synced after => Still world after ∧
        ∃ inventory, synced = syncRegistry config inventory registry)
      (fun _ after => Still world after ∧ Unpending context world) world := by
  unfold syncRegistryWithSimctl
  cases inventory with
  | some inventory => exact .pure ⟨.refl world, inventory, rfl⟩
  | none =>
      refine .seq safe_readSimctlInventory (fun _ _ _ h => h) fun inventory read hread => ?_
      exact .pure ⟨hread.1, inventory, rfl⟩

theorem normalized_cases {rawRegistry : Option Registry} {config : HostConfig}
    (hregistry : rawRegistry = world.store.registry) {name : AliasName} {entry : RegistryEntry}
    (hentry : (normalizeRegistry rawRegistry config timestamp).aliases name = some entry) :
    entry = normalizeRegistryEntry (world.store.entry name) timestamp := by
  subst hregistry
  by_cases hname : name ∈ config.aliasNames
  · simp only [normalizeRegistry, hname, if_true, Option.some_inj] at hentry
    rw [← hentry, Store.entry]
    cases world.store.registry <;> rfl
  · simp [normalizeRegistry, hname] at hentry

/-- The normalized registry mirrors the one on disk, with nothing marked. -/
theorem mirrors_normalized {rawRegistry : Option Registry} {config : HostConfig}
    (hregistry : rawRegistry = world.store.registry)
    (hconfig : world.store.configuredAliases = config.aliasNames) (timestamp : Timestamp) :
    Mirrors world (normalizeRegistry rawRegistry config timestamp) := by
  refine ⟨?_, ?_, ?_, ?_⟩
  · intro name hname
    rw [hconfig] at hname
    exact ⟨_, by simp only [normalizeRegistry, hname, if_true]; rfl⟩
  · intro name hname
    rw [hconfig] at hname
    simp [normalizeRegistry, hname]
  · intro name entry hentry
    rw [normalized_cases hregistry hentry]
    exact (mirrorsEntry_normalized _ timestamp).1
  · intro lease _ entry hentry
    rw [normalized_cases hregistry hentry]
    exact (mirrorsEntry_normalized _ timestamp).2

theorem tallied_normalized {rawRegistry : Option Registry} {config : HostConfig}
    (hregistry : rawRegistry = world.store.registry) (hexact : Exact world)
    (timestamp : Timestamp) :
    Tallied world (normalizeRegistry rawRegistry config timestamp) {} := by
  intro name entry hentry
  rw [normalized_cases hregistry hentry]
  cases hdisk : world.store.entry name with
  | none =>
      obtain ⟨hcount, hlast⟩ := hexact.absent name hdisk
      simp [normalizeRegistryEntry, hcount, hlast]
  | some disk =>
      obtain ⟨hcount, hlast⟩ := hexact.counted name disk hdisk
      simp [normalizeRegistryEntry, hcount, hlast]

/-- At the start of the loop nothing is marked yet. -/
theorem scanning_start {rawRegistry : Option Registry} {config : HostConfig}
    {leases : List Lease} {skipLeaseIds : List LeaseId} (hfirst : Kept first world)
    (hcounted : Counted context world) (hregistry : rawRegistry = world.store.registry)
    (hconfig : world.store.configuredAliases = config.aliasNames)
    (hleases : leases.Perm world.store.leases) :
    Scanning context timestamp skipLeaseIds first leases
      { registry := normalizeRegistry rawRegistry config timestamp } world := by
  refine ⟨⟨hfirst.host, by simpa using hleases, mirrors_normalized hregistry hconfig timestamp,
    by simp, ?_, .none _ _ _, ?_⟩, ?_⟩
  · exact fun hrecords => tallied_normalized hregistry (hcounted hrecords) timestamp
  · exact fun lease hlease _ => hfirst.leases ▸ hlease
  · exact fun hrecords _ => hcounted hrecords

theorem safe_loadBrokerState {options : LoadOptions} (hcounted : Counted context world)
    (hok : LoadOk context options.timestamp options.skipLeaseIds world) :
    Safe context (loadBrokerState context.paths options)
      (LoadDone context options.skipLeaseIds world) (LoadFailed context world) world := by
  have hfailed : ∀ (error : BrokerError) after, Still world after →
      LoadFailed context world error after := fun _ after hstill =>
    ⟨hstill.toKept.host, hstill.toKept.counted hcounted⟩
  unfold loadBrokerState
  refine .seq safe_ensureStatePaths (fun _ _ _ h => hfailed _ _ h.1) fun _ ensured hensured => ?_
  refine .seq safe_readHostConfigOrThrow (fun _ _ _ h => hfailed _ _ (hensured.trans h))
    fun config configured hconfigured => ?_
  obtain ⟨hconfig, hstill⟩ := hconfigured
  replace hconfig := hconfig.kept hstill.toKept
  replace hstill := hensured.trans hstill
  refine .seq (safe_read rfl (by simp)) (fun _ _ _ h => hfailed _ _ (hstill.trans h.1))
    fun knownProjects projects hprojects => ?_
  replace hconfig := hconfig.kept hprojects.2.toKept
  replace hstill := hstill.trans hprojects.2
  refine .seq (safe_read rfl (by simp)) (fun _ _ _ h => hfailed _ _ (hstill.trans h.1))
    fun rawRegistry read hread => ?_
  obtain ⟨hregistry, hreadStill⟩ := hread
  replace hregistry : rawRegistry = read.store.registry := by
    rw [hreadStill.registry]
    exact hregistry
  replace hconfig := hconfig.kept hreadStill.toKept
  replace hstill := hstill.trans hreadStill
  refine .seq (safe_read rfl (by simp)) (fun _ _ _ h => hfailed _ _ (hstill.trans h.1))
    fun pins pinned hpinned => ?_
  obtain ⟨hpins, hpinnedStill⟩ := hpinned
  replace hregistry : rawRegistry = pinned.store.registry := by
    rw [hpinnedStill.registry]
    exact hregistry
  replace hconfig := hconfig.kept hpinnedStill.toKept
  have hpins : pins.Perm world.store.pins := hstill.pins ▸ hpins
  replace hstill := hstill.trans hpinnedStill
  refine .seq (safe_read rfl (by simp)) (fun _ _ _ h => hfailed _ _ (hstill.trans h.1))
    fun leases listed hlisted => ?_
  obtain ⟨hleases, hlistedStill⟩ := hlisted
  replace hregistry : rawRegistry = listed.store.registry := by
    rw [hlistedStill.registry]
    exact hregistry
  replace hconfig := hconfig.kept hlistedStill.toKept
  have hleases : leases.Perm listed.store.leases := by
    rw [hlistedStill.leases]
    exact hleases
  replace hstill := hstill.trans hlistedStill
  have hstart : Scanning context options.timestamp options.skipLeaseIds world leases
      { registry := normalizeRegistry rawRegistry config options.timestamp } listed :=
    scanning_start hstill.toKept (hstill.toKept.counted hcounted) hregistry
      hconfig.configuredAliases hleases
  refine .seq (.foldlM (fun rest scan after =>
    Scanning context options.timestamp options.skipLeaseIds world rest scan after)
    (fun lease rest scan before hscanning => safe_scanLease hok hscanning)
    (fun _ _ _ h => h) leases _ hstart) (fun _ _ _ h => h) fun scan scanned hscanned => ?_
  refine .seq safe_syncRegistryWithSimctl (fun error _ _ h =>
    hscanned.interrupted (.of_unpending h.1.toKept.butLeases h.2) error)
    fun synced settled hsynced => ?_
  obtain ⟨hsettled, inventory, rfl⟩ := hsynced
  replace hscanned := hscanned.kept hsettled.toKept
  have hconfig : ReadConfig settled config := hconfig.of_hostConfig
    (hscanned.host.hostConfig.trans hstill.hostConfig.symm)
  refine .assume fun hinvariant => ?_
  have htracks := (hscanned.toScanned.tracks hinvariant hconfig.configuredAliases inventory
    (indexPins pins)).touch options.timestamp
  refine .seq (safe_writeLoadedRegistry htracks) ?_ fun _ written hwritten => ?_
  · rintro error failed - ⟨hfails, hkept | hwritten⟩
    · exact ⟨hscanned.host.trans hkept.host, fun hrecords => absurd hrecords hfails⟩
    · exact ⟨hscanned.host.trans ⟨hwritten.hostConfig, hwritten.pins, hwritten.later⟩,
        fun hrecords => absurd hrecords hfails⟩
  have hhost : HostKept world written :=
    hscanned.host.trans ⟨hwritten.hostConfig, hwritten.pins, hwritten.later⟩
  refine .seq (safe_writeKnownProjects (.refl written)) ?_ fun _ after hafter => ?_
  · exact fun _ failed _ h => ⟨hhost.trans h.2.host, fun hrecords => absurd hrecords h.1⟩
  have hperm : scan.activeLeases.Perm settled.store.leases := by simpa using hscanned.leases
  have hloaded : Loaded context {
      hostConfig := config, knownProjects, leases := scan.activeLeases
      leasesByAlias := indexLeases scan.activeLeases, pins, pinsByAlias := indexPins pins
      registry := (syncRegistry config inventory (adoptHolders (indexLeases scan.activeLeases)
        (indexPins pins) config options.timestamp scan.registry)).touch options.timestamp
      timestamp := options.timestamp } written := by
    refine ⟨⟨hconfig.of_hostConfig hwritten.hostConfig, htracks.written hwritten, ?_, ?_, rfl⟩, ?_⟩
    · funext name
      rw [hwritten.holder]
      exact indexLeases_perm hinvariant.toConsistent hperm name
    · rw [hhost.pins]
      exact hpins
    · rw [hwritten.leases]
      exact hperm
  refine .pure ⟨hhost.trans hafter.host, hloaded.kept hafter,
    hafter.agree (htracks.agree hwritten), hafter.counted (htracks.counted hwritten), ?_⟩
  intro lease hlease hid
  rw [hafter.leases, hwritten.leases]
  exact hscanned.skipped lease hlease hid

/-! ## Starting a command -/

/-- What a command relies on when it starts with a time it has read. -/
structure Ready (context : Context) (timestamp : Timestamp) (world : World) : Prop where
  since : context.since ≤ timestamp
  past : timestamp ≤ world.outside.clock
  drawn : context.drawnFrom ≤ world.outside.nextId
  counted : Counted context world

theorem Ready.kept (hkept : Kept world after) (hready : Ready context timestamp world) :
    Ready context timestamp after :=
  ⟨hready.since, hready.past.trans hkept.later.clock, hready.drawn.trans hkept.later.nextId,
    hkept.counted hready.counted⟩

/-- A load that skips no lease. -/
theorem Ready.loadOk (hready : Ready context timestamp world) :
    LoadOk context timestamp [] world :=
  ⟨hready.since, hready.past, by simp⟩

/-- The clock read now is as good as the one read before. -/
theorem safe_now (hready : Ready context timestamp world) {raise : BrokerError → World → Prop} :
    Safe context (perform .now)
      (fun now after => Still world after ∧ Ready context now after) raise world := by
  refine .opStill rfl trivial (fun now after hanswered hstill => ⟨hstill, ?_⟩)
    fun _ _ _ hof _ => hof.elim
  have hclock : now = world.outside.clock := hanswered
  subst hclock
  exact ⟨hready.since.trans hready.past, hstill.later.clock,
    hready.drawn.trans hstill.later.nextId, hstill.toKept.counted hready.counted⟩

end SimulatorBroker.Safety
