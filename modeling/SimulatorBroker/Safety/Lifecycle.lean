import SimulatorBroker.Broker.Lifecycle
import SimulatorBroker.Safety.Provision

/-!
# Lifecycle actions

An action touches the simulator of an alias nobody holds, or of the caller's own
lease, or of a lease it has just revoked; a repair replaces the host config by
one with the same aliases.
-/

namespace SimulatorBroker.Safety

open SimulatorBroker.Effects
open SimulatorBroker.State
open SimulatorBroker.Broker

variable {context : Context} {world after : World} {timestamp : Timestamp}
  {options : LifecycleOptions} {name : AliasName}

/-! ## The requester -/

/-- The requester's lease is the one on the alias; where it is the caller's own,
the caller's reference names it. -/
structure Requested (context : Context) (state : BrokerState) (name : AliasName)
    (requester : LifecycleRequester) (world : World) : Prop where
  lease : requester.activeLease = state.leasesByAlias name
  named : requester.holderMatches = true → ∃ lease, requester.activeLease = some lease ∧
    LeaseReference.Names context.reference world lease.leaseId

theorem Requested.still {state : BrokerState} {requester : LifecycleRequester}
    (hstill : Still world after) (hrequested : Requested context state name requester world) :
    Requested context state name requester after where
  lease := hrequested.lease
  named hmatches := by
    obtain ⟨lease, hlease, hnames⟩ := hrequested.named hmatches
    exact ⟨lease, hlease, hstill.names hnames⟩

theorem safe_loadLeaseReferenceForAlias {reference : LeaseReference} :
    Safe context (loadLeaseReferenceForAlias reference name)
      (fun lease after => Still world after ∧ ∀ found, lease = some found →
        LeaseReference.Names reference after found.leaseId)
      (fun _ after => Still world after) world := by
  unfold loadLeaseReferenceForAlias
  split
  · exact .pure ⟨.refl world, by simp⟩
  · refine .seq safe_loadLeaseByIdOrFile (fun _ _ _ h => h) fun lease found hfound => ?_
    obtain ⟨hstill, -, hnamed⟩ := hfound
    split
    · exact .throw hstill
    · refine .pure ⟨hstill, ?_⟩
      rintro _ ⟨⟩
      exact hstill.names hnamed

theorem safe_resolveLifecycleRequester {state : BrokerState}
    (hreference : context.reference = options.reference) :
    Safe context (resolveLifecycleRequester state options name)
      (fun requester after => Still world after ∧ Requested context state name requester after)
      (fun _ after => Still world after) world := by
  unfold resolveLifecycleRequester
  refine .seq safe_loadLeaseReferenceForAlias (fun _ _ _ h => h) fun lease found hfound => ?_
  obtain ⟨hstill, hnamed⟩ := hfound
  cases lease with
  | none => exact .pure ⟨hstill, rfl, by simp⟩
  | some lease =>
      dsimp only
      split
      · rename_i hactive
        obtain ⟨active, hholder, hid⟩ := Option.map_eq_some_iff.mp hactive
        refine .pure ⟨hstill, rfl, fun _ => ⟨active, hholder, ?_⟩⟩
        rw [hreference, hid]
        exact hnamed lease rfl
      · exact .throw hstill

/-- Boot and shutdown are refused for an unhealthy alias. -/
theorem safe_assertLifecycleHealth {action : LifecycleAction} {entry : RegistryEntry}
    {E : World → Prop} (hworld : E world) :
    Safe context (assertLifecycleHealth action entry)
      (fun _ after => after = world ∧
        (action = .boot ∨ action = .shutdown → entry.health.latched = false))
      (fun _ after => E after) world := by
  have hrefused : ∀ unhealthy : Prop, ∀ [Decidable unhealthy], ∀ code,
      (¬ unhealthy → action = .boot ∨ action = .shutdown → entry.health.latched = false) →
      Safe context (if unhealthy then throw (.broker code) else pure ())
        (fun _ after => after = world ∧
          (action = .boot ∨ action = .shutdown → entry.health.latched = false))
        (fun _ after => E after) world := by
    intro unhealthy _ code hhealth
    split
    · exact .throw hworld
    · exact .pure ⟨rfl, hhealth ‹_›⟩
  have hneither : ¬ (entry.health = .repairNeeded ∨ entry.health = .repairing) →
      entry.health.latched = false := by
    cases entry.health <;> simp [Health.latched]
  cases action with
  | boot => exact hrefused _ _ fun hnot _ => hneither hnot
  | shutdown => exact hrefused _ _ fun hnot _ => hneither hnot
  | erase => exact hrefused _ _ (by simp)
  | repair => exact hrefused _ _ (by simp)

/-! ## Forced override -/

theorem safe_requireOverrideReason {overrideReason : Option String} {E : World → Prop}
    (hworld : E world) :
    Safe context (requireOverrideReason overrideReason) (fun _ after => after = world)
      (fun _ after => E after) world := by
  unfold requireOverrideReason
  split
  · exact .throw hworld
  · exact .throw hworld
  · split
    · exact .throw hworld
    · exact .pure rfl

/-- A repair that may revoke the lease of another holder. -/
structure ForcesRepair (action : LifecycleAction) (options : LifecycleOptions)
    (leaseId : LeaseId) : Prop where
  repair : action = .repair
  forced : options.forceOverride = true
  expected : options.expectedLeaseId = some leaseId

/-- Only a repair overrides the holder, and the caller names the lease. -/
theorem safe_validateForceOverride {action : LifecycleAction} {requester : LifecycleRequester}
    {lease : Lease} {E : World → Prop} (hworld : E world) :
    Safe context (validateForceOverride action options requester name lease)
      (fun _ after => after = world ∧ ForcesRepair action options lease.leaseId)
      (fun _ after => E after) world := by
  unfold validateForceOverride
  dsimp only
  split
  · exact .throw (E := fun _ after => E after) hworld
  rename_i hrepair
  split
  · exact .throw (E := fun _ after => E after) hworld
  split
  · exact .throw (E := fun _ after => E after) hworld
  rename_i hforce
  refine .seq (safe_requireOverrideReason hworld) (fun _ _ _ h => h) fun _ reason hreason => ?_
  subst hreason
  split
  · exact .throw (E := fun _ after => E after) hworld
  split
  · exact .throw (E := fun _ after => E after) hworld
  rename_i hlease
  exact .pure ⟨rfl, not_not.mp hrepair, Bool.eq_true_of_not_eq_false hforce, not_not.mp hlease⟩

/-- The state after the end of a lease is current again. -/
theorem Current.ended {state : BrokerState} {lease : Lease} {site : UnlinkSite}
    (hcurrent : Current context state world) (hinvariant : Invariant context world)
    (hlease : lease ∈ world.store.leases) (hsite : site.releasedAt = some timestamp)
    (hstale : site.isStale = false)
    (hended : Ended state.registry lease site timestamp world after) :
    Current context
      ((state.withRegistry (markReleased state.registry lease.aliasName timestamp)).forgetLease
        lease.aliasName) after ∧ Settled context after := by
  obtain ⟨hmarked, hsettled⟩ := hcurrent.tracks.ended hinvariant hlease hsite hstale hended
  refine ⟨⟨hcurrent.config.of_hostConfig hended.hostKept.hostConfig, hmarked, ?_, ?_,
    hcurrent.byPin⟩, hsettled⟩
  · funext other
    rw [hended.holder hinvariant.toConsistent hlease]
    simp [BrokerState.forgetLease, BrokerState.withRegistry, hcurrent.byAlias]
  · rw [hended.hostKept.pins]
    exact hcurrent.pins

theorem safe_revokeLeaseForOverride {state : BrokerState} {lease : Lease}
    (hcurrent : Current context state world) (hcounted : Counted context world)
    (hlease : state.leasesByAlias lease.aliasName = some lease)
    (hspared : ¬ context.spared lease.leaseId) :
    Safe context (revokeLeaseForOverride context.paths state lease timestamp)
      (fun revoked after => Current context revoked after ∧ Settled context after ∧
        revoked.leasesByAlias lease.aliasName = none ∧ revoked.hostConfig = state.hostConfig)
      (fun _ after => Counted context after) world := by
  refine .assume fun hinvariant => ?_
  have hdisk : lease ∈ world.store.leases := by
    rw [hcurrent.byAlias] at hlease
    exact ((holder_eq_some hinvariant.toConsistent).mp hlease).1
  have htracks := hcurrent.tracks
  have hallowed := hinvariant.leaseArtifacts lease hdisk
  unfold revokeLeaseForOverride
  refine .seq (E := fun _ _ => False) (safe_assertLeaseArtifactPathAllowed hallowed)
    (fun _ _ _ h => h.elim) fun _ checked hchecked => ?_
  subst hchecked
  refine .seq (safe_writeRegistry (htracks.markOk hinvariant hdisk hspared timestamp))
    (fun _ _ _ h => counted_of_fails h.1) fun _ written hwritten => ?_
  refine .seq (safe_removeLeaseRecordFiles hallowed hspared)
    (fun _ _ _ h => counted_of_fails h.1) fun _ removed hremoved => ?_
  have hended : Ended state.registry lease (.revoked timestamp) timestamp checked removed :=
    ⟨written, hwritten.toKept, hremoved⟩
  obtain ⟨hlast, hsettled⟩ := hcurrent.ended hinvariant hdisk rfl rfl hended
  refine .seq (safe_appendEventRecord (.refl removed) (eventOk_of_ne (by simp) (by simp)))
    (fun _ _ _ h => h.elim) fun _ appended happended => ?_
  refine .pure ⟨hlast.kept happended.toKept, happended.toKept.settled hsettled, ?_, rfl⟩
  simp [BrokerState.forgetLease]

/-- What the action goes on with. -/
structure Admitted (context : Context) (state : BrokerState) (name : AliasName)
    (action : LifecycleAction) (first : World) (admitted : BrokerState) (world : World) : Prop where
  current : Current context admitted world
  settled : Settled context world
  config : admitted.hostConfig = state.hostConfig
  unchanged : action ≠ .repair → admitted = state ∧ world = first
  permitted : ∀ hostAlias : HostAlias, hostAlias.aliasName = name →
    Permitted context world hostAlias .lifecycle

theorem Current.lifecyclePermitted {state : BrokerState} (hcurrent : Current context state world)
    (hfree : state.leasesByAlias name = none) {hostAlias : HostAlias}
    (hname : hostAlias.aliasName = name) : Permitted context world hostAlias .lifecycle :=
  .inl (inactive_of_free (hname ▸ hcurrent.free hfree))

theorem safe_admitLifecycleRequester {state : BrokerState} {action : LifecycleAction}
    {requester : LifecycleRequester} (hcurrent : Current context state world)
    (hsettled : Settled context world) (hrequested : Requested context state name requester world)
    (hspared : ∀ leaseId, ForcesRepair action options leaseId → ¬ context.spared leaseId) :
    Safe context (admitLifecycleRequester context.paths state action options requester name timestamp)
      (fun admitted after => Admitted context state name action world admitted after)
      (fun _ after => Counted context after) world := by
  refine .assume fun hinvariant => ?_
  have hlease := hrequested.lease
  have hnamed := hrequested.named
  unfold admitLifecycleRequester
  cases hactive : requester.activeLease with
  | none =>
      rw [hactive] at hlease
      exact .pure ⟨hcurrent, hsettled, rfl, fun _ => ⟨rfl, rfl⟩,
        fun _ hname => hcurrent.lifecyclePermitted hlease.symm hname⟩
  | some lease =>
      rw [hactive] at hlease hnamed
      have hholder : holder world name = some lease := hcurrent.byAlias ▸ hlease.symm
      obtain ⟨hdisk, rfl⟩ := (holder_eq_some hinvariant.toConsistent).mp hholder
      dsimp only
      split
      · rename_i hmatches
        obtain ⟨active, hsame, hnames⟩ := hnamed hmatches
        obtain rfl := Option.some_inj.mp hsame
        exact .pure ⟨hcurrent, hsettled, rfl, fun _ => ⟨rfl, rfl⟩,
          fun _ hname => .inr ⟨lease, hdisk, hname.symm, hnames⟩⟩
      · have hforced : Safe context
            (do
              validateForceOverride action options requester lease.aliasName lease
              revokeLeaseForOverride context.paths state lease timestamp)
            (fun admitted after => Admitted context state lease.aliasName action world admitted
              after) (fun _ after => Counted context after) world := by
          refine .seq (safe_validateForceOverride hsettled.2) (fun _ _ _ h => h)
            fun _ validated hvalidated => ?_
          obtain ⟨rfl, hforces⟩ := hvalidated
          refine (safe_revokeLeaseForOverride hcurrent hsettled.2 hlease.symm
            (hspared _ hforces)).weaken ?_ fun _ _ _ h => h
          rintro revoked after - ⟨hlast, hsettled, hfree, hconfig⟩
          exact ⟨hlast, hsettled, hconfig, fun h => absurd hforces.repair h,
            fun _ hname => hlast.lifecyclePermitted hfree hname⟩
        cases action with
        | boot => exact .throw hsettled.2
        | shutdown => exact .throw hsettled.2
        | erase => exact hforced
        | repair => exact hforced

/-! ## Boot, shutdown and erase -/

theorem safe_adapterShutdown {hostAlias : HostAlias} {site : DeviceSite}
    (hok : DestructiveOk context world hostAlias.simulatorId site) :
    Safe context (adapterShutdown hostAlias site) (fun _ after => Still world after)
      (fun _ after => Still world after) world :=
  safe_invokeLifecycleAdapter (safe_shutdownDevice hok)

theorem safe_adapterErase {hostAlias : HostAlias}
    (hok : DestructiveOk context world hostAlias.simulatorId .lifecycle) :
    Safe context (adapterErase hostAlias) (fun _ after => Still world after)
      (fun _ after => Still world after) world := by
  refine safe_invokeLifecycleAdapter ?_
  refine .seq (safe_shutdownDevice hok) (fun _ _ _ h => h) fun _ shut hshut => ?_
  exact .opStill rfl (hshut.destructiveOk hok) (fun _ _ _ hstill => hshut.trans hstill)
    fun _ _ _ _ hstill => hshut.trans hstill

/-- Writing a registry that tracks the files settles the state. -/
theorem safe_writeSettled {registry : Registry} {note : RegistryNote}
    (htracks : Tracks context world registry note) :
    Safe context (writeRegistry registry note)
      (fun _ after => RegistryWritten registry note world after ∧ Settled context after)
      (fun _ after => Counted context after) world := by
  refine (safe_writeTracked htracks).weaken ?_ fun _ _ _ h => counted_of_fails h.1
  exact fun _ _ _ hwritten => ⟨hwritten, htracks.agree hwritten, htracks.counted hwritten⟩

/-- The registry write and the event that end an action. -/
theorem safe_recordAction {α : Type} {registry : Registry} {note : RegistryNote} {event : Event}
    {rest : Broker α} {post : α → World → Prop} (htracks : Tracks context world registry note)
    (hreclaimed : event.type ≠ .leaseReclaimed) (hcontained : event.type ≠ .leaseContained)
    (hrest : ∀ recorded, Settled context recorded →
      Safe context rest post (fun _ after => Counted context after) recorded) :
    Safe context
      (do
        writeRegistry registry note
        let _ ← appendEventRecord event
        rest)
      post (fun _ after => Counted context after) world := by
  refine .seq (safe_writeSettled htracks) (fun _ _ _ h => h) fun _ written hwritten => ?_
  refine .seq (safe_appendEventRecord (.refl written) (eventOk_of_ne hreclaimed hcontained))
    (fun _ _ _ h => h.elim) fun _ appended happended => ?_
  exact hrest appended (happended.toKept.settled hwritten.2)

theorem safe_runPowerAction {state : BrokerState} {powerState : PowerState} {hostAlias : HostAlias}
    {requester : LifecycleRequester} {entry : RegistryEntry}
    (hcurrent : Current context state world) (hsettled : Settled context world)
    (hmem : hostAlias ∈ state.hostConfig.aliases)
    (hpermitted : Permitted context world hostAlias .lifecycle)
    (hentry : state.registry.aliases hostAlias.aliasName = some entry)
    (hhealthy : entry.health.latched = false) :
    Safe context (runPowerAction state powerState hostAlias requester entry timestamp)
      (fun _ after => Settled context after) (fun _ after => Counted context after) world := by
  have hpowered : ∀ powered, Still world powered →
      Tracks context powered ((state.registry.modify hostAlias.aliasName
        (poweredEntry powerState timestamp)).touch timestamp) {} := by
    intro powered hstill
    refine ((hcurrent.tracks.kept hstill.toKept).modify (.refl {} hostAlias.aliasName)
      fun other hother hcause => ?_).touch timestamp
    obtain rfl := Option.some_inj.mp (hentry.symm.trans hother)
    exact .healthy hhealthy rfl (by simp [poweredEntry]) hcause (.inr ⟨rfl, id⟩) rfl
  unfold runPowerAction
  split
  · exact .pure hsettled
  · cases powerState with
    | booted =>
        refine .seq safe_adapterBoot (fun _ _ _ h => h.toKept.counted hsettled.2)
          fun _ powered hstill => ?_
        exact safe_recordAction (hpowered powered hstill) (by simp) (by simp) fun _ h => .pure h
    | shutdown =>
        refine .seq (safe_adapterShutdown (hcurrent.config.destructiveOk hmem hpermitted))
          (fun _ _ _ h => h.toKept.counted hsettled.2) fun _ powered hstill => ?_
        exact safe_recordAction (hpowered powered hstill) (by simp) (by simp) fun _ h => .pure h

theorem erasedEntry_change {entry : RegistryEntry}
    (hcause : ∀ code, entry.driftCauseCode = some code → entry.health.latched = true) :
    EntryChange {} { erased := [name] } name entry (erasedEntry timestamp entry) := by
  by_cases hdrift : entry.health = .stateDrift
  · refine .healthy (by rw [hdrift]; rfl) ?_ ?_ hcause (.inl ⟨?_, by simp⟩) ?_ <;>
      simp [erasedEntry, hdrift, resetLeasesSinceErase]
  · have hsame : (erasedEntry timestamp entry).health = entry.health := by
      simp [erasedEntry, hdrift, resetLeasesSinceErase]
    refine ⟨?_, fun hlatched => .inr (hsame ▸ hlatched), ?_, .inl ⟨?_, by simp⟩, ?_⟩
    · simp [erasedEntry, hdrift, resetLeasesSinceErase]
    · intro code hcode
      have hbefore : entry.driftCauseCode = some code := by
        simpa [erasedEntry, hdrift, resetLeasesSinceErase] using hcode
      exact ⟨hsame ▸ hcause code hbefore, .inr hbefore⟩
    · simp [erasedEntry, hdrift, resetLeasesSinceErase]
    · simp [erasedEntry, hdrift, resetLeasesSinceErase]

theorem safe_runEraseAction {state : BrokerState} {hostAlias : HostAlias}
    {requester : LifecycleRequester} (hcurrent : Current context state world)
    (hsettled : Settled context world) (hmem : hostAlias ∈ state.hostConfig.aliases)
    (hpermitted : Permitted context world hostAlias .lifecycle) :
    Safe context (runEraseAction state hostAlias requester timestamp)
      (fun _ after => Settled context after) (fun _ after => Counted context after) world := by
  unfold runEraseAction
  refine .seq (safe_adapterErase (hcurrent.config.destructiveOk hmem hpermitted))
    (fun _ _ _ h => h.toKept.counted hsettled.2) fun _ erased hstill => ?_
  refine safe_recordAction (((hcurrent.tracks.kept hstill.toKept).modify
    (noteGrows_erased {} hostAlias.aliasName) fun entry _ hcause => ?_).touch timestamp)
    (by simp) (by simp) fun _ h => .pure h
  exact erasedEntry_change hcause

/-! ## Repair -/

theorem aliasNames_rebindAlias (config : HostConfig) (simulatorId : SimulatorId)
    (iosVersion : String) :
    (rebindAlias config name simulatorId iosVersion).aliasNames = config.aliasNames := by
  simp only [rebindAlias, HostConfig.aliasNames, List.map_map]
  refine List.map_congr_left fun hostAlias _ => ?_
  simp only [Function.comp_apply]
  split <;> rfl

theorem mem_simulatorIds_rebindAlias {config : HostConfig} {simulatorId other : SimulatorId}
    {iosVersion : String}
    (hmem : other ∈ (rebindAlias config name simulatorId iosVersion).simulatorIds) :
    other = simulatorId ∨ other ∈ config.simulatorIds := by
  simp only [rebindAlias, HostConfig.simulatorIds, List.map_map, List.mem_map,
    Function.comp_apply] at hmem
  obtain ⟨hostAlias, hmem, rfl⟩ := hmem
  split
  · exact .inl rfl
  · exact .inr (List.mem_map_of_mem hmem)

/-- A host config with the aliases on disk and drawn simulators may be written. -/
theorem hostWriteOk_of_aliasNames {paths : BrokerPaths} {config next : HostConfig}
    (hconsistent : Consistent paths world) (hread : ReadConfig world config)
    (hnames : next.aliasNames = config.aliasNames)
    (hdrawn : ∀ simulatorId ∈ next.simulatorIds, simulatorId < world.outside.nextDevice) :
    HostWriteOk context world next := by
  have hconfigured := hread.configuredAliases
  refine ⟨hdrawn, fun lease hlease => ?_, fun pin hpin => ?_, fun _ name hname hdropped => ?_⟩
  · rw [hnames, ← hconfigured]
    exact hconsistent.leaseConfigured lease hlease
  · rw [hnames, ← hconfigured]
    exact hconsistent.pinConfigured pin hpin
  · rw [hnames, ← hconfigured] at hdropped
    exact absurd hname hdropped

theorem ReadConfig.drawn {paths : BrokerPaths} {config : HostConfig}
    (hconsistent : Consistent paths world) (hread : ReadConfig world config) :
    ∀ simulatorId ∈ config.simulatorIds, simulatorId < world.outside.nextDevice := by
  obtain ⟨disk, hdisk, -, rfl⟩ := hread
  exact hconsistent.boundDrawn disk hdisk

/-- The config may be written again with other simulators to retire. -/
theorem Written.hostWriteOk {config : HostConfig} (hwritten : Written (.hostConfig config) world after)
    (hok : HostWriteOk context world config) (pending : List SimulatorId) :
    HostWriteOk context after (hostConfigWithPendingRetirements config pending) where
  drawn simulatorId hmem := (hok.drawn simulatorId hmem).trans_le hwritten.later.nextDevice
  leases lease hlease := hok.leases lease (hwritten.leases ▸ hlease)
  pins pin hpin := hok.pins pin (hwritten.pins ▸ hpin)
  caused _ name hname hdropped := by
    rw [Store.configuredAliases, hwritten.hostConfig] at hname
    exact absurd hname hdropped

/-- A failed or successful durable write of a config with the same aliases. -/
theorem DurableFailure.rehosted {config : HostConfig} {error : BrokerError}
    (hfailure : DurableFailure config world error after)
    (hnames : ∀ other ∈ config.aliasNames, other ∈ world.store.configuredAliases) :
    Rehosted world after := by
  obtain ⟨-, hstill⟩ | ⟨-, hwritten⟩ := hfailure
  · exact hstill.rehosted
  · exact rehosted_of_written hwritten hnames

theorem safe_repairHostAlias {config : HostConfig} {hostAlias : HostAlias}
    (hread : ReadConfig world config) :
    Safe context (repairHostAlias locale config hostAlias) (fun _ after => Rehosted world after)
      (fun _ after => Rehosted world after) world := by
  refine .assume fun hfirst => ?_
  unfold repairHostAlias
  refine .seq (safe_ensureAliasSimulator (.inr rfl)) (fun _ _ _ h => h.rehosted)
    fun provisioned provided hprovided => ?_
  dsimp only
  generalize hcommitted : hostConfigWithPendingRetirements
    (rebindAlias config hostAlias.aliasName provisioned.simulatorId provisioned.iosVersion)
    (config.pendingRetirements ++ provisioned.replacedSimulatorId.toList).eraseDups = committed
  generalize (config.pendingRetirements ++ provisioned.replacedSimulatorId.toList).eraseDups =
    pending
  have haliasNames : committed.aliasNames = config.aliasNames := by
    rw [← hcommitted]
    exact aliasNames_rebindAlias config _ _
  have hstill := hprovided.still
  have hnames : ∀ other ∈ committed.aliasNames, other ∈ provided.store.configuredAliases := by
    rw [haliasNames, (hread.kept hstill.toKept).configuredAliases]
    exact fun _ h => h
  refine .assume fun hinvariant => ?_
  have hok : HostWriteOk context provided committed := by
    refine hostWriteOk_of_aliasNames hinvariant.toConsistent (hread.kept hstill.toKept)
      haliasNames fun simulatorId hmem => ?_
    rw [← hcommitted] at hmem
    obtain rfl | hbound := mem_simulatorIds_rebindAlias hmem
    · exact hprovided.drawn
    · exact (hread.kept hstill.toKept).drawn hinvariant.toConsistent simulatorId hbound
  refine .seq (M := fun _ after => Written (.hostConfig committed) provided after)
    (E := fun _ after => Rehosted world after)
    (.catch (safe_writeJsonAtomicDurable hok) fun error failed hfailed => ?_) (fun _ _ _ h => h)
    fun _ written hwritten => ?_
  · have hrehosted := hstill.rehosted.trans (hfailed.rehosted hnames)
    by_cases hrollback : error.hostConfigCommitted = false ∧ provisioned.created = true
    · rw [if_pos hrollback]
      have hsame : failed.store.hostConfig = world.store.hostConfig := by
        obtain ⟨-, hkept⟩ | ⟨hdone, -⟩ := hfailed
        · exact (hstill.trans hkept).hostConfig
        · rw [hrollback.1] at hdone
          cases hdone
      have hunbound : Unbound failed provisioned.simulatorId :=
        (unbound_of_fresh hfirst.toConsistent (hprovided.fresh hrollback.2)).of_hostConfig hsame
      refine .seq (E := fun _ _ => False) (safe_rollbackCreatedAliasSimulator hunbound)
        (fun _ _ _ h => h.elim) fun _ rolledBack hrolledBack => ?_
      exact .throw (hrehosted.trans hrolledBack.rehosted)
    · rw [if_neg hrollback]
      exact .throw hrehosted
  have hrehosted := hstill.rehosted.trans (rehosted_of_written hwritten hnames)
  refine .seq (safe_retirePendingHostSimulators hwritten.hostConfig rfl)
    (fun _ _ _ h => hrehosted.trans h.rehosted) fun failedRetirements retired hretired => ?_
  have hlast : Written (.hostConfig committed) provided retired := Still.trans hwritten hretired
  have hretiredNames : ∀ other ∈ committed.aliasNames, other ∈ retired.store.configuredAliases := by
    intro other hother
    rw [Store.configuredAliases, hlast.hostConfig]
    exact hother
  replace hrehosted := hrehosted.trans hretired.rehosted
  refine .seq (safe_writeJsonAtomicDurable (hlast.hostWriteOk hok _)) ?_ fun _ next hnext => ?_
  · exact fun _ _ _ h => hrehosted.trans (DurableFailure.rehosted h hretiredNames)
  · exact .pure (hrehosted.trans (rehosted_of_written hnext hretiredNames))

theorem safe_runRepairAction {state : BrokerState} {hostAlias : HostAlias}
    {requester : LifecycleRequester} (hcurrent : Current context state world) :
    Safe context (runRepairAction locale state hostAlias requester timestamp)
      (fun _ after => Settled context after) (fun _ after => Counted context after) world := by
  unfold runRepairAction
  dsimp only
  generalize hrepairing : (state.registry.modify hostAlias.aliasName
    (repairingEntry timestamp)).touch timestamp = repairing
  have htracks : Tracks context world repairing {} := by
    rw [← hrepairing]
    have hchange : ∀ entry, EntryChange {} {} hostAlias.aliasName entry
        (repairingEntry timestamp entry) := fun entry => .unhealthy rfl rfl rfl rfl rfl
    exact (hcurrent.tracks.modify (.refl {} hostAlias.aliasName) fun entry _ _ =>
      hchange entry).touch timestamp
  refine .seq (safe_writeSettled htracks) (fun _ _ _ h => h) fun _ written hwritten => ?_
  obtain ⟨hwritten, hsettled⟩ := hwritten
  replace htracks := htracks.written hwritten
  refine .seq (safe_appendEventRecord (.refl written) (eventOk_of_ne (by simp) (by simp)))
    (fun _ _ _ h => h.elim) fun _ started hstarted => ?_
  replace htracks := htracks.kept hstarted.toKept
  have hcounted := hstarted.toKept.counted hsettled.2
  have hread : ReadConfig started state.hostConfig :=
    hcurrent.config.of_hostConfig (hstarted.hostConfig.trans hwritten.hostConfig)
  refine .seq (E := fun _ after => Counted context after)
    (.catch (safe_invokeLifecycleAdapter (safe_repairHostAlias hread)) fun error failed hfailed => ?_)
    (fun _ _ _ h => h) fun hostConfig provided hprovided => ?_
  · have hfailedTracks : Tracks context failed
        ((repairing.modify hostAlias.aliasName (repairFailedEntry error timestamp)).touch timestamp)
        { failed := [hostAlias.aliasName] } := by
      have hgrows : NoteGrows {} { failed := [hostAlias.aliasName] } hostAlias.aliasName :=
        ⟨fun _ h => h, by simp, fun h => h, fun _ _ => Iff.rfl⟩
      refine ((hfailed.tracks htracks).modify hgrows fun entry _ _ => ?_).touch timestamp
      exact ⟨rfl, fun _ => .inr rfl, fun _ _ => ⟨rfl, .inl (by simp)⟩, .inr ⟨rfl, by simp⟩, rfl⟩
    exact safe_recordAction hfailedTracks (by simp) (by simp) fun _ h => .throw h.2
  · have hrepaired : Tracks context provided
        ((repairing.modify hostAlias.aliasName (repairedEntry timestamp)).touch timestamp)
        { repaired := some hostAlias.aliasName } := by
      have hgrows : NoteGrows {} { repaired := some hostAlias.aliasName } hostAlias.aliasName :=
        ⟨by simp, by simp, fun h => h, fun _ _ => Iff.rfl⟩
      refine ((hprovided.tracks htracks).modify hgrows fun entry _ _ => ?_).touch timestamp
      exact ⟨rfl, fun _ => .inl rfl, by simp [repairedEntry], .inr ⟨rfl, id⟩, rfl⟩
    exact safe_recordAction hrepaired (by simp) (by simp) fun _ h => .pure h

/-! ## The command -/

/-- What a lifecycle action needs of its options: the caller's reference is the one
of the context, and the lease a repair may revoke is not spared. -/
structure LifecycleOk (context : Context) (action : LifecycleAction)
    (options : LifecycleOptions) : Prop where
  reference : context.reference = options.reference
  spared : ∀ leaseId, ForcesRepair action options leaseId → ¬ context.spared leaseId

theorem safe_runLifecycleAction {action : LifecycleAction} (hok : LifecycleOk context action options)
    (hready : Ready context timestamp world) :
    Safe context (runLifecycleAction context.paths action options)
      (fun _ after => Settled context after) (fun _ after => Counted context after) world := by
  unfold runLifecycleAction
  refine .seq (E := fun _ _ => False) (safe_now hready) (fun _ _ _ h => h.elim)
    fun timestamp started hstarted => ?_
  replace hready := hstarted.2
  refine .seq (safe_loadBrokerState hready.counted hready.loadOk) (fun _ _ _ h => h.2)
    fun state loaded hloaded => ?_
  refine .seq (safe_findHostAliasOrThrow hloaded.counted) (fun _ _ _ h => h)
    fun hostAlias found hfound => ?_
  obtain ⟨rfl, hmem, -⟩ := hfound
  have hcurrent := hloaded.loaded.toCurrent
  cases hentry : state.entry hostAlias.aliasName with
  | none => exact .throw hloaded.counted
  | some entry =>
      dsimp only
      refine .seq (safe_resolveLifecycleRequester hok.reference)
        (fun _ _ _ h => h.toKept.counted hloaded.counted) fun requester resolved hresolved => ?_
      obtain ⟨hstill, hrequested⟩ := hresolved
      replace hcurrent := hcurrent.kept hstill.toKept
      have hsettled := hstill.toKept.settled hloaded.settled
      refine .seq (safe_assertLifecycleHealth hsettled.2) (fun _ _ _ h => h)
        fun _ asserted hasserted => ?_
      obtain ⟨rfl, hhealth⟩ := hasserted
      refine .seq (safe_admitLifecycleRequester hcurrent hsettled hrequested hok.spared)
        (fun _ _ _ h => h) fun admitted after hadmitted => ?_
      have hbound : hostAlias ∈ admitted.hostConfig.aliases := hadmitted.config ▸ hmem
      have hpermitted := hadmitted.permitted hostAlias rfl
      cases action with
      | boot =>
          obtain ⟨rfl, rfl⟩ := hadmitted.unchanged (by simp)
          exact safe_runPowerAction hcurrent hsettled hbound hpermitted hentry (hhealth (.inl rfl))
      | shutdown =>
          obtain ⟨rfl, rfl⟩ := hadmitted.unchanged (by simp)
          exact safe_runPowerAction hcurrent hsettled hbound hpermitted hentry (hhealth (.inr rfl))
      | erase =>
          exact safe_runEraseAction hadmitted.current hadmitted.settled hbound hpermitted
      | repair =>
          refine .seq (safe_runRepairAction hadmitted.current) (fun _ _ _ h => h)
            fun _ repaired hrepaired => ?_
          exact .pure hrepaired

theorem safe_lifecycleActionBroker {action : LifecycleAction} (hok : LifecycleOk context action options)
    (hready : Ready context timestamp world) :
    Safe context (lifecycleActionBroker context.paths action options)
      (fun _ after => Settled context after) (fun _ after => Counted context after) world := by
  have hlocked : ∀ locked, Still world locked →
      Safe context (withLock .lease (runLifecycleAction context.paths action options))
        (fun _ after => Settled context after) (fun _ after => Counted context after) locked :=
    fun locked hstill => safe_settledUnderLock (hready.kept hstill.toKept).counted fun _ hlocked =>
      safe_runLifecycleAction hok (hready.kept (hstill.trans hlocked).toKept)
  cases action with
  | boot => exact hlocked world (.refl world)
  | shutdown => exact hlocked world (.refl world)
  | erase => exact hlocked world (.refl world)
  | repair => exact safe_settledUnderLock hready.counted hlocked

end SimulatorBroker.Safety
