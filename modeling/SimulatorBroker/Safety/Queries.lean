import SimulatorBroker.Safety.Leases

/-!
# Pins, status and the snapshot

The commands that change no lease of their own: the pins, the queries that only
load the state, and the snapshot reader, which drops a lease file from its list
exactly where a state load would end it without containing anything.
-/

namespace SimulatorBroker.Safety

open SimulatorBroker.Effects
open SimulatorBroker.State
open SimulatorBroker.Broker

variable {α : Type} {context : Context} {first world after : World} {timestamp : Timestamp}
  {registry : Registry} {note : RegistryNote}

/-! ## Pins -/

/-- Everything but the pins is as it was. -/
abbrev KeptButPins (before after : World) : Prop :=
  Kept { before with store := { before.store with pins := after.store.pins } } after

theorem KeptButPins.trans {middle last : World} (hfirst : KeptButPins first middle)
    (hlast : KeptButPins middle last) : KeptButPins first last :=
  ⟨hlast.hostConfig.trans hfirst.hostConfig, hlast.registry.trans hfirst.registry,
    hlast.leases.trans hfirst.leases, rfl, hlast.ledger.trans hfirst.ledger,
    hfirst.later.trans hlast.later⟩

theorem KeptButPins.tracks (hkept : KeptButPins world after)
    (htracks : Tracks context world registry note) : Tracks context after registry note :=
  Tracks.kept hkept ⟨htracks.latched, htracks.cause, htracks.present, htracks.active, htracks.gone,
    htracks.tallied⟩

theorem KeptButPins.counted (hkept : KeptButPins world after)
    (hcounted : Counted context world) : Counted context after :=
  fun hrecords => Kept.exact hkept
    ⟨(hcounted hrecords).counted, (hcounted hrecords).absent, (hcounted hrecords).written⟩

theorem KeptButPins.settled (hkept : KeptButPins world after)
    (hsettled : Settled context world) : Settled context after :=
  ⟨Kept.agree hkept hsettled.1, KeptButPins.counted hkept hsettled.2⟩

theorem safe_unlinkPin {pinId : PinId} :
    Safe context (perform (.unlinkPin pinId)) (fun _ after => KeptButPins world after)
      (fun _ _ => ¬ RecordsEnds context.surroundings) world := by
  refine .op trivial (fun _ _ _ hstill => ?_) ?_
  · exact ⟨hstill.hostConfig, hstill.registry, hstill.leases, rfl, hstill.ledger, hstill.later⟩
  · exact fun _ _ hmayFail _ _ => Context.filesFail rfl hmayFail

theorem pinnedEntry_change {name : AliasName} {entry : RegistryEntry} (pinId : Option PinId)
    (timestamp : Timestamp)
    (hcause : ∀ code, entry.driftCauseCode = some code → entry.health.latched = true) :
    EntryChange note note name entry (pinnedEntry pinId timestamp entry) :=
  ⟨rfl, fun h => .inr h, fun code hcode => ⟨hcause code hcode, .inr hcode⟩, .inr ⟨rfl, id⟩, rfl⟩

theorem Tracks.pinned (htracks : Tracks context world registry {}) (name : AliasName)
    (pinId : Option PinId) (timestamp : Timestamp) :
    Tracks context world ((registry.modify name (pinnedEntry pinId timestamp)).touch timestamp)
      {} :=
  (htracks.modify (.refl _ _) fun _ _ hcause =>
    pinnedEntry_change pinId timestamp hcause).touch timestamp

theorem safe_writePin {pin : Pin} (htracks : Tracks context world registry {})
    (hwritable : PinWriteOk world pin) :
    Safe context (writePin registry pin timestamp) (fun _ after => Settled context after)
      (fun _ after => Counted context after) world := by
  unfold writePin
  have hok : StepOk context (.rename (.pin pin)) world := hwritable
  refine .seq (safe_writeJsonAtomicRestricted hok)
    (fun _ _ _ h => counted_of_fails h.1) fun _ pinned hpinned => ?_
  have hkept : KeptButPins world pinned :=
    ⟨hpinned.hostConfig, hpinned.registry, hpinned.leases, rfl, hpinned.ledger, hpinned.later⟩
  have hwrite := (KeptButPins.tracks hkept htracks).pinned pin.aliasName (some pin.pinId) timestamp
  refine .seq (M := fun _ after => Settled context after) (E := fun _ after => Counted context after)
    (.catch ((safe_writeTracked hwrite).weaken ?_ fun _ _ _ h => h) fun error failed hfailed => ?_)
    (fun _ _ _ h => h) fun _ written hwritten => ?_
  · exact fun _ _ _ hwritten => ⟨hwrite.agree hwritten, hwrite.counted hwritten⟩
  · refine .seq safe_unlinkPin (fun _ _ _ h => counted_of_fails h) fun _ unlinked _ => ?_
    exact .throw (counted_of_fails hfailed.1)
  · refine .seq (safe_appendEventRecord (.refl written) (eventOk_of_ne (by simp) (by simp)))
      (fun _ _ _ h => h.elim) fun _ appended happended => ?_
    exact .pure (happended.toKept.settled hwritten)

theorem safe_pinAlias {state : BrokerState} {project : ProjectConfig} {purpose : Purpose}
    {name : AliasName} {entry : RegistryEntry} (hcurrent : Current context state world)
    (hconfigured : name ∈ world.store.configuredAliases) (hsettled : Settled context world) :
    Safe context (pinAlias state project purpose name entry timestamp)
      (fun _ after => Settled context after) (fun _ after => Counted context after) world := by
  unfold pinAlias
  split
  · exact .throw hsettled.2
  · split
    · split
      · exact .pure hsettled
      · exact .throw hsettled.2
    · rename_i hnone
      split
      · exact .throw hsettled.2
      · rename_i hallowed
        refine .assume fun hinvariant => ?_
        refine .seq (safe_read rfl (by simp)) (fun _ _ _ h => h.1.toKept.counted hsettled.2)
          fun pinId drawn hdrawn => ?_
        have hkept := hdrawn.2.toKept
        refine .seq (safe_writePin (hcurrent.tracks.kept hkept) ?_)
          (fun _ _ _ h => h) fun _ written hwritten => .pure hwritten
        refine ⟨hkept.unpinned (hcurrent.unpinned hnone), hkept.configuredAliases ▸ hconfigured, ?_⟩
        rw [hkept.leases]
        intro lease hlease halias
        have hholder := (holder_eq_some hinvariant.toConsistent).mpr ⟨hlease, halias.symm⟩
        rw [hcurrent.byAlias, hholder] at hallowed
        simp only [leaseAllowsPin, Option.any_some, Bool.not_eq_true', Bool.and_eq_false_iff,
          decide_eq_false_iff_not, not_or, not_not] at hallowed
        simp [leaseMatchesPin, hallowed.1.symm, hallowed.2.symm]

theorem safe_createPin {options : PinOptions} (hready : Ready context timestamp world) :
    Safe context (createPin context.paths options timestamp)
      (fun _ after => Settled context after) (fun _ after => Counted context after) world := by
  unfold createPin
  refine .seq (safe_loadBrokerState hready.counted hready.loadOk) (fun _ _ _ h => h.2)
    fun state loaded hloaded => ?_
  refine .seq (safe_read rfl (by simp)) (fun _ _ _ h => h.1.toKept.counted hloaded.counted)
    fun project read hread => ?_
  refine .seq safe_rememberKnownProject
    (fun _ _ _ h => (hread.2.toKept.trans h).counted hloaded.counted)
    fun knownProjects remembered hremembered => ?_
  have hkept := hread.2.toKept.trans hremembered
  have hsettled := hkept.settled hloaded.settled
  refine .seq (safe_getPurpose hsettled.2) (fun _ _ _ h => h) fun purpose found hfound => ?_
  subst hfound
  refine .seq (safe_findHostAliasOrThrow hsettled.2) (fun _ _ _ h => h)
    fun hostAlias found hfound => ?_
  obtain ⟨rfl, hmem, -⟩ := hfound
  refine .seq (M := fun _ after => after = found) (E := fun _ after => Counted context after)
    ?_ (fun _ _ _ h => h) fun _ served hserved => ?_
  · unfold assertAliasServesPurpose
    split
    · exact .throw hsettled.2
    · exact .pure rfl
  subst hserved
  split
  · exact .throw hsettled.2
  · have hcurrent := hloaded.loaded.toCurrent.kept hkept
    refine safe_pinAlias hcurrent ?_ hsettled
    rw [hcurrent.config.configuredAliases]
    exact List.mem_map_of_mem hmem

theorem safe_clearPin {name : AliasName} (hready : Ready context timestamp world) :
    Safe context (clearPin context.paths name timestamp)
      (fun _ after => Settled context after) (fun _ after => Counted context after) world := by
  unfold clearPin
  refine .seq (safe_loadBrokerState hready.counted hready.loadOk) (fun _ _ _ h => h.2)
    fun state loaded hloaded => ?_
  split
  · exact .throw hloaded.counted
  · rename_i pin hpin
    split
    · exact .throw hloaded.counted
    · have hwrite := hloaded.loaded.tracks.pinned name none timestamp
      refine .seq (safe_writeTracked hwrite) (fun _ _ _ h => counted_of_fails h.1)
        fun _ written hwritten => ?_
      have hsettled : Settled context written := ⟨hwrite.agree hwritten, hwrite.counted hwritten⟩
      refine .seq safe_unlinkPin (fun _ _ _ h => counted_of_fails h) fun _ cleared hcleared => ?_
      refine .seq (safe_appendEventRecord (.refl cleared) (eventOk_of_ne (by simp) (by simp)))
        (fun _ _ _ h => h.elim) fun _ appended happended => ?_
      exact .pure (happended.toKept.settled (KeptButPins.settled hcleared hsettled))

/-! ## Queries -/

theorem safe_loadNow (hready : Ready context timestamp world) (idlePersistence : Bool) :
    Safe context (perform .now >>= fun now =>
        loadBrokerState context.paths { timestamp := now, idlePersistence })
      (fun state after => LoadDone context [] world state after)
      (fun _ after => Counted context after) world := by
  refine .seq (E := fun _ _ => False) (safe_now hready) (fun _ _ _ h => h.elim)
    fun now started hstarted => ?_
  obtain ⟨hstill, hnow⟩ := hstarted
  refine (safe_loadBrokerState hnow.counted hnow.loadOk).weaken ?_ fun _ _ _ h => h.2
  exact fun state after _ hdone => ⟨hstill.toKept.host.trans hdone.host, hdone.loaded, hdone.agree,
    hdone.counted, by simp⟩

/-- A state that a load returned and that is still the one on disk. -/
def Reported (context : Context) (state : BrokerState) (world : World) : Prop :=
  Loaded context state world ∧ Settled context world

theorem stable_reported (state : BrokerState) : Stable (Reported context state) :=
  fun hstill hreported => ⟨hreported.1.kept hstill.toKept, hstill.toKept.settled hreported.2⟩

theorem safe_loadUnderLock (hready : Ready context timestamp world) :
    Safe context (withLock .lease (perform .now >>= fun now =>
        loadBrokerState context.paths { timestamp := now }))
      (fun state after => Reported context state after)
      (fun _ after => Counted context after) world := by
  refine safe_withLock stable_reported stable_counted (fun _ _ h => h.2.2) hready.counted
    fun locked hlocked => ?_
  exact (safe_loadNow (hready.kept hlocked.toKept) false).weaken
    (fun _ _ _ hdone => ⟨hdone.loaded, hdone.settled⟩) fun _ _ _ h => h

theorem safe_hostStatusBroker (hready : Ready context timestamp world) :
    Safe context (hostStatusBroker context.paths)
      (fun state after => Reported context state after)
      (fun _ after => Counted context after) world :=
  safe_loadUnderLock hready

theorem safe_doctorBroker (hready : Ready context timestamp world) :
    Safe context (doctorBroker context.paths)
      (fun state after => (∀ loaded, state = some loaded → Reported context loaded after) ∧
        Counted context after)
      (fun _ after => Counted context after) world := by
  have hreadable : Safe context
      (tryCatch
        (do
          let _ ← readHostConfigOrThrow
          return true)
        fun error => if error.isBrokerError then pure false else throw error : Broker Bool)
      (fun _ after => Still world after) (fun _ after => Still world after) world := by
    refine .catch (E := fun _ after => Still world after) ?_ fun error failed hfailed => ?_
    · exact .seq safe_readHostConfigOrThrow (fun _ _ _ h => h) fun _ read hread => .pure hread.2
    · split
      · exact .pure hfailed
      · exact .throw hfailed
  unfold doctorBroker
  refine .seq hreadable (fun _ _ _ h => h.toKept.counted hready.counted) fun readable read hread => ?_
  split
  · refine .seq (safe_loadUnderLock (hready.kept hread.toKept)) (fun _ _ _ h => h)
      fun state after hreported => ?_
    refine .pure ⟨?_, hreported.2.2⟩
    rintro _ ⟨⟩
    exact hreported
  · exact .pure ⟨by simp, hread.toKept.counted hready.counted⟩

theorem safe_rememberKnownProjectFromDisk {project : ProjectConfig} :
    Safe context (rememberKnownProjectFromDisk project) (fun _ after => Kept world after)
      (fun _ after => Kept world after) world := by
  unfold rememberKnownProjectFromDisk
  refine .seq (safe_read rfl (by simp)) (fun _ _ _ h => h.1.toKept) fun projects read hread => ?_
  refine .seq safe_rememberKnownProject (fun _ _ _ h => hread.2.toKept.trans h)
    fun _ remembered hremembered => ?_
  exact .pure (hread.2.toKept.trans hremembered)

theorem safe_explainLeaseBroker {purposeId : PurposeId} {explicitAlias : Option AliasName}
    (hready : Ready context timestamp world) :
    Safe context (explainLeaseBroker context.paths purposeId explicitAlias)
      (fun _ after => Settled context after) (fun _ after => Counted context after) world := by
  refine safe_settledUnderLock hready.counted fun locked hlocked => ?_
  replace hready := hready.kept hlocked.toKept
  refine .seq (E := fun _ _ => False) (safe_now hready) (fun _ _ _ h => h.elim)
    fun now started hstarted => ?_
  obtain ⟨-, hready⟩ := hstarted
  refine .seq (safe_loadBrokerState hready.counted hready.loadOk) (fun _ _ _ h => h.2)
    fun state loaded hloaded => ?_
  refine .seq (safe_read rfl (by simp)) (fun _ _ _ h => h.1.toKept.counted hloaded.counted)
    fun project read hread => ?_
  refine .seq safe_rememberKnownProjectFromDisk
    (fun _ _ _ h => (hread.2.toKept.trans h).counted hloaded.counted)
    fun _ remembered hremembered => ?_
  have hsettled := (hread.2.toKept.trans hremembered).settled hloaded.settled
  refine .seq (safe_getPurpose hsettled.2) (fun _ _ _ h => h) fun purpose found hfound => ?_
  subst hfound
  exact .pure hsettled

/-- Without a load the counts stay as they are. -/
theorem safe_countedUnderLock {name : LockName} {work : Broker α} (hcounted : Counted context world)
    (hwork : ∀ locked, Still world locked →
      Safe context work (fun _ after => Counted context after)
        (fun _ after => Counted context after) locked) :
    Safe context (withLock name work) (fun _ after => Counted context after)
      (fun _ after => Counted context after) world :=
  safe_withLock (fun _ => stable_counted) stable_counted (fun _ _ h => h) hcounted hwork

theorem safe_validateProjectBroker (hcounted : Counted context world) :
    Safe context validateProjectBroker (fun _ after => Counted context after)
      (fun _ after => Counted context after) world := by
  refine safe_countedUnderLock hcounted fun locked hlocked => ?_
  replace hcounted := hlocked.toKept.counted hcounted
  refine .seq (safe_read rfl (by simp)) (fun _ _ _ h => h.1.toKept.counted hcounted)
    fun project read hread => ?_
  refine .seq safe_rememberKnownProjectFromDisk
    (fun _ _ _ h => (hread.2.toKept.trans h).counted hcounted) fun _ remembered hremembered => ?_
  exact .pure ((hread.2.toKept.trans hremembered).counted hcounted)

theorem safe_forgetKnownProject {projectId : ProjectId} (hready : Ready context timestamp world) :
    Safe context (forgetKnownProject context.paths projectId timestamp)
      (fun _ after => Settled context after) (fun _ after => Counted context after) world := by
  unfold forgetKnownProject
  refine .seq (safe_loadBrokerState hready.counted hready.loadOk) (fun _ _ _ h => h.2)
    fun state loaded hloaded => ?_
  split
  · exact .throw hloaded.counted
  · split
    · refine .seq (safe_writeKnownProjects (.refl loaded)) (fun _ _ _ h => counted_of_fails h.1)
        fun _ written hwritten => ?_
      refine .seq (safe_appendEventRecord (.refl written) (eventOk_of_ne (by simp) (by simp)))
        (fun _ _ _ h => h.elim) fun _ appended happended => ?_
      exact .pure ((hwritten.trans happended.toKept).settled hloaded.settled)
    · exact .pure hloaded.settled

/-! ## The snapshot -/

/-- What a snapshot returns: the leases it does not drop, and the health a state
load would find. -/
structure Snapshot (context : Context) (timestamp : Timestamp) (skipLeaseIds : List LeaseId)
    (state : BrokerState) (world : World) : Prop where
  config : ReadConfig world state.hostConfig
  byAlias : state.leasesByAlias = indexLeases state.leases
  pins : state.pins.Perm world.store.pins
  byPin : state.pinsByAlias = indexPins state.pins
  counted : ∀ lease ∈ state.leases, lease ∈ world.store.leases ∧
    (lease.leaseId ∈ skipLeaseIds ∨ ¬ Leftover world lease)
  dropped : ∀ lease ∈ world.store.leases, lease ∈ state.leases ∨ Leftover world lease ∨
    lease.hasContainmentProcessMetadata = false ∧
      (lease.ownerSince ≤ timestamp → ¬ context.surroundings.ownerAlive lease.leaseId)
  healthy : ∀ name entry, state.registry.aliases name = some entry →
    entry.health.latched = false → ∀ disk, world.store.entry name = some disk →
    disk.health.latched = false

/-- What the loop over the lease files keeps. -/
structure Snapping (context : Context) (timestamp : Timestamp) (skipLeaseIds : List LeaseId)
    (first : World) (rest : List Lease) (scan : SnapshotScan) (world : World) : Prop where
  still : Still first world
  files : ∀ lease ∈ rest, lease ∈ world.store.leases
  mirrors : Mirrors world scan.registry
  sampled : SampledOk context world timestamp scan.sampled
  counted : ∀ lease ∈ scan.leases, lease ∈ world.store.leases ∧
    (lease.leaseId ∈ skipLeaseIds ∨ ¬ Leftover world lease)
  dropped : ∀ lease ∈ world.store.leases, lease ∈ rest ∨ lease ∈ scan.leases ∨
    Leftover world lease ∨ lease.hasContainmentProcessMetadata = false ∧
      (lease.ownerSince ≤ timestamp → ¬ context.surroundings.ownerAlive lease.leaseId)

variable {skipLeaseIds : List LeaseId} {rest : List Lease} {scan : SnapshotScan} {lease : Lease}

theorem Snapping.kept (hstill : Still world after)
    (hsnapping : Snapping context timestamp skipLeaseIds first rest scan world) :
    Snapping context timestamp skipLeaseIds first rest scan after := by
  refine ⟨hsnapping.still.trans hstill, ?_, hsnapping.mirrors.kept hstill.toKept,
    hsnapping.sampled.kept hstill.toKept, ?_, ?_⟩
  · rw [hstill.leases]
    exact hsnapping.files
  · intro other hother
    rw [hstill.leases, hstill.toKept.leftover]
    exact hsnapping.counted other hother
  · intro other hother
    rw [hstill.toKept.leftover]
    exact hsnapping.dropped other (hstill.leases ▸ hother)

/-- The time of the last end changes nothing that a snapshot looks at. -/
theorem Mirrors.lastReleased (hmirrors : Mirrors world registry) (name : AliasName)
    (releasedAt : Timestamp) :
    Mirrors world (registry.modify name fun entry =>
      { entry with lastLeaseReleasedAt := some releasedAt }) := by
  have hcases : ∀ other entry, (registry.modify name fun entry =>
      { entry with lastLeaseReleasedAt := some releasedAt }).aliases other = some entry →
      ∃ old, registry.aliases other = some old ∧ entry.health = old.health ∧
        entry.driftReason = old.driftReason ∧ entry.driftCauseCode = old.driftCauseCode ∧
        entry.activeLeaseId = old.activeLeaseId := by
    intro other entry hentry
    obtain ⟨-, hold⟩ | ⟨-, old, hold, rfl⟩ := modify_cases hentry
    · exact ⟨entry, hold, rfl, rfl, rfl, rfl⟩
    · exact ⟨old, hold, rfl, rfl, rfl, rfl⟩
  refine ⟨?_, ?_, ?_, ?_⟩
  · intro other hname
    obtain ⟨entry, hentry⟩ := hmirrors.present other hname
    by_cases hsame : other = name
    · subst hsame
      exact ⟨_, by rw [Registry.modify_aliases_self, hentry]; rfl⟩
    · exact ⟨entry, by rw [Registry.modify_aliases_of_ne registry _ hsame, hentry]⟩
  · intro other hname
    have hnone := hmirrors.absent other hname
    by_cases hsame : other = name
    · subst hsame
      rw [Registry.modify_aliases_self, hnone]
      rfl
    · rw [Registry.modify_aliases_of_ne registry _ hsame, hnone]
  · intro other entry hentry
    obtain ⟨old, hold, hhealth, hreason, hcause, hactive⟩ := hcases other entry hentry
    have hmirrored := hmirrors.entry other old hold
    refine ⟨hhealth.trans hmirrored.health, hreason.trans hmirrored.driftReason, ?_, ?_⟩
    · intro code hcode
      exact hmirrored.cause code (hcause ▸ hcode)
    · rw [hactive]
      exact hmirrored.active
  · intro other hother entry hentry
    obtain ⟨old, hold, -, -, -, hactive⟩ := hcases other.aliasName entry hentry
    rw [hactive]
    exact hmirrors.unmarked other hother old hold

/-- The lease is counted. -/
theorem Snapping.keep (hcounted : lease.leaseId ∈ skipLeaseIds ∨ ¬ Leftover world lease)
    (hsnapping : Snapping context timestamp skipLeaseIds first (lease :: rest) scan world) :
    Snapping context timestamp skipLeaseIds first rest
      { scan with leases := scan.leases ++ [lease] } world := by
  refine ⟨hsnapping.still, fun other hother => hsnapping.files other (List.mem_cons_of_mem _ hother),
    hsnapping.mirrors, hsnapping.sampled, ?_, ?_⟩
  · intro other hother
    obtain hother | hother := List.mem_append.mp hother
    · exact hsnapping.counted other hother
    · rw [List.mem_singleton.mp hother]
      exact ⟨hsnapping.files lease (by simp), hcounted⟩
  · intro other hother
    obtain hrest | hkept | hreason := hsnapping.dropped other hother
    · obtain rfl | hrest := List.mem_cons.mp hrest
      · exact .inr (.inl (by simp))
      · exact .inl hrest
    · exact .inr (.inl (List.mem_append_left _ hkept))
    · exact .inr (.inr hreason)

/-- The lease is dropped. -/
theorem Snapping.drop {registry : Registry} (hmirrors : Mirrors world registry)
    (hreason : Leftover world lease ∨ lease.hasContainmentProcessMetadata = false ∧
      (lease.ownerSince ≤ timestamp → ¬ context.surroundings.ownerAlive lease.leaseId))
    (hsnapping : Snapping context timestamp skipLeaseIds first (lease :: rest) scan world) :
    Snapping context timestamp skipLeaseIds first rest { scan with registry } world := by
  refine ⟨hsnapping.still, fun other hother => hsnapping.files other (List.mem_cons_of_mem _ hother),
    hmirrors, hsnapping.sampled, hsnapping.counted, ?_⟩
  intro other hother
  obtain hrest | hkept := hsnapping.dropped other hother
  · obtain rfl | hrest := List.mem_cons.mp hrest
    · exact .inr (.inr hreason)
    · exact .inl hrest
  · exact .inr hkept

theorem Snapping.sampledBy {sampled : Option (List ProcessRecord)}
    (hsampled : SampledOk context world timestamp sampled)
    (hsnapping : Snapping context timestamp skipLeaseIds first rest scan world) :
    Snapping context timestamp skipLeaseIds first rest { scan with sampled } world :=
  { hsnapping with sampled := hsampled }

/-- One turn of the loop. -/
theorem safe_snapshotLease (htime : timestamp ≤ first.outside.clock)
    (hsnapping : Snapping context timestamp skipLeaseIds first (lease :: rest) scan world) :
    Safe context (snapshotLease skipLeaseIds timestamp scan lease)
      (fun scan' after => Snapping context timestamp skipLeaseIds first rest scan' after)
      (fun _ after => Still first after) world := by
  have hdisk := hsnapping.files lease (by simp)
  replace htime := htime.trans hsnapping.still.later.clock
  refine .assume fun hinvariant => ?_
  unfold snapshotLease
  split
  · rename_i hskipped
    exact .pure (hsnapping.keep (.inl hskipped))
  · split
    · rename_i hleftover
      exact .pure (hsnapping.drop hsnapping.mirrors
        (.inl ((hsnapping.mirrors.leftover hinvariant.toConsistent hdisk).mp hleftover)))
    · rename_i hleftover
      rw [hsnapping.mirrors.leftover hinvariant.toConsistent hdisk] at hleftover
      refine .seq (safe_leaseOwnerIsLive hdisk htime hsnapping.sampled)
        (fun _ _ _ h => hsnapping.still.trans h.1) fun result examined hexamined => ?_
      obtain ⟨live, sampled⟩ := result
      obtain ⟨hstill, hsampled, hlive⟩ := hexamined
      replace hsnapping := (hsnapping.kept hstill).sampledBy hsampled
      rw [← hstill.toKept.leftover] at hleftover
      dsimp only
      split
      · exact .pure (hsnapping.keep (.inr hleftover))
      · rename_i hdead
        simp only [Bool.or_eq_true, not_or, Bool.not_eq_true] at hdead
        refine .pure (hsnapping.drop (hsnapping.mirrors.lastReleased _ _) (.inr ⟨hdead.2, ?_⟩))
        intro hsince halive
        have := hlive halive hsince
        simp [hdead.1] at this

theorem safe_readBrokerStateSnapshot {inventory : Option SimctlInventory}
    (htime : timestamp ≤ world.outside.clock) :
    Safe context (readBrokerStateSnapshot timestamp inventory skipLeaseIds)
      (fun state after => Still world after ∧
        Snapshot context timestamp skipLeaseIds state after)
      (fun _ after => Still world after) world := by
  unfold readBrokerStateSnapshot
  refine .seq safe_readHostConfigOrThrow (fun _ _ _ h => h) fun config configured hconfigured => ?_
  obtain ⟨hconfig, hstill⟩ := hconfigured
  refine .seq (safe_read rfl (by simp)) (fun _ _ _ h => hstill.trans h.1)
    fun knownProjects projects hprojects => ?_
  replace hstill := hstill.trans hprojects.2
  refine .seq (safe_read rfl (by simp)) (fun _ _ _ h => hstill.trans h.1)
    fun rawRegistry read hread => ?_
  have hregistry : rawRegistry = world.store.registry := by
    rw [← hstill.registry]
    exact hread.1
  replace hstill := hstill.trans hread.2
  refine .seq (safe_read rfl (by simp)) (fun _ _ _ h => hstill.trans h.1)
    fun pins pinned hpinned => ?_
  have hpins : pins.Perm world.store.pins := hstill.pins ▸ hpinned.1
  replace hstill := hstill.trans hpinned.2
  refine .seq (safe_read rfl (by simp)) (fun _ _ _ h => hstill.trans h.1)
    fun leases listed hlisted => ?_
  have hleases : leases.Perm world.store.leases := hstill.leases ▸ hlisted.1
  replace hstill := hstill.trans hlisted.2
  have hmirrors : Mirrors world (normalizeRegistry rawRegistry config timestamp) :=
    mirrors_normalized hregistry hconfig.configuredAliases timestamp
  have hstart : Snapping context timestamp skipLeaseIds world leases
      { registry := normalizeRegistry rawRegistry config timestamp } listed := by
    refine ⟨hstill, ?_, hmirrors.kept hstill.toKept, .none _ _ _, by simp, ?_⟩
    · intro lease hlease
      rw [hstill.leases]
      exact hleases.mem_iff.mp hlease
    · intro lease hlease
      rw [hstill.leases] at hlease
      exact .inl (hleases.mem_iff.mpr hlease)
  refine .seq (.foldlM (fun rest scan after =>
    Snapping context timestamp skipLeaseIds world rest scan after)
    (fun lease rest scan before hsnapping => safe_snapshotLease htime hsnapping)
    (fun _ _ _ h => h) leases _ hstart) (fun _ _ _ h => h) fun scan scanned hscanned => ?_
  refine .seq safe_syncRegistryWithSimctl (fun _ _ _ h => hscanned.still.trans h.1)
    fun synced settled hsynced => ?_
  obtain ⟨hsettled, inventory, rfl⟩ := hsynced
  replace hscanned := hscanned.kept hsettled
  have hconfig := hconfig.kept hscanned.still.toKept
  refine .pure ⟨hscanned.still, hconfig, rfl, ?_, rfl, hscanned.counted, ?_, ?_⟩
  · rw [hscanned.still.pins]
    exact hpins
  · intro lease hlease
    obtain hnone | hrest := hscanned.dropped lease hlease
    · simp at hnone
    · exact hrest
  · intro name entry hentry hhealthy disk hdisk
    obtain ⟨verdict, old, hold, rfl⟩ :=
      synchronized_cases hscanned.mirrors hconfig.configuredAliases hentry
    by_contra hlatched
    have hsame := (hscanned.mirrors.entry name old hold).health
    rw [hdisk] at hsame
    have hold : old.health.latched = true := by
      rw [hsame]
      simpa using hlatched
    have hsynced : (syncEntry verdict (adoptedEntry (indexLeases scan.leases) (indexPins pins)
        timestamp name old)).health.latched = true := syncEntry_latched hold
    simp [hsynced] at hhealthy

theorem safe_createAppSnapshot :
    Safe context createAppSnapshot (fun _ after => Still world after)
      (fun _ after => Still world after) world := by
  unfold createAppSnapshot
  refine .seq (safe_read rfl (by simp)) (fun _ _ _ h => h.1) fun _ read hread => ?_
  refine safe_ignoringErrors ?_
  refine .seq (M := fun _ after => Still world after) (E := fun _ after => Still world after)
    ((safe_read rfl (by simp)).weaken (fun _ _ _ h => hread.2.trans h.2)
      fun _ _ _ h => hread.2.trans h.1) (fun _ _ _ h => h) fun _ _ h => .pure h

theorem safe_writeAppSnapshotArtifact (htime : timestamp ≤ world.outside.clock) :
    Safe context (writeAppSnapshotArtifact timestamp skipLeaseIds)
      (fun _ after => Kept world after) (fun _ after => Kept world after) world := by
  unfold writeAppSnapshotArtifact
  refine .catch (E := fun _ after => Kept world after) ?_ fun error failed hfailed => ?_
  · refine .seq (safe_readBrokerStateSnapshot htime) (fun _ _ _ h => h.toKept)
      fun state read hread => ?_
    refine .seq safe_createAppSnapshot (fun _ _ _ h => (hread.1.trans h).toKept)
      fun _ created hcreated => ?_
    have hkept := (hread.1.trans hcreated).toKept
    have heffect := kept_effect (.rename .appSnapshot) rfl created
    have hok : StepOk context (.rename .appSnapshot) created := trivial
    refine (safe_writeJsonAtomicRestricted hok).weaken ?_ ?_
    · exact fun _ _ _ hwritten => (hkept.trans heffect).trans hwritten.toKept
    · rintro error failed - ⟨-, hstill | hwritten⟩
      · exact hkept.trans hstill.toKept
      · exact (hkept.trans heffect).trans hwritten.toKept
  · split
    · exact .pure hfailed
    · exact .throw hfailed

theorem stable_kept : Stable (Kept first) :=
  fun hstill hkept => hkept.trans hstill.toKept

/-- The refresh of the snapshot keeps what a command left, whether it fails or not. -/
theorem safe_writeAppSnapshotArtifactUnderMutationLock :
    Safe context (writeAppSnapshotArtifactUnderMutationLock skipLeaseIds)
      (fun _ after => Kept world after) (fun _ after => Kept world after) world := by
  refine safe_withLock (fun _ => stable_kept) stable_kept (fun _ _ h => h) (.refl world)
    fun locked hlocked => ?_
  refine .seq (M := fun now started => Still locked started ∧ now ≤ started.outside.clock)
    (.opStill rfl trivial (fun now _ hanswered hstill => ⟨hstill, ?_⟩)
      fun _ _ _ hof _ => hof.elim) (fun _ _ _ h => h) fun now started hstarted => ?_
  · exact (show now = locked.outside.clock from hanswered) ▸ hstill.later.clock
  · have hkept := (hlocked.trans hstarted.1).toKept
    exact (safe_writeAppSnapshotArtifact hstarted.2).weaken (fun _ _ _ h => hkept.trans h)
      fun _ _ _ h => hkept.trans h

end SimulatorBroker.Safety
