import SimulatorBroker.Safety.Acquire

/-!
# Registering, containing and releasing

The commands that name a lease keep its file through their load, so they must
not name a lease whose acquire was rolled back; and they end no other lease than
the one they name.
-/

namespace SimulatorBroker.Safety

open SimulatorBroker.Effects
open SimulatorBroker.State
open SimulatorBroker.Broker

variable {context : Context} {first world after : World} {timestamp : Timestamp}
  {registry : Registry} {reference : LeaseReference}

/-! ## The named lease -/

theorem Still.names_iff (hstill : Still world after) {leaseId : LeaseId} :
    LeaseReference.Names reference after leaseId ↔
      LeaseReference.Names reference world leaseId := by
  unfold LeaseReference.Names
  rw [hstill.artifacts]

theorem safe_readLeaseFileId {path : ArtifactPath} :
    Safe context (readLeaseFileId path)
      (fun leaseId after => Still world after ∧ ∀ id, leaseId = some id →
        ∃ record, world.store.artifacts path = some (.lease record) ∧ record.leaseId = id)
      (fun _ after => Still world after) world := by
  unfold readLeaseFileId
  refine .seq (safe_read rfl (by simp)) (fun _ _ _ h => h.1) fun content read hread => ?_
  obtain ⟨hcontent, hstill⟩ := hread
  have hstored : content = world.store.artifacts path := hcontent.1
  split
  · rename_i record
    exact .pure ⟨hstill, fun id hid => ⟨record, hstored.symm, Option.some_inj.mp hid⟩⟩
  · exact .pure ⟨hstill, by simp⟩
  · exact .throw hstill

theorem safe_resolveLeaseId :
    Safe context (resolveLeaseId reference)
      (fun leaseId after => Still world after ∧
        ∀ id, leaseId = some id → LeaseReference.Names reference world id)
      (fun _ after => Still world after) world := by
  unfold resolveLeaseId
  split
  · rename_i leaseId leaseFile hid
    exact .pure ⟨.refl world, fun id hsome => .inl (hid.trans hsome)⟩
  · rename_i path hid hfile
    refine safe_readLeaseFileId.weaken ?_ fun _ _ _ h => h
    rintro leaseId read - ⟨hstill, hrecord⟩
    refine ⟨hstill, fun id hsome => ?_⟩
    obtain ⟨record, hstored, hrecordId⟩ := hrecord id hsome
    exact .inr ⟨hid, path, record, hfile, hstored, hrecordId⟩
  · exact .pure ⟨.refl world, by simp⟩

/-- The named lease is on disk. -/
theorem safe_loadLeaseByIdOrFile :
    Safe context (loadLeaseByIdOrFile reference)
      (fun lease after => Still world after ∧ lease ∈ after.store.leases ∧
        LeaseReference.Names reference world lease.leaseId)
      (fun _ after => Still world after) world := by
  unfold loadLeaseByIdOrFile
  refine .seq safe_resolveLeaseId (fun _ _ _ h => h) fun leaseId resolved hresolved => ?_
  cases leaseId with
  | none => exact .throw hresolved.1
  | some leaseId =>
      refine .seq (safe_read rfl (by simp)) (fun _ _ _ h => hresolved.1.trans h.1)
        fun found read hread => ?_
      obtain ⟨hfound, hstill⟩ := hread
      cases found with
      | none => exact .throw (hresolved.1.trans hstill)
      | some lease =>
          have hlookup : some lease = resolved.store.lease? leaseId := hfound
          have hid : lease.leaseId = leaseId := by simpa using List.find?_some hlookup.symm
          refine .pure ⟨hresolved.1.trans hstill, ?_, hid ▸ hresolved.2 leaseId rfl⟩
          rw [hstill.leases]
          exact List.mem_of_find?_eq_some hlookup.symm

/-! ## Rewriting a lease file -/

/-- A rewritten lease file keeps the holders. -/
theorem LeaseWritten.rewritten {paths : BrokerPaths} {record old : Lease}
    (hconsistent : Consistent paths world) (hold : old ∈ world.store.leases)
    (hid : old.leaseId = record.leaseId) (halias : old.aliasName = record.aliasName)
    (hwritten : LeaseWritten record world after) (name : AliasName) :
    (holder after name).map (·.leaseId) = (holder world name).map (·.leaseId) := by
  have hmem : ∀ other, other ∈ after.store.leases ↔ other = record ∨
      other ∈ world.store.leases ∧ other.leaseId ≠ record.leaseId := by
    intro other
    rw [hwritten.leases]
    exact mem_setLease
  cases hfind : holder after name with
  | none =>
      have hnone : holder world name = none := by
        rw [holder_eq_none] at hfind ⊢
        intro other hother hname
        by_cases hsame : other.leaseId = record.leaseId
        · have heq := eq_of_nodup_map hconsistent.leaseIds hother hold (hsame.trans hid.symm)
          exact hfind record ((hmem record).mpr (.inl rfl)) (halias ▸ heq ▸ hname)
        · exact hfind other ((hmem other).mpr (.inr ⟨hother, hsame⟩)) hname
      rw [hnone]
  | some other =>
      have hname : other.aliasName = name := by simpa using List.find?_some hfind
      obtain rfl | ⟨hother, -⟩ := (hmem other).mp (List.mem_of_find?_eq_some hfind)
      · rw [(holder_eq_some hconsistent).mpr ⟨hold, halias.trans hname⟩]
        simp [hid]
      · rw [(holder_eq_some hconsistent).mpr ⟨hother, hname⟩]

theorem LeaseWritten.settled {paths : BrokerPaths} {record old : Lease}
    (hwritten : LeaseWritten record world after) (hsettled : Settled context world)
    (hconsistent : Consistent paths world) (hold : old ∈ world.store.leases)
    (hid : old.leaseId = record.leaseId) (halias : old.aliasName = record.aliasName) :
    Settled context after := by
  have hbut := hwritten.butLeases
  refine ⟨?_, fun hrecords => hbut.exact (hsettled.2 hrecords)⟩
  intro name hname
  have hconfigured : after.store.configuredAliases = world.store.configuredAliases := by
    simp [Store.configuredAliases, hbut.hostConfig]
  have hentry : after.store.entry = world.store.entry := by
    funext other
    simp [Store.entry, hbut.registry]
  rw [hconfigured] at hname
  rw [hentry, hwritten.rewritten hconsistent hold hid halias]
  exact hsettled.1 name hname

/-! ## Registering -/

theorem registeredLease_ownerSince (lease : Lease) (options : RegisterOptions) (commandPid : Pid)
    (commandPgid ownerPgid : Option (Option Pid)) (ownerPid : Option Pid) (timestamp : Timestamp) :
    (registeredLease lease options commandPid commandPgid ownerPgid ownerPid
      timestamp).ownerSince = lease.ownerSince ∨
    (registeredLease lease options commandPid commandPgid ownerPgid ownerPid
      timestamp).ownerSince = timestamp := by
  cases ownerPid with
  | none =>
      left
      simp [registeredLease, mergeLeaseRuntimeMetadata, Lease.ownerSince, buildLeaseRuntimeMetadata]
  | some ownerPid =>
      right
      simp [registeredLease, mergeLeaseRuntimeMetadata, Lease.ownerSince]

theorem runtimeOwnerPid_positive {lease : Lease} {pid : Pid}
    (hpid : lease.runtimeOwnerPid = some pid) : 0 < pid := by
  unfold Lease.runtimeOwnerPid positive? at hpid
  obtain ⟨-, hpositive⟩ := Option.filter_eq_some_iff.mp hpid
  simpa using hpositive

theorem positive_some {number : Nat} (hpositive : 0 < number) :
    positive? (some number) = some number := by
  simp [positive?, hpositive]

theorem registeredLease_owned {lease : Lease} (howned : lease.runtimeOwnerPid.isSome)
    (options : RegisterOptions) (commandPid : Pid) (commandPgid ownerPgid : Option (Option Pid))
    {ownerPid : Option Pid} (howner : ∀ pid, ownerPid = some pid → 1 < pid) :
    (registeredLease lease options commandPid commandPgid ownerPgid ownerPid
      timestamp).runtimeOwnerPid.isSome := by
  obtain ⟨pid, hpid⟩ := Option.isSome_iff_exists.mp howned
  have hpositive := runtimeOwnerPid_positive hpid
  cases ownerPid with
  | none =>
      rw [Lease.runtimeOwnerPid]
      simp [registeredLease, mergeLeaseRuntimeMetadata, buildLeaseRuntimeMetadata, hpid,
        positive_some hpositive]
  | some ownerPid =>
      have hroot : 0 < ownerPid := Nat.zero_lt_of_lt (howner ownerPid rfl)
      rw [Lease.runtimeOwnerPid]
      simp [registeredLease, mergeLeaseRuntimeMetadata, positive_some hroot]

theorem safe_validateRegisteredCommandGroup {commandPid : Pid} {commandPgid : Option Pid} :
    Safe context (validateRegisteredCommandGroup commandPid commandPgid)
      (fun _ after => Still world after) (fun _ after => Still world after) world := by
  unfold validateRegisteredCommandGroup
  split
  · exact .pure (.refl world)
  · refine .seq (safe_read rfl (by simp)) (fun _ _ _ h => h.1) fun records read hread => ?_
    split
    · exact .throw hread.2
    · split
      · exact .throw hread.2
      · split
        · exact .throw hread.2
        · exact .pure hread.2

theorem safe_checkOptionalFlag {β γ : Type} {check : β → Broker γ} {E : World → Prop}
    {Q : γ → Prop} (hcheck : ∀ value, Safe context (check value)
      (fun checked after => after = world ∧ Q checked) (fun _ after => E after) world)
    (flag : Option β) :
    Safe context (checkOptionalFlag check flag)
      (fun checked after => after = world ∧ ∀ value, checked = some value → Q value)
      (fun _ after => E after) world := by
  cases flag with
  | none => exact .pure ⟨rfl, by simp⟩
  | some value =>
      refine .seq (hcheck value) (fun _ _ _ h => h) fun checked after h => ?_
      refine .pure ⟨h.1, ?_⟩
      rintro _ ⟨⟩
      exact h.2

theorem safe_checkRegisterFlags {options : RegisterOptions} {E : World → Prop} (hworld : E world) :
    Safe context (checkRegisterFlags options)
      (fun flags after => after = world ∧ ∀ pid, flags.2.2 = some pid → 1 < pid)
      (fun _ after => E after) world := by
  have hgroup : ∀ value : Option Nat, Safe context (optionalContainmentGroupInteger value)
      (fun _ after => after = world ∧ True) (fun _ after => E after) world := fun value =>
    (safe_optionalContainmentGroupInteger hworld).weaken (fun _ _ _ h => ⟨h, trivial⟩)
      fun _ _ _ h => h
  have hroot : ∀ value : Nat, Safe context (requireContainmentRootInteger value)
      (fun pid after => after = world ∧ 1 < pid) (fun _ after => E after) world := fun value =>
    (safe_requireContainmentRootInteger hworld).weaken (fun _ _ _ h => ⟨h.1, h.2.1 ▸ h.2.2⟩)
      fun _ _ _ h => h
  unfold checkRegisterFlags
  refine .seq (safe_checkOptionalFlag hgroup _) (fun _ _ _ h => h) fun commandPgid first hfirst => ?_
  obtain ⟨rfl, -⟩ := hfirst
  refine .seq (safe_checkOptionalFlag hgroup _) (fun _ _ _ h => h) fun ownerPgid second hsecond => ?_
  obtain ⟨rfl, -⟩ := hsecond
  refine .seq (safe_checkOptionalFlag hroot _) (fun _ _ _ h => h) fun ownerPid third hthird => ?_
  exact .pure hthird

theorem safe_registerLeaseProcess {options : RegisterOptions}
    (hready : Ready context timestamp world) (hsince : timestamp ≤ context.since)
    (hnames : ∀ lease ∈ world.store.leases,
      LeaseReference.Names options.reference world lease.leaseId →
      ¬ context.rolledBack lease.leaseId) :
    Safe context (registerLeaseProcess context.paths options timestamp)
      (fun _ after => Settled context after) (fun _ after => Counted context after) world := by
  unfold registerLeaseProcess
  refine .seq safe_loadLeaseByIdOrFile (fun _ _ _ h => h.toKept.counted hready.counted)
    fun lease found hfound => ?_
  obtain ⟨hstill, hdisk, hnamed⟩ := hfound
  have hrolledBack := hnames lease (hstill.leases ▸ hdisk) hnamed
  replace hready := hready.kept hstill.toKept
  refine .seq (safe_loadBrokerState hready.counted ⟨hready.since, hready.past, by simpa⟩)
    (fun _ _ _ h => h.2) fun state loaded hloaded => ?_
  replace hdisk := hloaded.skipped lease hdisk (by simp)
  have hclock : timestamp ≤ loaded.outside.clock := hready.past.trans hloaded.host.later.clock
  refine .seq (safe_requireContainmentRootInteger hloaded.counted) (fun _ _ _ h => h)
    fun commandPid required hrequired => ?_
  obtain ⟨rfl, -, -⟩ := hrequired
  refine .seq (safe_checkRegisterFlags hloaded.counted) (fun _ _ _ h => h)
    fun flags checked hchecked => ?_
  obtain ⟨commandPgid, ownerPgid, ownerPid⟩ := flags
  obtain ⟨rfl, howner⟩ := hchecked
  refine .seq safe_validateRegisteredCommandGroup
    (fun _ _ _ h => h.toKept.counted hloaded.counted) fun _ validated hvalidated => ?_
  refine .seq safe_validateRegisteredOwnerGroup
    (fun _ _ _ h => (hvalidated.trans h).toKept.counted hloaded.counted)
    fun _ sampled hsampled => ?_
  have hlast := hvalidated.trans hsampled
  have hsettled := hlast.toKept.settled hloaded.settled
  replace hdisk : lease ∈ sampled.store.leases := hlast.leases ▸ hdisk
  refine .assume fun hinvariant => ?_
  have howned := hinvariant.owned lease hdisk
  have hwrite : LeaseWriteOk context sampled
      (registeredLease lease options commandPid commandPgid ownerPgid ownerPid timestamp) := by
    have hsame := registeredLease_ownerSince lease options commandPid commandPgid ownerPgid ownerPid
      timestamp
    refine ⟨?_, registeredLease_owned howned options commandPid commandPgid ownerPgid howner,
      hinvariant.leaseArtifacts lease hdisk, hrolledBack, fun hspared => ?_,
      .inl ⟨lease, hdisk, rfl, rfl, rfl, rfl, rfl⟩⟩
    · obtain hsame | hsame := hsame
      · rw [hsame]
        exact hinvariant.ownerSince lease hdisk
      · rw [hsame]
        exact hclock.trans hlast.later.clock
    · obtain hsame | hsame := hsame
      · obtain ⟨alive, haliveId, halive⟩ := hinvariant.spared _ hspared
        rw [hsame, ← eq_of_nodup_map hinvariant.leaseIds halive.onDisk hdisk haliveId]
        exact halive.since
      · rw [hsame]
        exact hsince
  refine .seq (safe_writeLeaseRecord (fun _ => hwrite) fun _ => hwrite.artifact)
    (fun _ _ _ h hrecords => h.1.exact (hsettled.2 hrecords)) fun _ written hwritten => ?_
  refine .seq (safe_appendEventRecord (.refl written) (eventOk_of_ne (by simp) (by simp)))
    (fun _ _ _ h => h.elim) fun _ appended happended => ?_
  have hrewritten : Settled context written :=
    hwritten.settled hsettled hinvariant.toConsistent hdisk rfl rfl
  exact .pure (happended.toKept.settled hrewritten)

/-! ## Containing -/

theorem KeptButLeases.counted (hkept : KeptButLeases world after)
    (hcounted : Counted context world) : Counted context after :=
  fun hrecords => hkept.exact (hcounted hrecords)

theorem Interrupted.counted (hinterrupted : Interrupted context world after)
    (hcounted : Counted context world) : Counted context after :=
  fun hrecords => (hinterrupted.recorded hrecords).1.exact (hcounted hrecords)

theorem safe_containLease {reason : ContainmentReason} (hready : Ready context timestamp world)
    (hnames : ∀ lease ∈ world.store.leases, LeaseReference.Names reference world lease.leaseId →
      ¬ context.rolledBack lease.leaseId ∧ ¬ context.spared lease.leaseId) :
    Safe context (containLease context.paths reference reason timestamp)
      (fun _ after => Settled context after) (fun _ after => Counted context after) world := by
  unfold containLease
  refine .seq safe_loadLeaseByIdOrFile (fun _ _ _ h => h.toKept.counted hready.counted)
    fun lease found hfound => ?_
  obtain ⟨hstill, hdisk, hnamed⟩ := hfound
  obtain ⟨hrolledBack, hspared⟩ := hnames lease (hstill.leases ▸ hdisk) hnamed
  replace hready := hready.kept hstill.toKept
  refine .seq (safe_loadBrokerState hready.counted ⟨hready.since, hready.past, by simpa⟩)
    (fun _ _ _ h => h.2) fun state loaded hloaded => ?_
  replace hdisk := hloaded.skipped lease hdisk (by simp)
  have htracks := hloaded.loaded.tracks
  refine .assume fun hinvariant => ?_
  obtain ⟨entry, hentry⟩ := htracks.present _ (hinvariant.leaseConfigured lease hdisk)
  refine .seq (safe_containLeaseRecord hdisk hspared hrolledBack (by simp [hentry])
      (htracks.markOk hinvariant hdisk hspared timestamp))
    (fun _ _ _ h => h.counted hloaded.counted) fun outcome contained hcontained => ?_
  cases outcome with
  | incomplete observed => exact .throw (hcontained.2.butLeases.counted hloaded.counted)
  | notContained observed =>
      obtain ⟨-, ⟨observation, rfl⟩, hwritten⟩ := hcontained
      exact .pure (hwritten.settled hloaded.settled hinvariant.toConsistent hdisk rfl rfl)
  | contained released =>
      obtain ⟨-, hended⟩ := hcontained
      obtain ⟨-, hsettled⟩ := htracks.ended hinvariant hdisk rfl rfl hended
      exact .pure hsettled

/-! ## Releasing -/

/-- Where a later step fails, the registry from before may be written again. -/
theorem Tracks.rewind {registry marked : Registry} (htracks : Tracks context world registry {})
    (hwritten : RegistryWritten marked {} world after)
    (hhealth : ∀ name, (marked.aliases name).map (·.health) = (registry.aliases name).map (·.health))
    (hfails : ¬ RecordsEnds context.surroundings) : Tracks context after registry {} where
  latched name hname hlatched := by
    rw [hwritten.ledger] at hlatched
    simp only [BrokerOp.effect, Ledger.registryWritten, Bool.and_eq_true, Bool.or_eq_true,
      decide_eq_true_eq, Option.any_eq_true] at hlatched
    obtain ⟨hconfigured, ⟨other, hother, hlatched⟩ | ⟨hlatched, -⟩⟩ := hlatched
    · obtain ⟨entry, hentry⟩ := htracks.present name hconfigured
      have hsame := hhealth name
      rw [hother, hentry] at hsame
      have hentryHealth : entry.health = other.health := (Option.some_inj.mp hsame).symm
      exact .inr ⟨entry, hentry, by rw [hentryHealth, hlatched]⟩
    · exact htracks.latched name hconfigured hlatched
  cause name entry code hentry hcode := by
    obtain ⟨hlatched, hcause⟩ := htracks.cause name entry code hentry hcode
    refine ⟨hlatched, .inr ?_⟩
    have hsame := hhealth name
    rw [hentry] at hsame
    obtain ⟨other, hother, hotherHealth⟩ := Option.map_eq_some_iff.mp hsame
    have hotherLatched : other.health.latched = true := by rw [hotherHealth, hlatched]
    rw [hwritten.ledger]
    simp only [BrokerOp.effect, Ledger.registryWritten, List.not_mem_nil, if_false, hother,
      Option.any_some, hotherLatched, if_true]
    simpa using hcause
  present name hname := htracks.present name (hwritten.configuredAliases ▸ hname)
  active name entry hentry := by
    rw [hwritten.holder]
    exact htracks.active name entry hentry
  gone lease hlease := htracks.gone lease (hwritten.leases ▸ hlease)
  tallied hrecords := absurd hrecords hfails

theorem markReleased_health (registry : Registry) (name other : AliasName) (releasedAt : Timestamp) :
    ((markReleased registry name releasedAt).aliases other).map (·.health) =
      (registry.aliases other).map (·.health) := by
  by_cases hname : other = name
  · subst hname
    rw [markReleased_self, Option.map_map]
    rfl
  · rw [markReleased_of_ne registry hname]

/-- A rewritten lease file keeps track. -/
theorem Tracks.rewritten {note : RegistryNote} {paths : BrokerPaths} {record old : Lease}
    (htracks : Tracks context world registry note) (hconsistent : Consistent paths world)
    (hold : old ∈ world.store.leases) (hid : old.leaseId = record.leaseId)
    (halias : old.aliasName = record.aliasName) (hwritten : LeaseWritten record world after) :
    Tracks context after registry note := by
  have hbut := hwritten.butLeases
  have hconfigured : after.store.configuredAliases = world.store.configuredAliases := by
    simp [Store.configuredAliases, hbut.hostConfig]
  refine ⟨?_, ?_, ?_, ?_, ?_, ?_⟩
  · rw [hconfigured, hbut.ledger]
    exact htracks.latched
  · rw [hbut.ledger]
    exact htracks.cause
  · rw [hconfigured]
    exact htracks.present
  · intro name entry hentry
    rw [hwritten.rewritten hconsistent hold hid halias]
    exact htracks.active name entry hentry
  · intro lease hlease
    rw [hwritten.leases] at hlease
    obtain rfl | ⟨hlease, -⟩ := mem_setLease.mp hlease
    · exact hid ▸ htracks.gone old hold
    · exact htracks.gone lease hlease
  · unfold Tallied
    rw [hbut.ledger]
    exact htracks.tallied

theorem safe_removeReleasedLease {lease : Lease} (htracks : Tracks context world registry {})
    (hdisk : lease ∈ world.store.leases) (hspared : ¬ context.spared lease.leaseId) :
    Safe context (removeReleasedLease context.paths registry lease timestamp)
      (fun released after => released = markReleased registry lease.aliasName timestamp ∧
        Ended registry lease (.released timestamp) timestamp world after)
      (fun _ after => ¬ RecordsEnds context.surroundings ∧ (Kept world after ∨
        RegistryWritten (markReleased registry lease.aliasName timestamp) {} world after)) world := by
  refine .assume fun hinvariant => ?_
  obtain ⟨entry, hentry⟩ := htracks.present _ (hinvariant.leaseConfigured lease hdisk)
  unfold removeReleasedLease
  refine .seq (safe_removeLeaseArtifactFile (.refl world) (hinvariant.leaseArtifacts lease hdisk))
    (fun _ _ _ h => ⟨h.1, .inl h.2⟩) fun _ removed hremoved => ?_
  simp only [hentry, Option.isSome_some, if_true]
  replace hdisk : lease ∈ removed.store.leases := hremoved.leases ▸ hdisk
  replace hinvariant := hremoved.invariant hinvariant
  have hok := (htracks.kept hremoved).markOk hinvariant hdisk hspared timestamp
  refine .seq (safe_writeRegistry hok) ?_ fun _ written hwritten => ?_
  · rintro error failed - ⟨hfails, hstill | hwritten⟩
    · exact ⟨hfails, .inl (hremoved.trans hstill.toKept)⟩
    · exact ⟨hfails, .inr (hremoved.registryWritten hwritten.toKept)⟩
  have hwritten : RegistryWritten (markReleased registry lease.aliasName timestamp) {} world
      written := hremoved.registryWritten hwritten.toKept
  unfold removeCanonicalLeaseRecordFile
  refine .seq (safe_unlinkLease (.refl written) hspared) ?_ fun _ unlinked hunlinked => ?_
  · exact fun _ _ _ h => ⟨h.1, .inr (hwritten.trans h.2)⟩
  · exact .pure ⟨rfl, written, hwritten, hunlinked⟩

/-- After a failed removal the files and the registry are put back. -/
theorem safe_restoreReleasedLease {lease : Lease} {snapshot : LeaseFilesSnapshot}
    (htracks : Tracks context world registry {}) (hdisk : lease ∈ world.store.leases)
    (hcanonical : snapshot.canonical = some lease) :
    Safe context (restoreLeaseRecordFiles snapshot >>= fun _ => writeRegistry registry)
      (fun _ _ => True) (fun _ _ => True) world := by
  refine .assume fun hinvariant => ?_
  refine .seq (safe_restoreLeaseRecordFiles ?_ ?_) (fun _ _ _ _ => trivial)
    fun _ restored hrestored => ?_
  · simp [hcanonical]
  · rintro record hrecord
    obtain rfl : lease = record := Option.some_inj.mp (hcanonical.symm.trans hrecord)
    refine ⟨hinvariant.ownerSince lease hdisk, hinvariant.owned lease hdisk,
      hinvariant.leaseArtifacts lease hdisk, htracks.gone lease hdisk, fun hspared => ?_,
      .inl ⟨lease, hdisk, .refl lease⟩⟩
    obtain ⟨alive, haliveId, halive⟩ := hinvariant.spared _ hspared
    rw [← eq_of_nodup_map hinvariant.leaseIds halive.onDisk hdisk haliveId]
    exact halive.since
  obtain ⟨record, hrecord, hwritten⟩ | ⟨hnone, -⟩ := hrestored
  · obtain rfl : lease = record := Option.some_inj.mp (hcanonical.symm.trans hrecord)
    have htracks := htracks.rewritten hinvariant.toConsistent hdisk rfl rfl hwritten
    exact (safe_writeTracked htracks).weaken (fun _ _ _ _ => trivial) fun _ _ _ _ => trivial
  · simp [hcanonical] at hnone

theorem safe_releaseLease (hready : Ready context timestamp world)
    (hnames : ∀ lease ∈ world.store.leases, LeaseReference.Names reference world lease.leaseId →
      ¬ context.rolledBack lease.leaseId ∧ ¬ context.spared lease.leaseId) :
    Safe context (releaseLease context.paths reference)
      (fun _ after => Settled context after) (fun _ after => Counted context after) world := by
  unfold releaseLease
  refine .seq (E := fun _ _ => False) (safe_now hready) (fun _ _ _ h => h.elim)
    fun timestamp started hstarted => ?_
  obtain ⟨hstill, hready⟩ := hstarted
  rw [← hstill.leases] at hnames
  replace hnames := fun lease hlease hnamed => hnames lease hlease (hstill.names_iff.mp hnamed)
  refine .seq safe_loadLeaseByIdOrFile (fun _ _ _ h => h.toKept.counted hready.counted)
    fun lease found hfound => ?_
  obtain ⟨hstill, hdisk, hnamed⟩ := hfound
  obtain ⟨hrolledBack, hspared⟩ := hnames lease (hstill.leases ▸ hdisk) hnamed
  replace hready := hready.kept hstill.toKept
  refine .seq (safe_loadBrokerState hready.counted ⟨hready.since, hready.past, by simpa⟩)
    (fun _ _ _ h => h.2) fun state loaded hloaded => ?_
  replace hdisk := hloaded.skipped lease hdisk (by simp)
  refine .assume fun hinvariant => ?_
  refine .seq (E := fun _ _ => False)
    (safe_assertLeaseArtifactPathAllowed (hinvariant.leaseArtifacts lease hdisk))
    (fun _ _ _ h => h.elim) fun _ checked hchecked => ?_
  subst hchecked
  refine .seq safe_snapshotLeaseRecordFiles (fun _ _ _ h => h.1.toKept.counted hloaded.counted)
    fun snapshot read hread => ?_
  obtain ⟨hreadStill, -, hcanonical⟩ := hread
  rw [lease?_eq_some hinvariant.toConsistent hdisk] at hcanonical
  replace hdisk : lease ∈ read.store.leases := hreadStill.leases ▸ hdisk
  have hcurrent := hloaded.loaded.toCurrent.kept hreadStill.toKept
  have htracks := hcurrent.tracks
  refine .assume fun hinvariant => ?_
  refine .seq (E := fun _ after => Counted context after)
    (.catch (safe_removeReleasedLease htracks hdisk hspared) fun error failed hfailed => ?_)
    (fun _ _ _ h => h) fun released removed hremoved => ?_
  · obtain ⟨hfails, hfailed⟩ := hfailed
    have htracks : Tracks context failed state.registry {} := by
      obtain hkept | hwritten := hfailed
      · exact htracks.kept hkept
      · exact htracks.rewind hwritten (fun other => markReleased_health _ _ other _) hfails
    have hdisk : lease ∈ failed.store.leases := by
      obtain hkept | hwritten := hfailed
      · exact hkept.leases ▸ hdisk
      · exact hwritten.leases ▸ hdisk
    refine .seq (E := fun _ _ => False) (M := fun _ _ => True)
      (safe_ignoringErrors (safe_restoreReleasedLease htracks hdisk hcanonical))
      (fun _ _ _ h => h.elim) fun _ restored _ => ?_
    exact .throw fun hrecords => absurd hrecords hfails
  obtain ⟨rfl, hended⟩ := hremoved
  obtain ⟨hmarked, hsettled⟩ := htracks.ended hinvariant hdisk rfl rfl hended
  refine .seq (E := fun _ _ => False)
    (safe_appendEventRecord (.refl removed) (eventOk_of_ne (by simp) (by simp)))
    (fun _ _ _ h => h.elim) fun _ appended happended => ?_
  have hkept := happended.toKept
  split
  · have hreleased : Current context
        ((state.withRegistry (markReleased state.registry lease.aliasName timestamp)).forgetLease
          lease.aliasName) appended := by
      refine ⟨hcurrent.config.of_hostConfig (hkept.hostConfig.trans hended.hostKept.hostConfig),
        hmarked.kept hkept, ?_, ?_, hcurrent.byPin⟩
      · funext name
        rw [hkept.holder, hended.holder hinvariant.toConsistent hdisk]
        simp [BrokerState.forgetLease, BrokerState.withRegistry, hcurrent.byAlias]
      · rw [hkept.pins, hended.hostKept.pins]
        exact hcurrent.pins
    refine .seq (safe_performSlotReclaim hreleased (hkept.agree hsettled.1)
      (hkept.counted hsettled.2)) (fun _ _ _ h => h.2) fun _ reclaimed hreclaimed => ?_
    exact .pure ⟨hreclaimed.agree, hreclaimed.counted⟩
  · exact .pure (hkept.settled hsettled)

theorem safe_registerLeaseProcessBroker {options : RegisterOptions}
    (hready : Ready context timestamp world) (hsince : timestamp ≤ context.since)
    (hnames : ∀ lease ∈ world.store.leases,
      LeaseReference.Names options.reference world lease.leaseId →
      ¬ context.rolledBack lease.leaseId) :
    Safe context (registerLeaseProcessBroker context.paths options timestamp)
      (fun _ after => Settled context after) (fun _ after => Counted context after) world :=
  safe_settledUnderLock hready.counted fun _ hstill =>
    safe_registerLeaseProcess (hready.kept hstill.toKept) hsince
      fun lease hlease hnamed =>
        hnames lease (hstill.leases ▸ hlease) (hstill.names_iff.mp hnamed)

theorem safe_containLeaseBroker {reason : ContainmentReason}
    (hready : Ready context timestamp world)
    (hnames : ∀ lease ∈ world.store.leases, LeaseReference.Names reference world lease.leaseId →
      ¬ context.rolledBack lease.leaseId ∧ ¬ context.spared lease.leaseId) :
    Safe context (containLeaseBroker context.paths reference reason timestamp)
      (fun _ after => Settled context after) (fun _ after => Counted context after) world :=
  safe_settledUnderLock hready.counted fun _ hstill =>
    safe_containLease (hready.kept hstill.toKept)
      fun lease hlease hnamed =>
        hnames lease (hstill.leases ▸ hlease) (hstill.names_iff.mp hnamed)

theorem safe_releaseLeaseBroker (hready : Ready context timestamp world)
    (hnames : ∀ lease ∈ world.store.leases, LeaseReference.Names reference world lease.leaseId →
      ¬ context.rolledBack lease.leaseId ∧ ¬ context.spared lease.leaseId) :
    Safe context (releaseLeaseBroker context.paths reference)
      (fun _ after => Settled context after) (fun _ after => Counted context after) world :=
  safe_settledUnderLock hready.counted fun _ hstill =>
    safe_releaseLease (hready.kept hstill.toKept)
      fun lease hlease hnamed =>
        hnames lease (hstill.leases ▸ hlease) (hstill.names_iff.mp hnamed)

end SimulatorBroker.Safety
