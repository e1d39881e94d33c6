import SimulatorBroker.Safety.LeaseFiles

/-!
# Ends of leases

A lease ends by a registry write and the removal of its file.  This module says
what the two leave together, which leases a state load finds dead, and what
containing a lease does.
-/

namespace SimulatorBroker.Safety

open SimulatorBroker.Effects
open SimulatorBroker.State
open SimulatorBroker.Broker

variable {context : Context} {world after : World}

/-! ## One file less -/

theorem lease?_eq_some {paths : BrokerPaths} (hconsistent : Consistent paths world)
    {lease : Lease} (hlease : lease ∈ world.store.leases) :
    world.store.lease? lease.leaseId = some lease := by
  cases hfind : world.store.lease? lease.leaseId with
  | none =>
      have habsent := List.find?_eq_none.mp hfind lease hlease
      simp at habsent
  | some other =>
      have hother := List.mem_of_find?_eq_some hfind
      have hotherId : other.leaseId = lease.leaseId := by simpa using List.find?_some hfind
      rw [eq_of_nodup_map hconsistent.leaseIds hother hlease hotherId]

/-- The removal of a lease file frees its alias and no other. -/
theorem Unlinked.holder {paths : BrokerPaths} (hconsistent : Consistent paths world)
    {lease : Lease} (hlease : lease ∈ world.store.leases) {site : UnlinkSite}
    (hunlinked : Unlinked lease.leaseId site world after) (name : AliasName) :
    holder after name = if name = lease.aliasName then none else holder world name := by
  have hmem : ∀ other, other ∈ after.store.leases ↔
      other ∈ world.store.leases ∧ other.leaseId ≠ lease.leaseId := by
    intro other
    rw [hunlinked.leases]
    exact mem_dropLease
  by_cases hname : name = lease.aliasName
  · subst hname
    rw [if_pos rfl, holder_eq_none]
    intro other hother halias
    obtain ⟨hdisk, hne⟩ := (hmem other).mp hother
    exact hne (eq_of_nodup_map hconsistent.leaseAliases hdisk hlease halias ▸ rfl)
  · rw [if_neg hname]
    cases hfind : Safety.holder world name with
    | none =>
        rw [holder_eq_none] at hfind ⊢
        exact fun other hother => hfind other ((hmem other).mp hother).1
    | some other =>
        obtain ⟨hdisk, halias⟩ := (holder_eq_some hconsistent).mp hfind
        have hne : other.leaseId ≠ lease.leaseId := by
          intro hid
          rw [eq_of_nodup_map hconsistent.leaseIds hdisk hlease hid] at halias
          exact hname halias.symm
        have hstill : other ∈ after.store.leases := (hmem other).mpr ⟨hdisk, hne⟩
        cases hafter : Safety.holder after name with
        | none => exact absurd halias (holder_eq_none.mp hafter other hstill)
        | some found =>
            have hfound := (hmem found).mp (List.mem_of_find?_eq_some hafter)
            have hfoundAlias : found.aliasName = name := by simpa using List.find?_some hafter
            rw [eq_of_nodup_map hconsistent.leaseAliases hfound.1 hdisk
              (hfoundAlias.trans halias.symm)]

/-! ## Marking the release -/

/-- The registry that records the end of the lease on the alias. -/
def markReleased (registry : Registry) (name : AliasName) (releasedAt : Timestamp) : Registry :=
  (registry.modify name (markAliasLeaseReleased releasedAt)).touch releasedAt

theorem markReleased_self (registry : Registry) (name : AliasName) (releasedAt : Timestamp) :
    (markReleased registry name releasedAt).aliases name =
      (registry.aliases name).map (markAliasLeaseReleased releasedAt) := by
  simp [markReleased]

theorem markReleased_of_ne (registry : Registry) {name other : AliasName} (hne : other ≠ name)
    (releasedAt : Timestamp) :
    (markReleased registry name releasedAt).aliases other = registry.aliases other := by
  simp [markReleased, Registry.modify_aliases_of_ne registry _ hne]

/-- An entry of the marked registry is the entry before or its marked form. -/
theorem markReleased_cases {registry : Registry} {name other : AliasName} {releasedAt : Timestamp}
    {entry : RegistryEntry} (hentry : (markReleased registry name releasedAt).aliases other = some entry) :
    other ≠ name ∧ registry.aliases other = some entry ∨
      other = name ∧ ∃ old, registry.aliases other = some old ∧
        entry = markAliasLeaseReleased releasedAt old := by
  by_cases hname : other = name
  · subst hname
    rw [markReleased_self] at hentry
    obtain ⟨old, hold, rfl⟩ := Option.map_eq_some_iff.mp hentry
    exact .inr ⟨rfl, old, hold, rfl⟩
  · rw [markReleased_of_ne registry hname] at hentry
    exact .inl ⟨hname, hentry⟩

/-- The ledger after the end of a lease. -/
theorem Unlinked.ledger_ended {paths : BrokerPaths} (hconsistent : Consistent paths world)
    {lease : Lease} (hlease : lease ∈ world.store.leases) {site : UnlinkSite}
    {releasedAt : Timestamp} (hsite : site.releasedAt = some releasedAt)
    (hunlinked : Unlinked lease.leaseId site world after) :
    after.ledger = { world.ledger.ended lease.aliasName releasedAt with
      unwritten := world.ledger.unwritten || site.isStale } := by
  rw [hunlinked.ledger]
  simp only [BrokerOp.effect, lease?_eq_some hconsistent hlease, hsite]

theorem Tallied.released {paths : BrokerPaths} {registry : Registry} {note : RegistryNote}
    {lease : Lease} {site : UnlinkSite} {releasedAt : Timestamp}
    (hconsistent : Consistent paths world) (htallied : Tallied world registry note)
    (hlease : lease ∈ world.store.leases) (hsite : site.releasedAt = some releasedAt)
    (herased : lease.aliasName ∉ note.erased) (hunlinked : Unlinked lease.leaseId site world after) :
    Tallied after (markReleased registry lease.aliasName releasedAt) note := by
  intro name entry hentry
  rw [hunlinked.ledger_ended hconsistent hlease hsite]
  obtain ⟨hne, hold⟩ | ⟨rfl, old, hold, rfl⟩ := markReleased_cases hentry
  · obtain ⟨hcount, hlast⟩ := htallied name entry hold
    simp [Ledger.ended, hne, hcount, hlast]
  · obtain ⟨hcount, -⟩ := htallied _ old hold
    simp [Ledger.ended, herased, markAliasLeaseReleased, incrementLeasesSinceErase] at hcount ⊢
    exact hcount

/-- The registry in memory keeps track when the file of a lease goes and its end
is marked. -/
theorem Tracks.released {registry : Registry} {note : RegistryNote} {lease : Lease}
    {site : UnlinkSite} {releasedAt : Timestamp} (hinvariant : Invariant context world)
    (htracks : Tracks context world registry note) (hlease : lease ∈ world.store.leases)
    (hsite : site.releasedAt = some releasedAt) (herased : lease.aliasName ∉ note.erased)
    (hunlinked : Unlinked lease.leaseId site world after) :
    Tracks context after (markReleased registry lease.aliasName releasedAt) note := by
  have hledger := hunlinked.ledger_ended hinvariant.toConsistent hlease hsite
  have hholder := hunlinked.holder hinvariant.toConsistent hlease
  have hconfigured : after.store.configuredAliases = world.store.configuredAliases := by
    simp [Store.configuredAliases, hunlinked.hostConfig, BrokerOp.effect, Store.dropLease]
  refine ⟨?_, ?_, ?_, ?_, ?_, ?_⟩
  · intro name hname hlatched
    rw [hconfigured] at hname
    rw [hledger] at hlatched
    obtain hnote | ⟨entry, hentry, hhealth⟩ := htracks.latched name hname hlatched
    · exact .inl hnote
    · by_cases hsame : name = lease.aliasName
      · subst hsame
        exact .inr ⟨markAliasLeaseReleased releasedAt entry,
          by rw [markReleased_self, hentry]; rfl, hhealth⟩
      · exact .inr ⟨entry, by rw [markReleased_of_ne registry hsame, hentry], hhealth⟩
  · intro name entry code hentry hcode
    rw [hledger]
    obtain ⟨-, hold⟩ | ⟨-, old, hold, rfl⟩ := markReleased_cases hentry
    · exact htracks.cause name entry code hold hcode
    · exact htracks.cause name old code hold hcode
  · intro name hname
    rw [hconfigured] at hname
    obtain ⟨entry, hentry⟩ := htracks.present name hname
    by_cases hsame : name = lease.aliasName
    · subst hsame
      exact ⟨markAliasLeaseReleased releasedAt entry,
        by rw [markReleased_self, hentry]; rfl⟩
    · exact ⟨entry, by rw [markReleased_of_ne registry hsame, hentry]⟩
  · intro name entry hentry
    rw [hholder]
    obtain ⟨hne, hold⟩ | ⟨rfl, old, hold, rfl⟩ := markReleased_cases hentry
    · rw [if_neg hne]
      exact htracks.active name entry hold
    · rw [if_pos rfl]
      rfl
  · intro other hother
    rw [hunlinked.leases] at hother
    exact htracks.gone other (mem_dropLease.mp hother).1
  · exact fun hrecords => (htracks.tallied hrecords).released hinvariant.toConsistent hlease hsite
      herased hunlinked

/-- A registry that no longer names the lease may be written while its file is
still there. -/
theorem Tracks.dropOk {registry : Registry} {note : RegistryNote} {lease : Lease}
    (htracks : Tracks context world registry note) (mutate : RegistryEntry → RegistryEntry)
    (hinvariant : Invariant context world) (hlease : lease ∈ world.store.leases)
    (hspared : ¬ context.spared lease.leaseId)
    (hactive : ∀ entry, (mutate entry).activeLeaseId = none)
    (hlatched : ∀ entry, entry.health.latched = true → (mutate entry).health.latched = true)
    (hcause : ∀ entry, (mutate entry).driftCauseCode = entry.driftCauseCode) :
    RegistryWriteOk context world (registry.modify lease.aliasName mutate) note := by
  have hok := htracks.writeOk hinvariant
  refine ⟨?_, ?_, ?_, ?_, ?_⟩
  · intro name hname hledger
    obtain hnote | ⟨entry, hentry, hhealth⟩ := hok.latched name hname hledger
    · exact .inl hnote
    · by_cases hsame : name = lease.aliasName
      · subst hsame
        exact .inr ⟨mutate entry, by simp [hentry], hlatched entry hhealth⟩
      · exact .inr ⟨entry, by rw [Registry.modify_aliases_of_ne registry mutate hsame, hentry],
          hhealth⟩
  · intro name entry code hentry hcode
    obtain ⟨-, hold⟩ | ⟨-, old, hold, rfl⟩ := modify_cases hentry
    · exact hok.cause name entry code hold hcode
    · rw [hcause] at hcode
      obtain ⟨hhealth, hnote⟩ := hok.cause name old code hold hcode
      exact ⟨hlatched old hhealth, hnote⟩
  · intro other hother hgranted
    have hne : other.aliasName ≠ lease.aliasName := by
      intro halias
      exact hspared (eq_of_nodup_map hinvariant.leaseAliases hgranted.onDisk hlease halias ▸ hother)
    obtain ⟨hnot, hadopted⟩ := hok.spared other hother hgranted
    unfold isLeftoverAcquireRollbackLease at hnot ⊢
    rw [Registry.modify_aliases_of_ne registry mutate hne]
    exact ⟨hnot, hadopted⟩
  · intro leaseId hrolledBack name entry hentry
    obtain ⟨-, hold⟩ | ⟨-, old, hold, rfl⟩ := modify_cases hentry
    · exact hok.inactive leaseId hrolledBack name entry hold
    · simp [hactive]
  · exact fun other hother hrolledBack => absurd hrolledBack (htracks.gone other hother)

/-- The end of a lease may be written while its file is still there. -/
theorem Tracks.markOk {registry : Registry} {note : RegistryNote} {lease : Lease}
    (hinvariant : Invariant context world) (htracks : Tracks context world registry note)
    (hlease : lease ∈ world.store.leases) (hspared : ¬ context.spared lease.leaseId)
    (releasedAt : Timestamp) :
    RegistryWriteOk context world (markReleased registry lease.aliasName releasedAt) note := by
  have hok := htracks.dropOk (markAliasLeaseReleased releasedAt) hinvariant hlease
    hspared (fun _ => rfl) (fun _ h => h) (fun _ => rfl)
  exact ⟨hok.latched, hok.cause, hok.spared, hok.inactive, hok.leftover⟩

/-! ## Write, then unlink -/

/-- Writing the registry and then removing a lease file leaves what the other
order leaves. -/
theorem written_unlinked {paths : BrokerPaths} {written : World} {registry : Registry}
    {note : RegistryNote} {lease : Lease} {site : UnlinkSite} {releasedAt : Timestamp}
    (hconsistent : Consistent paths world) (hlease : lease ∈ world.store.leases)
    (hsite : site.releasedAt = some releasedAt) (hstale : site.isStale = false)
    (herased : lease.aliasName ∉ note.erased)
    (hentry : registry.aliases lease.aliasName ≠ none)
    (hwritten : RegistryWritten registry note world written)
    (hunlinked : Unlinked lease.leaseId site written after) :
    RegistryWritten registry note ((BrokerOp.unlinkLease lease.leaseId site).effect world)
      after := by
  have hlater : world.outside.Later after.outside :=
    hwritten.later.trans hunlinked.later
  refine ⟨?_, ?_, ?_, ?_, ?_, hlater⟩
  · exact hunlinked.hostConfig.trans hwritten.hostConfig
  · exact hunlinked.registry.trans hwritten.registry
  · rw [hunlinked.leases]
    simp [BrokerOp.effect, Store.dropLease, hwritten.leases, FileWrite.commit]
  · exact hunlinked.pins.trans hwritten.pins
  · have hfind : written.store.lease? lease.leaseId = some lease := by
      have hsame : written.store.leases = world.store.leases := hwritten.leases
      rw [Store.lease?, hsame]
      exact lease?_eq_some hconsistent hlease
    have hcond : ¬ (lease.aliasName ∈ note.erased ∨ registry.aliases lease.aliasName = none) :=
      fun h => h.elim herased hentry
    rw [hunlinked.ledger]
    simp only [BrokerOp.effect, hfind, hsite, hwritten.ledger, hstale, Bool.or_false,
      lease?_eq_some hconsistent hlease, Ledger.ended, Ledger.registryWritten]
    congr 1
    · funext name
      by_cases hname : name = lease.aliasName
      · subst hname
        simp [hcond]
      · simp [Function.update_of_ne hname]
    · funext name
      by_cases hname : name = lease.aliasName
      · subst hname
        simp [hentry]
      · simp [Function.update_of_ne hname]

/-- A lease has ended: its end is marked and written, its file is gone. -/
def Ended (registry : Registry) (lease : Lease) (site : UnlinkSite) (releasedAt : Timestamp)
    (before after : World) : Prop :=
  ∃ written,
    RegistryWritten (markReleased registry lease.aliasName releasedAt) {} before written ∧
      Unlinked lease.leaseId site written after

theorem Ended.hostKept {registry : Registry} {lease : Lease} {site : UnlinkSite}
    {releasedAt : Timestamp} (hended : Ended registry lease site releasedAt world after) :
    HostKept world after := by
  obtain ⟨written, hwritten, hunlinked⟩ := hended
  exact HostKept.trans ⟨hwritten.hostConfig, hwritten.pins, hwritten.later⟩ hunlinked.hostKept

/-- The end of a lease frees its alias and no other. -/
theorem Ended.holder {paths : BrokerPaths} {registry : Registry} {lease : Lease} {site : UnlinkSite}
    {releasedAt : Timestamp} (hconsistent : Consistent paths world)
    (hlease : lease ∈ world.store.leases)
    (hended : Ended registry lease site releasedAt world after) (name : AliasName) :
    holder after name = if name = lease.aliasName then none else holder world name := by
  obtain ⟨written, hwritten, hunlinked⟩ := hended
  have hdropped : Unlinked lease.leaseId site world
      ((BrokerOp.unlinkLease lease.leaseId site).effect world) := .refl _
  have hleases : after.store.leases =
      ((BrokerOp.unlinkLease lease.leaseId site).effect world).store.leases := by
    rw [hunlinked.leases]
    simp [BrokerOp.effect, Store.dropLease, hwritten.leases, FileWrite.commit]
  rw [← hdropped.holder hconsistent hlease name]
  simp only [Safety.holder, hleases]

/-- After the end the marked registry tracks the files, which agree with it and
count exactly. -/
theorem Tracks.ended {registry : Registry} {lease : Lease} {site : UnlinkSite}
    {releasedAt : Timestamp} (hinvariant : Invariant context world)
    (htracks : Tracks context world registry {}) (hlease : lease ∈ world.store.leases)
    (hsite : site.releasedAt = some releasedAt) (hstale : site.isStale = false)
    (hended : Ended registry lease site releasedAt world after) :
    Tracks context after (markReleased registry lease.aliasName releasedAt) {} ∧
      Agree after ∧ Counted context after := by
  obtain ⟨written, hwritten, hunlinked⟩ := hended
  obtain ⟨entry, hentry⟩ := htracks.present _ (hinvariant.leaseConfigured lease hlease)
  have hlast := written_unlinked hinvariant.toConsistent hlease hsite hstale (by simp)
    (by rw [markReleased_self, hentry]; simp) hwritten hunlinked
  have hreleased : Tracks context ((BrokerOp.unlinkLease lease.leaseId site).effect world)
      (markReleased registry lease.aliasName releasedAt) {} :=
    htracks.released hinvariant hlease hsite (by simp) (.refl _)
  exact ⟨hreleased.written hlast, hreleased.agree hlast, hreleased.counted hlast⟩

/-! ## Dead owners -/

/-- The sample accepts the owner of every lease that lives, unless it is looked
at from before its registration. -/
def SampledOk (context : Context) (world : World) (timestamp : Timestamp)
    (sampled : Option (List ProcessRecord)) : Prop :=
  ∀ records, sampled = some records → ∀ lease ∈ world.store.leases,
    context.surroundings.ownerAlive lease.leaseId → lease.ownerSince ≤ timestamp →
    ownerPidValidated lease records timestamp = true

theorem SampledOk.none (context : Context) (world : World) (timestamp : Timestamp) :
    SampledOk context world timestamp none := by
  rintro records ⟨⟩

theorem SampledOk.leases {timestamp : Timestamp} {sampled : Option (List ProcessRecord)}
    (hleases : ∀ lease ∈ after.store.leases, lease ∈ world.store.leases)
    (hsampled : SampledOk context world timestamp sampled) :
    SampledOk context after timestamp sampled :=
  fun records hrecords lease hlease => hsampled records hrecords lease (hleases lease hlease)

theorem SampledOk.kept {timestamp : Timestamp} {sampled : Option (List ProcessRecord)}
    (hkept : Kept world after) (hsampled : SampledOk context world timestamp sampled) :
    SampledOk context after timestamp sampled :=
  hsampled.leases fun _ hlease => hkept.leases ▸ hlease

theorem safe_sampleOnce {timestamp : Timestamp} {sampled : Option (List ProcessRecord)}
    (htime : timestamp ≤ world.outside.clock) (hsampled : SampledOk context world timestamp sampled) :
    Safe context (sampleOnce sampled)
      (fun records after => Still world after ∧ SampledOk context after timestamp (some records))
      (fun _ after => Still world after ∧ Unpending context world) world := by
  unfold sampleOnce
  cases sampled with
  | some records => exact .pure ⟨.refl world, hsampled⟩
  | none =>
      refine (safe_read rfl (by simp)).weaken ?_ fun _ _ _ h => h
      rintro records read - ⟨hrecords, hstill⟩
      refine ⟨hstill, SampledOk.kept hstill.toKept ?_⟩
      rintro _ ⟨⟩ lease hlease halive hsince
      exact (hrecords lease hlease halive).ownerPidValidated htime hsince

/-- A living owner is found alive, unless it is looked at from before its
registration. -/
theorem safe_leaseOwnerIsLive {lease : Lease} {timestamp : Timestamp}
    {sampled : Option (List ProcessRecord)} (hlease : lease ∈ world.store.leases)
    (htime : timestamp ≤ world.outside.clock) (hsampled : SampledOk context world timestamp sampled) :
    Safe context (leaseOwnerIsLive lease sampled timestamp)
      (fun result after => Still world after ∧ SampledOk context after timestamp result.2 ∧
        (context.surroundings.ownerAlive lease.leaseId → lease.ownerSince ≤ timestamp →
          result.1 = true))
      (fun _ after => Still world after ∧ Unpending context world) world := by
  refine .assume fun hinvariant => ?_
  unfold leaseOwnerIsLive
  refine .seq (safe_read rfl (by simp)) (fun _ _ _ h => h) fun present read hread => ?_
  obtain ⟨hpresent, hstill⟩ := hread
  have hsampled := hsampled.kept hstill.toKept
  cases present with
  | false =>
      refine .pure ⟨hstill, hsampled, fun halive _ => ?_⟩
      exact absurd (hpresent lease hlease halive rfl) (by simp)
  | true =>
      have howned := hinvariant.owned lease hlease
      have hsome : lease.runtimeOwnerPid.isNone = false := by simpa using howned
      simp only [if_true, hsome, Bool.false_eq_true, if_false]
      by_cases hexamined :
          (lease.runtime.ownerRegisteredAt.isSome || lease.hasContainmentProcessMetadata) = true
      · rw [if_pos hexamined]
        refine .seq (safe_sampleOnce (htime.trans hstill.later.clock) hsampled)
          (fun _ _ _ h => ⟨hstill.trans h.1, .of_kept hstill.toKept h.2⟩)
          fun records second hsecond => ?_
        refine .pure ⟨hstill.trans hsecond.1, hsecond.2, fun halive hsince => ?_⟩
        exact hsecond.2 records rfl lease ((hstill.trans hsecond.1).leases ▸ hlease) halive hsince
      · rw [if_neg hexamined]
        exact .pure ⟨hstill, hsampled, fun _ _ => rfl⟩

/-! ## Containing -/

theorem observedLease_runtimeOwnerPid {lease : Lease} {observation : Observation}
    {timestamp : Timestamp} (howned : lease.runtimeOwnerPid.isSome) :
    (observedLease lease observation timestamp).runtimeOwnerPid = lease.runtimeOwnerPid := by
  obtain ⟨pid, hpid⟩ := Option.isSome_iff_exists.mp howned
  have hpositive : positive? (some pid) = some pid := by
    rw [← hpid]
    unfold Lease.runtimeOwnerPid positive? at hpid ⊢
    rw [hpid]
    obtain ⟨-, hpos⟩ := Option.filter_eq_some_iff.mp hpid
    simpa using hpos
  simp [Lease.runtimeOwnerPid, observedLease, buildLeaseRuntimeMetadata] at hpid ⊢
  rw [hpid, Option.getD_some, hpositive]

/-- The observation of a lease that is not spared may be written. -/
theorem observationOk {lease : Lease} (hinvariant : Invariant context world)
    (hlease : lease ∈ world.store.leases) (hspared : ¬ context.spared lease.leaseId)
    (hrolledBack : ¬ context.rolledBack lease.leaseId) (observation : Observation)
    (timestamp : Timestamp) :
    LeaseWriteOk context world (observedLease lease observation timestamp) where
  since := hinvariant.ownerSince lease hlease
  owned := by
    rw [observedLease_runtimeOwnerPid (hinvariant.owned lease hlease)]
    exact hinvariant.owned lease hlease
  artifact := hinvariant.leaseArtifacts lease hlease
  rolledBack := hrolledBack
  spared := fun h => absurd h hspared
  placed := .inl ⟨lease, hlease, rfl, rfl, rfl, rfl, rfl⟩

/-- An error came while no end of a lease was waiting to be written, and where
ends are recorded only lease files have changed. -/
structure Interrupted (context : Context) (before after : World) : Prop where
  host : HostKept before after
  recorded : RecordsEnds context.surroundings →
    KeptButLeases before after ∧ before.ledger.unwritten = false

theorem Interrupted.of_unpending (hkept : KeptButLeases world after)
    (hunpending : Unpending context world) : Interrupted context world after :=
  ⟨hkept.host, fun hrecords => ⟨hkept, hunpending hrecords⟩⟩

theorem Interrupted.of_fails (hkept : HostKept world after)
    (hfails : ¬ RecordsEnds context.surroundings) : Interrupted context world after :=
  ⟨hkept, fun hrecords => absurd hrecords hfails⟩

theorem Interrupted.of_kept {first : World} (hfirst : Kept first world)
    (hinterrupted : Interrupted context world after) : Interrupted context first after := by
  refine ⟨hfirst.host.trans hinterrupted.host, fun hrecords => ?_⟩
  obtain ⟨hkept, hunwritten⟩ := hinterrupted.recorded hrecords
  exact ⟨hfirst.butLeases.trans hkept, hfirst.ledger ▸ hunwritten⟩

/-- Removing the files after the registry was written. -/
theorem safe_removeLeaseAfterContainment {registry : Registry} {lease : Lease}
    {timestamp : Timestamp} (hlease : lease ∈ world.store.leases)
    (hspared : ¬ context.spared lease.leaseId) (hentry : registry.aliases lease.aliasName ≠ none)
    (hok : RegistryWriteOk context world (markReleased registry lease.aliasName timestamp) {}) :
    Safe context (removeLeaseAfterContainment context.paths registry lease timestamp)
      (fun released after => released = markReleased registry lease.aliasName timestamp ∧
        Ended registry lease (.contained timestamp) timestamp world after)
      (fun _ after => ¬ RecordsEnds context.surroundings ∧ HostKept world after) world := by
  refine .assume fun hinvariant => ?_
  have hallowed := hinvariant.leaseArtifacts lease hlease
  obtain ⟨entry, hentry⟩ := Option.ne_none_iff_exists'.mp hentry
  unfold removeLeaseAfterContainment
  refine .seq (E := fun _ _ => False) (safe_assertLeaseArtifactPathAllowed hallowed)
    (fun _ _ _ h => h.elim) fun _ checked hchecked => ?_
  subst hchecked
  simp only [hentry, Option.isSome_some, if_true]
  refine .seq (safe_writeRegistry hok) ?_ fun _ written hwritten => ?_
  · rintro error failed - ⟨hfails, hstill | hwritten⟩
    · exact ⟨hfails, hstill.toKept.host⟩
    · exact ⟨hfails, hwritten.hostConfig, hwritten.pins, hwritten.later⟩
  have hhost : HostKept checked written := ⟨hwritten.hostConfig, hwritten.pins, hwritten.later⟩
  refine .seq (safe_removeLeaseRecordFiles hallowed hspared) ?_ fun _ removed hremoved => ?_
  · rintro error failed - ⟨hfails, hkept | hunlinked⟩
    · exact ⟨hfails, hhost.trans hkept.host⟩
    · exact ⟨hfails, hhost.trans hunlinked.hostKept⟩
  exact .pure ⟨rfl, written, hwritten.toKept, hremoved⟩

/-- What containing a lease comes to. -/
def Containment (registry : Registry) (lease : Lease) (reason : ContainmentReason)
    (timestamp : Timestamp) (before : World) : ContainedRecord → World → Prop
  | .contained released, after =>
      released = markReleased registry lease.aliasName timestamp ∧
        Ended registry lease (.contained timestamp) timestamp before after
  | .notContained observed, after =>
      reason = .memoryCeiling ∧
        (∃ observation, observed = observedLease lease observation timestamp) ∧
        LeaseWritten observed before after
  | .incomplete observed, after =>
      (∃ observation, observed = observedLease lease observation timestamp) ∧
        LeaseWritten observed before after

/-- A registry write has the same effect at a moment that changed nothing. -/
theorem Kept.registryWritten {first : World} (hfirst : Kept first world) {registry : Registry}
    {note : RegistryNote} (hwritten : RegistryWritten registry note world after) :
    RegistryWritten registry note first after := by
  have heffect : Kept ((BrokerOp.rename (.registry registry note)).effect first)
      ((BrokerOp.rename (.registry registry note)).effect world) := by
    refine ⟨hfirst.hostConfig, rfl, hfirst.leases, hfirst.pins, ?_, hfirst.later⟩
    simp [BrokerOp.effect, hfirst.ledger, hfirst.configuredAliases]
  exact heffect.trans hwritten

theorem Kept.leaseWritten {first : World} (hfirst : Kept first world) {record : Lease}
    (hwritten : LeaseWritten record world after) : LeaseWritten record first after := by
  have heffect : Kept ((BrokerOp.rename (.lease record)).effect first)
      ((BrokerOp.rename (.lease record)).effect world) := by
    refine ⟨hfirst.hostConfig, hfirst.registry, ?_, hfirst.pins, hfirst.ledger, hfirst.later⟩
    simp [BrokerOp.effect, FileWrite.commit, Store.setLease, hfirst.leases]
  exact heffect.trans hwritten

theorem Ended.extend {last : World} {registry : Registry} {lease : Lease} {site : UnlinkSite}
    {releasedAt : Timestamp} {first : World} (hfirst : Kept first world)
    (hended : Ended registry lease site releasedAt world after) (hlast : Kept after last) :
    Ended registry lease site releasedAt first last := by
  obtain ⟨written, hwritten, hunlinked⟩ := hended
  exact ⟨written, hfirst.registryWritten hwritten, hunlinked.trans hlast⟩

/-- The observation of a lease, written at a moment that changed nothing. -/
theorem safe_writeContainmentObservation {first : World} {lease : Lease}
    {observation : Observation} {timestamp : Timestamp}
    (hfirst : Still first world) (hlease : lease ∈ world.store.leases)
    (hspared : ¬ context.spared lease.leaseId) (hrolledBack : ¬ context.rolledBack lease.leaseId) :
    Safe context (writeContainmentObservation context.paths lease observation timestamp)
      (fun _ after => LeaseWritten (observedLease lease observation timestamp) first after)
      (fun _ after => Interrupted context first after) world := by
  refine .assume fun hinvariant => ?_
  refine (safe_writeLeaseRecord
    (fun _ => observationOk hinvariant hlease hspared hrolledBack observation timestamp)
    fun _ => hinvariant.leaseArtifacts lease hlease).weaken ?_ ?_
  · exact fun _ _ _ hwritten => hfirst.toKept.leaseWritten hwritten
  · exact fun _ _ _ h => .of_kept hfirst.toKept (.of_unpending h.1 (h.2 rfl))

theorem safe_containLeaseRecord {registry : Registry} {lease : Lease} {reason : ContainmentReason}
    {timestamp : Timestamp} (hlease : lease ∈ world.store.leases)
    (hspared : ¬ context.spared lease.leaseId) (hrolledBack : ¬ context.rolledBack lease.leaseId)
    (hentry : registry.aliases lease.aliasName ≠ none)
    (hok : RegistryWriteOk context world (markReleased registry lease.aliasName timestamp) {}) :
    Safe context (containLeaseRecord context.paths registry lease reason (some timestamp))
      (Containment registry lease reason timestamp world)
      (fun _ after => Interrupted context world after) world := by
  unfold containLeaseRecord nowIso
  refine .seq (E := fun _ _ => False) (M := fun value after => value = timestamp ∧ after = world)
    (.pure ⟨rfl, rfl⟩) (fun _ _ _ h => h.elim) fun now start hstart => ?_
  obtain ⟨rfl, rfl⟩ := hstart
  refine .seq (M := fun value after =>
      Answered context.surroundings (.containLeaseProcesses lease reason) start value ∧
        Still start after)
    (.opStill rfl hspared (fun _ _ hanswered hstill => ⟨hanswered, hstill⟩)
      fun _ _ hmayFail _ hstill =>
        .of_unpending hstill.toKept.butLeases (.of_mayFail hmayFail (by simp)))
    (fun _ _ _ h => h) fun outcome contained hcontained => ?_
  obtain ⟨hanswered, hstill⟩ := hcontained
  have hdisk : lease ∈ contained.store.leases := hstill.leases ▸ hlease
  cases outcome with
  | notContained observation =>
      refine .seq (safe_writeContainmentObservation hstill hdisk hspared hrolledBack)
        (fun _ _ _ h => h) fun _ written hwritten => ?_
      refine .pure ⟨?_, ⟨observation, rfl⟩, hwritten⟩
      by_contra hreason
      exact hanswered hreason observation rfl
  | contained result =>
      dsimp only
      split
      · refine .seq (E := fun _ _ => False)
          (M := fun value after => value = now ∧ after = contained)
          (.pure ⟨rfl, rfl⟩) (fun _ _ _ h => h.elim) fun releasedAt restart hrestart => ?_
        obtain ⟨rfl, rfl⟩ := hrestart
        refine .seq (safe_removeLeaseAfterContainment hdisk hspared hentry
          (hstill.registryWriteOk hok)) (fun _ _ _ h => ?_) fun released removed hremoved => ?_
        · exact .of_kept hstill.toKept (.of_fails h.2 h.1)
        obtain ⟨hreleased, hended⟩ := hremoved
        refine .seq (safe_fsCall (.refl removed)) (fun _ _ _ h => ?_)
          fun _ evidenced hevidenced => ?_
        · exact .of_kept hstill.toKept
            (.of_fails (hended.hostKept.trans h.2.toKept.host) h.1)
        refine .seq (E := fun _ _ => False)
          (safe_appendEventRecord hevidenced (eventOk_of_lease rfl hspared))
          (fun _ _ _ h => h.elim) fun _ appended happended => ?_
        exact .pure ⟨hreleased, hended.extend hstill.toKept happended.toKept⟩
      · refine .seq (safe_fsCall hstill) (fun _ _ _ h => .of_fails h.2.toKept.host h.1)
          fun _ evidenced hevidenced => ?_
        refine .seq (safe_writeContainmentObservation hevidenced (hevidenced.leases ▸ hlease)
          hspared hrolledBack) (fun _ _ _ h => h) fun _ written hwritten => ?_
        exact .pure ⟨⟨_, rfl⟩, hwritten⟩

end SimulatorBroker.Safety
