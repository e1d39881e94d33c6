import SimulatorBroker.Safety.Ends

/-!
# The scan of the lease files

The loop of a state load over the lease files it found.  Until the load writes
the registry, the registry in memory mirrors the one on disk, save for the ends
it has marked; each turn of the loop keeps that.
-/

namespace SimulatorBroker.Safety

open SimulatorBroker.Effects
open SimulatorBroker.State
open SimulatorBroker.Broker

variable {context : Context} {first world after : World} {registry : Registry}
  {timestamp : Timestamp}

/-! ## Mirroring the registry on disk -/

/-- The entry is the one on disk, or a new one, with its lease perhaps marked as
released. -/
structure MirrorsEntry (disk : Option RegistryEntry) (entry : RegistryEntry) : Prop where
  health : entry.health = (disk.map (·.health)).getD .healthy
  driftReason : entry.driftReason = disk.bind (·.driftReason)
  cause : ∀ code, entry.driftCauseCode = some code → disk.bind (·.driftCauseCode) = some code
  active : entry.activeLeaseId = disk.bind (·.activeLeaseId) ∨ entry.activeLeaseId = none

theorem MirrorsEntry.refl (entry : RegistryEntry) : MirrorsEntry (some entry) entry :=
  ⟨rfl, rfl, fun _ h => h, .inl rfl⟩

theorem MirrorsEntry.released {disk : Option RegistryEntry} {entry : RegistryEntry}
    (hmirrors : MirrorsEntry disk entry) (releasedAt : Timestamp) :
    MirrorsEntry disk (markAliasLeaseReleased releasedAt entry) :=
  ⟨hmirrors.health, hmirrors.driftReason, hmirrors.cause, .inr rfl⟩

theorem mirrorsEntry_normalized (disk : Option RegistryEntry) (timestamp : Timestamp) :
    MirrorsEntry disk (normalizeRegistryEntry disk timestamp) ∧
      (normalizeRegistryEntry disk timestamp).activeLeaseId = disk.bind (·.activeLeaseId) := by
  cases disk with
  | none => exact ⟨⟨rfl, rfl, by simp [normalizeRegistryEntry], .inl rfl⟩, rfl⟩
  | some entry =>
      refine ⟨⟨rfl, rfl, fun code hcode => ?_, .inl rfl⟩, rfl⟩
      exact (Option.filter_eq_some_iff.mp hcode).1

structure Mirrors (world : World) (registry : Registry) : Prop where
  present : ∀ name ∈ world.store.configuredAliases, ∃ entry, registry.aliases name = some entry
  absent : ∀ name, name ∉ world.store.configuredAliases → registry.aliases name = none
  entry : ∀ name entry, registry.aliases name = some entry →
    MirrorsEntry (world.store.entry name) entry
  unmarked : ∀ lease ∈ world.store.leases, ∀ entry, registry.aliases lease.aliasName = some entry →
    entry.activeLeaseId = (world.store.entry lease.aliasName).bind (·.activeLeaseId)

/-- The registry in memory and the one on disk mark the same leftovers. -/
theorem Mirrors.leftover {paths : BrokerPaths} (hmirrors : Mirrors world registry)
    (hconsistent : Consistent paths world) {lease : Lease} (hlease : lease ∈ world.store.leases) :
    isLeftoverAcquireRollbackLease lease registry = true ↔ Leftover world lease := by
  obtain ⟨entry, hentry⟩ := hmirrors.present _ (hconsistent.leaseConfigured lease hlease)
  have hmirrored := hmirrors.entry _ entry hentry
  have hactive := hmirrors.unmarked lease hlease entry hentry
  cases hstore : world.store.registry with
  | none =>
      have hdisk : world.store.entry lease.aliasName = none := by simp [Store.entry, hstore]
      have hhealth : entry.health = .healthy := by simpa [hdisk] using hmirrored.health
      simp [Leftover, hstore, isLeftoverAcquireRollbackLease, hentry, hhealth]
  | some disk =>
      have hdisk : world.store.entry lease.aliasName = disk.aliases lease.aliasName := by
        simp [Store.entry, hstore]
      have hhealth := hmirrored.health
      have hreason := hmirrored.driftReason
      rw [hdisk] at hhealth hreason hactive
      cases hold : disk.aliases lease.aliasName with
      | none =>
          simp only [hold, Option.map_none, Option.getD_none] at hhealth
          simp [Leftover, hstore, isLeftoverAcquireRollbackLease, hentry, hold, hhealth]
      | some old =>
          simp only [hold, Option.map_some, Option.getD_some, Option.bind_some] at hhealth hreason hactive
          simp [Leftover, hstore, isLeftoverAcquireRollbackLease, hentry, hold, hhealth, hreason,
            hactive]

/-- A registry that mirrors the disk, marks aside, may be written. -/
theorem registryWriteOk_of_mirrored (hinvariant : Invariant context world)
    (hpresent : ∀ name ∈ world.store.configuredAliases,
      ∃ entry, registry.aliases name = some entry)
    (hentry : ∀ name entry, registry.aliases name = some entry →
      MirrorsEntry (world.store.entry name) entry)
    (hleftover : ∀ lease ∈ world.store.leases, context.spared lease.leaseId ∨
      context.rolledBack lease.leaseId →
      (isLeftoverAcquireRollbackLease lease registry = true ↔ Leftover world lease) ∧
      ∀ entry, registry.aliases lease.aliasName = some entry →
        entry.activeLeaseId = (world.store.entry lease.aliasName).bind (·.activeLeaseId)) :
    RegistryWriteOk context world registry {} where
  latched name hname hlatched := by
    obtain ⟨disk, hdisk, hhealth⟩ := hinvariant.latched name hlatched
    obtain ⟨entry, hmemory⟩ := hpresent name hname
    have hsame := (hentry name entry hmemory).health
    rw [hdisk] at hsame
    exact .inr ⟨entry, hmemory, by rw [hsame]; exact hhealth⟩
  cause name entry code hmemory hcode := by
    have hmirrored := hentry name entry hmemory
    obtain ⟨disk, hdisk, hold⟩ := Option.bind_eq_some_iff.mp (hmirrored.cause code hcode)
    obtain ⟨hcause, hhealth⟩ := hinvariant.cause name disk code hdisk hold
    have hsame := hmirrored.health
    rw [hdisk] at hsame
    exact ⟨by rw [hsame]; exact hhealth, .inr hcause⟩
  spared lease hspared hgranted := by
    obtain ⟨hsame, hactive⟩ := hleftover lease hgranted.onDisk (.inl hspared)
    refine ⟨by simpa using hsame.not.mpr hgranted.notLeftover, fun entry hmemory hrepairing => ?_⟩
    have hhealth := (hentry _ entry hmemory).health
    rw [hactive entry hmemory]
    cases hdisk : world.store.entry lease.aliasName with
    | none => simp [hdisk, hrepairing] at hhealth
    | some disk =>
        simp only [hdisk, Option.map_some, Option.getD_some] at hhealth
        exact hgranted.adopted disk hdisk (hhealth ▸ hrepairing)
  inactive leaseId hrolledBack name entry hmemory := by
    obtain ⟨-, hinactive⟩ := hinvariant.rolledBack leaseId hrolledBack
    obtain hsame | hnone := (hentry name entry hmemory).active
    · rw [hsame]
      intro hactive
      obtain ⟨disk, hdisk, hold⟩ := Option.bind_eq_some_iff.mp hactive
      exact hinactive.inactive name disk hdisk hold
    · rw [hnone]
      simp
  leftover lease hlease hrolledBack := by
    obtain ⟨-, hinactive⟩ := hinvariant.rolledBack _ hrolledBack
    exact (hleftover lease hlease (.inr hrolledBack)).1.mpr (hinactive.leftover lease hlease rfl)

theorem Mirrors.writeOk (hinvariant : Invariant context world)
    (hmirrors : Mirrors world registry) : RegistryWriteOk context world registry {} :=
  registryWriteOk_of_mirrored hinvariant hmirrors.present hmirrors.entry fun lease hlease _ =>
    ⟨hmirrors.leftover hinvariant.toConsistent hlease, hmirrors.unmarked lease hlease⟩

/-- The end of a lease that is neither spared nor rolled back may be marked and
written. -/
theorem Mirrors.markOk (hinvariant : Invariant context world) (hmirrors : Mirrors world registry)
    {lease : Lease} (hlease : lease ∈ world.store.leases) (hspared : ¬ context.spared lease.leaseId)
    (hrolledBack : ¬ context.rolledBack lease.leaseId) (releasedAt : Timestamp) :
    RegistryWriteOk context world (markReleased registry lease.aliasName releasedAt) {} := by
  refine registryWriteOk_of_mirrored hinvariant ?_ ?_ ?_
  · intro name hname
    obtain ⟨entry, hentry⟩ := hmirrors.present name hname
    by_cases hsame : name = lease.aliasName
    · subst hsame
      exact ⟨markAliasLeaseReleased releasedAt entry, by rw [markReleased_self, hentry]; rfl⟩
    · exact ⟨entry, by rw [markReleased_of_ne registry hsame, hentry]⟩
  · intro name entry hentry
    obtain ⟨-, hold⟩ | ⟨-, old, hold, rfl⟩ := markReleased_cases hentry
    · exact hmirrors.entry name entry hold
    · exact (hmirrors.entry name old hold).released releasedAt
  · intro other hother hprotected
    have hne : other.aliasName ≠ lease.aliasName := by
      intro halias
      have hsame := eq_of_nodup_map hinvariant.leaseAliases hother hlease halias
      rw [hsame] at hprotected
      exact hprotected.elim hspared hrolledBack
    have hleftover := hmirrors.leftover hinvariant.toConsistent hother
    unfold isLeftoverAcquireRollbackLease at hleftover ⊢
    rw [markReleased_of_ne registry hne]
    exact ⟨hleftover, hmirrors.unmarked other hother⟩

/-- Lease files may go or be rewritten for their alias. -/
theorem Mirrors.leases (hmirrors : Mirrors world registry)
    (hhost : after.store.hostConfig = world.store.hostConfig)
    (hregistry : after.store.registry = world.store.registry)
    (hleases : ∀ lease ∈ after.store.leases, ∃ old ∈ world.store.leases,
      old.aliasName = lease.aliasName) : Mirrors after registry := by
  have hconfigured : after.store.configuredAliases = world.store.configuredAliases := by
    simp [Store.configuredAliases, hhost]
  have hentry : after.store.entry = world.store.entry := by
    funext name
    simp [Store.entry, hregistry]
  refine ⟨?_, ?_, ?_, ?_⟩
  · rw [hconfigured]
    exact hmirrors.present
  · rw [hconfigured]
    exact hmirrors.absent
  · rw [hentry]
    exact hmirrors.entry
  · rw [hentry]
    intro lease hlease
    obtain ⟨old, hold, halias⟩ := hleases lease hlease
    exact halias ▸ hmirrors.unmarked old hold

theorem Mirrors.kept (hkept : Kept world after) (hmirrors : Mirrors world registry) :
    Mirrors after registry :=
  hmirrors.leases hkept.hostConfig hkept.registry fun lease hlease =>
    ⟨lease, hkept.leases ▸ hlease, rfl⟩

/-- The end of a lease is marked when its file has gone. -/
theorem Mirrors.released {paths : BrokerPaths} (hconsistent : Consistent paths world)
    (hmirrors : Mirrors world registry) {lease : Lease} {site : UnlinkSite}
    (hlease : lease ∈ world.store.leases) (hunlinked : Unlinked lease.leaseId site world after)
    (releasedAt : Timestamp) :
    Mirrors after (markReleased registry lease.aliasName releasedAt) := by
  have hmem : ∀ other ∈ after.store.leases,
      other ∈ world.store.leases ∧ other.leaseId ≠ lease.leaseId := by
    intro other hother
    rw [hunlinked.leases] at hother
    exact mem_dropLease.mp hother
  have hkept := hmirrors.leases hunlinked.hostConfig hunlinked.registry fun other hother =>
    ⟨other, (hmem other hother).1, rfl⟩
  refine ⟨?_, ?_, ?_, ?_⟩
  · intro name hname
    obtain ⟨entry, hentry⟩ := hkept.present name hname
    by_cases hsame : name = lease.aliasName
    · subst hsame
      exact ⟨markAliasLeaseReleased releasedAt entry, by rw [markReleased_self, hentry]; rfl⟩
    · exact ⟨entry, by rw [markReleased_of_ne registry hsame, hentry]⟩
  · intro name hname
    have hnone := hkept.absent name hname
    by_cases hsame : name = lease.aliasName
    · subst hsame
      rw [markReleased_self, hnone]
      rfl
    · rw [markReleased_of_ne registry hsame, hnone]
  · intro name entry hentry
    obtain ⟨-, hold⟩ | ⟨-, old, hold, rfl⟩ := markReleased_cases hentry
    · exact hkept.entry name entry hold
    · exact (hkept.entry name old hold).released releasedAt
  · intro other hother entry hentry
    have hne : other.aliasName ≠ lease.aliasName := by
      intro halias
      have hsame := eq_of_nodup_map hconsistent.leaseAliases (hmem other hother).1 hlease halias
      exact (hmem other hother).2 (hsame ▸ rfl)
    rw [markReleased_of_ne registry hne] at hentry
    exact hkept.unmarked other hother entry hentry

/-- A registry mirrors itself once it is written. -/
theorem Mirrors.written (hmirrors : Mirrors world registry)
    (hwritten : RegistryWritten registry {} world after) : Mirrors after registry where
  present := by
    rw [hwritten.configuredAliases]
    exact hmirrors.present
  absent := by
    rw [hwritten.configuredAliases]
    exact hmirrors.absent
  entry name entry hentry := by
    rw [hwritten.entry, hentry]
    exact .refl entry
  unmarked lease _ entry hentry := by
    rw [hwritten.entry, hentry]
    rfl

/-! ## The loop -/

/-- What the registry in memory and the kept leases are, `rest` being the lease
files to come. -/
structure Scanned (context : Context) (timestamp : Timestamp) (skipLeaseIds : List LeaseId)
    (first : World) (rest : List Lease) (scan : LoadScan) (world : World) : Prop where
  host : HostKept first world
  leases : (scan.activeLeases ++ rest).Perm world.store.leases
  mirrors : Mirrors world scan.registry
  gone : ∀ lease ∈ scan.activeLeases, ¬ context.rolledBack lease.leaseId
  tallied : RecordsEnds context.surroundings → Tallied world scan.registry {}
  sampled : SampledOk context world timestamp scan.sampled
  skipped : ∀ lease ∈ first.store.leases, lease.leaseId ∈ skipLeaseIds →
    lease ∈ world.store.leases

/-- What holds before a turn of the loop: between two turns the files are exact,
unless the end of a stale lease is still to be written. -/
structure Scanning (context : Context) (timestamp : Timestamp) (skipLeaseIds : List LeaseId)
    (first : World) (rest : List Lease) (scan : LoadScan) (world : World) : Prop
    extends Scanned context timestamp skipLeaseIds first rest scan world where
  settled : RecordsEnds context.surroundings → world.ledger.unwritten = false → Exact world

variable {skipLeaseIds : List LeaseId} {rest : List Lease} {scan : LoadScan} {lease : Lease}

theorem Scanning.onDisk
    (hscanning : Scanning context timestamp skipLeaseIds first (lease :: rest) scan world) :
    lease ∈ world.store.leases :=
  hscanning.leases.mem_iff.mp (by simp)

theorem Scanning.kept (hkept : Kept world after)
    (hscanning : Scanning context timestamp skipLeaseIds first rest scan world) :
    Scanning context timestamp skipLeaseIds first rest scan after where
  host := hscanning.host.trans hkept.host
  leases := hkept.leases ▸ hscanning.leases
  mirrors := hscanning.mirrors.kept hkept
  gone := hscanning.gone
  tallied hrecords := by
    unfold Tallied
    rw [hkept.ledger]
    exact hscanning.tallied hrecords
  settled hrecords hunwritten :=
    hkept.exact (hscanning.settled hrecords (hkept.ledger ▸ hunwritten))
  sampled := hscanning.sampled.kept hkept
  skipped := hkept.leases ▸ hscanning.skipped

theorem Scanning.sampledBy {sampled : Option (List ProcessRecord)}
    (hsampled : SampledOk context world timestamp sampled)
    (hscanning : Scanning context timestamp skipLeaseIds first rest scan world) :
    Scanning context timestamp skipLeaseIds first rest { scan with sampled } world :=
  { hscanning with sampled := hsampled }

/-- The lease is counted among the active ones. -/
theorem Scanning.keep (hrolledBack : ¬ context.rolledBack lease.leaseId)
    (hscanning : Scanning context timestamp skipLeaseIds first (lease :: rest) scan world) :
    Scanning context timestamp skipLeaseIds first rest (scan.keep lease) world :=
  { hscanning with
    leases := by simpa [LoadScan.keep] using hscanning.leases
    gone := by
      intro other hother
      obtain hother | hother := List.mem_append.mp hother
      · exact hscanning.gone other hother
      · rw [List.mem_singleton.mp hother]
        exact hrolledBack }

/-- The files that stay when one lease file goes. -/
theorem perm_unlinked {paths : BrokerPaths} (hconsistent : Consistent paths world)
    {active : List Lease} {site : UnlinkSite}
    (hperm : (active ++ lease :: rest).Perm world.store.leases)
    (hunlinked : Unlinked lease.leaseId site world after) :
    (active ++ rest).Perm after.store.leases := by
  have hmiddle : (lease :: (active ++ rest)).Perm world.store.leases :=
    List.perm_middle.symm.trans hperm
  have hnodup : ((lease :: (active ++ rest)).map (·.leaseId)).Nodup :=
    (hmiddle.map _).nodup_iff.mpr hconsistent.leaseIds
  rw [List.map_cons, List.nodup_cons] at hnodup
  have hothers : ∀ other ∈ active ++ rest, other.leaseId ≠ lease.leaseId := by
    intro other hother hid
    exact hnodup.1 (List.mem_map.mpr ⟨other, hother, hid⟩)
  have hfiltered := hmiddle.filter fun other => decide (other.leaseId ≠ lease.leaseId)
  rw [hunlinked.leases]
  rw [List.filter_cons_of_neg (by simp), List.filter_eq_self.mpr (by simpa using hothers)]
    at hfiltered
  exact hfiltered

/-- The lease file of a leftover has gone. -/
theorem Scanning.leftover
    (hscanning : Scanning context timestamp skipLeaseIds first (lease :: rest) scan world)
    (hinvariant : Invariant context world)
    (hskip : lease.leaseId ∉ skipLeaseIds)
    (hunlinked : Unlinked lease.leaseId .leftover world after) :
    Scanning context timestamp skipLeaseIds first rest scan after := by
  have hbut := hunlinked.butLeases rfl
  have hmem : ∀ other, other ∈ after.store.leases ↔
      other ∈ world.store.leases ∧ other.leaseId ≠ lease.leaseId := by
    intro other
    rw [hunlinked.leases]
    exact mem_dropLease
  refine ⟨⟨hscanning.host.trans hbut.host, ?_, ?_, hscanning.gone, ?_, ?_, ?_⟩, ?_⟩
  · exact perm_unlinked hinvariant.toConsistent hscanning.leases hunlinked
  · exact hscanning.mirrors.leases hbut.hostConfig hbut.registry fun other hother =>
      ⟨other, ((hmem other).mp hother).1, rfl⟩
  · intro hrecords
    unfold Tallied
    rw [hbut.ledger]
    exact hscanning.tallied hrecords
  · exact hscanning.sampled.leases fun other hother => ((hmem other).mp hother).1
  · intro other hother hid
    exact (hmem other).mpr ⟨hscanning.skipped other hother hid, fun h => hskip (h ▸ hid)⟩
  · intro hrecords hunwritten
    exact hbut.exact (hscanning.settled hrecords (hbut.ledger ▸ hunwritten))

/-- The lease has ended and its end is marked, the registry not yet written. -/
theorem Scanned.released
    (hscanned : Scanned context timestamp skipLeaseIds first (lease :: rest) scan world)
    (hinvariant : Invariant context world) {site : UnlinkSite}
    (hsite : site.releasedAt = some timestamp) (hskip : lease.leaseId ∉ skipLeaseIds)
    (hdisk : lease ∈ world.store.leases) (hunlinked : Unlinked lease.leaseId site world after) :
    Scanned context timestamp skipLeaseIds first rest
      { scan with registry := markReleased scan.registry lease.aliasName timestamp } after := by
  have hmem : ∀ other, other ∈ after.store.leases ↔
      other ∈ world.store.leases ∧ other.leaseId ≠ lease.leaseId := by
    intro other
    rw [hunlinked.leases]
    exact mem_dropLease
  refine ⟨hscanned.host.trans hunlinked.hostKept, ?_, ?_, hscanned.gone, ?_, ?_, ?_⟩
  · exact perm_unlinked hinvariant.toConsistent hscanned.leases hunlinked
  · exact hscanned.mirrors.released hinvariant.toConsistent hdisk hunlinked timestamp
  · exact fun hrecords => (hscanned.tallied hrecords).released hinvariant.toConsistent hdisk
      hsite (by simp) hunlinked
  · exact hscanned.sampled.leases fun other hother => ((hmem other).mp hother).1
  · intro other hother hid
    exact (hmem other).mpr ⟨hscanned.skipped other hother hid, fun h => hskip (h ▸ hid)⟩

/-- The registry in memory has been written. -/
theorem Scanned.written (hwritten : RegistryWritten scan.registry {} world after)
    (hscanned : Scanned context timestamp skipLeaseIds first rest scan world) :
    Scanning context timestamp skipLeaseIds first rest scan after where
  host := hscanned.host.trans ⟨hwritten.hostConfig, hwritten.pins, hwritten.later⟩
  leases := hwritten.leases ▸ hscanned.leases
  mirrors := hscanned.mirrors.written hwritten
  gone := hscanned.gone
  tallied hrecords := (hscanned.tallied hrecords).written hwritten
  settled hrecords _ := (hscanned.tallied hrecords).exact hwritten
  sampled := hscanned.sampled.leases fun _ hother => hwritten.leases ▸ hother
  skipped other hother hid := hwritten.leases ▸ hscanned.skipped other hother hid

/-- The lease of a dead owner has ended; its end waits to be written. -/
theorem Scanning.stale
    (hscanning : Scanning context timestamp skipLeaseIds first (lease :: rest) scan world)
    (hinvariant : Invariant context world)
    (hskip : lease.leaseId ∉ skipLeaseIds)
    (hunlinked : Unlinked lease.leaseId (.stale timestamp) world after) :
    Scanning context timestamp skipLeaseIds first rest
      { scan with
        registry := scan.registry.modify lease.aliasName (markAliasLeaseReleased timestamp) }
      after := by
  have hdisk := hscanning.onDisk
  have hscanned := hscanning.toScanned.released hinvariant rfl hskip hdisk hunlinked
  refine ⟨⟨hscanned.host, hscanned.leases, ?_, hscanned.gone, hscanned.tallied, hscanned.sampled,
    hscanned.skipped⟩, fun _ hunwritten => ?_⟩
  · exact ⟨hscanned.mirrors.present, hscanned.mirrors.absent, hscanned.mirrors.entry,
      hscanned.mirrors.unmarked⟩
  · rw [hunlinked.ledger_ended hinvariant.toConsistent hdisk rfl] at hunwritten
    simp [UnlinkSite.isStale] at hunwritten

/-- The lease has been contained; its end is written. -/
theorem Scanning.contained
    (hscanning : Scanning context timestamp skipLeaseIds first (lease :: rest) scan world)
    (hinvariant : Invariant context world)
    (hskip : lease.leaseId ∉ skipLeaseIds)
    (hended : Ended scan.registry lease (.contained timestamp) timestamp world after) :
    Scanning context timestamp skipLeaseIds first rest
      { scan with registry := markReleased scan.registry lease.aliasName timestamp } after := by
  have hdisk := hscanning.onDisk
  obtain ⟨written, hwritten, hunlinked⟩ := hended
  obtain ⟨entry, hentry⟩ :=
    hscanning.mirrors.present _ (hinvariant.leaseConfigured lease hdisk)
  have hlast := written_unlinked hinvariant.toConsistent hdisk rfl rfl (by simp)
    (by rw [markReleased_self, hentry]; simp) hwritten hunlinked
  have hremoved : Unlinked lease.leaseId (.contained timestamp) world
      ((BrokerOp.unlinkLease lease.leaseId (.contained timestamp)).effect world) := .refl _
  exact (hscanning.toScanned.released hinvariant rfl hskip hdisk hremoved).written hlast

/-- The lease could not be contained and is kept with its observation. -/
theorem Scanning.incomplete
    (hscanning : Scanning context timestamp skipLeaseIds first (lease :: rest) scan world)
    (hinvariant : Invariant context world)
    (hrolledBack : ¬ context.rolledBack lease.leaseId)
    (hdead : ¬ (context.surroundings.ownerAlive lease.leaseId ∧ lease.ownerSince ≤ timestamp))
    (hskip : lease.leaseId ∉ skipLeaseIds)
    {observation : Observation}
    (hwritten : LeaseWritten (observedLease lease observation timestamp) world after) :
    Scanning context timestamp skipLeaseIds first rest
      (scan.keep (observedLease lease observation timestamp)) after := by
  have hdisk := hscanning.onDisk
  have hbut := hwritten.butLeases
  have hmem : ∀ other, other ∈ after.store.leases ↔ other = observedLease lease observation timestamp ∨
      other ∈ world.store.leases ∧ other.leaseId ≠ lease.leaseId := by
    intro other
    rw [hwritten.leases]
    exact mem_setLease
  have hothers : (scan.activeLeases ++ rest).Perm
      (world.store.dropLease lease.leaseId).leases :=
    perm_unlinked hinvariant.toConsistent hscanning.leases
      (Kept.refl ((BrokerOp.unlinkLease lease.leaseId .leftover).effect world))
  refine ⟨⟨hscanning.host.trans hbut.host, ?_, ?_, ?_, ?_, ?_, ?_⟩, ?_⟩
  · rw [hwritten.leases]
    have hcons := hothers.cons (observedLease lease observation timestamp)
    simp only [LoadScan.keep, List.append_assoc, List.singleton_append]
    exact List.perm_middle.trans hcons
  · refine hscanning.mirrors.leases hbut.hostConfig hbut.registry fun other hother => ?_
    obtain rfl | ⟨hother, -⟩ := (hmem other).mp hother
    · exact ⟨lease, hdisk, rfl⟩
    · exact ⟨other, hother, rfl⟩
  · intro other hother
    obtain hother | hother := List.mem_append.mp hother
    · exact hscanning.gone other hother
    · rw [List.mem_singleton.mp hother]
      exact hrolledBack
  · intro hrecords
    unfold Tallied
    rw [hbut.ledger]
    exact hscanning.tallied hrecords
  · intro records hrecords other hother halive hsince
    obtain rfl | ⟨hother, -⟩ := (hmem other).mp hother
    · exact absurd ⟨halive, hsince⟩ hdead
    · exact hscanning.sampled records hrecords other hother halive hsince
  · intro other hother hid
    exact (hmem other).mpr (.inr ⟨hscanning.skipped other hother hid, fun h => hskip (h ▸ hid)⟩)
  · intro hrecords hunwritten
    exact hbut.exact (hscanning.settled hrecords (hbut.ledger ▸ hunwritten))

/-! ## One turn -/

/-- What a load that threw leaves: host config and pins as they were, and exact
counts. -/
def LoadFailed (context : Context) (first : World) (_ : BrokerError) (after : World) : Prop :=
  HostKept first after ∧ Counted context after

theorem Scanning.interrupted
    (hscanning : Scanning context timestamp skipLeaseIds first rest scan world)
    (hinterrupted : Interrupted context world after) (error : BrokerError) :
    LoadFailed context first error after := by
  refine ⟨hscanning.host.trans hinterrupted.host, fun hrecords => ?_⟩
  obtain ⟨hkept, hunwritten⟩ := hinterrupted.recorded hrecords
  exact hkept.exact (hscanning.settled hrecords hunwritten)

/-- The options of a load are in order: its time is not before what it may
observe and not after now, and it skips no lease that was rolled back. -/
structure LoadOk (context : Context) (timestamp : Timestamp) (skipLeaseIds : List LeaseId)
    (world : World) : Prop where
  since : context.since ≤ timestamp
  past : timestamp ≤ world.outside.clock
  skips : ∀ leaseId ∈ skipLeaseIds, ¬ context.rolledBack leaseId

theorem safe_scanLease (hok : LoadOk context timestamp skipLeaseIds first)
    (hscanning : Scanning context timestamp skipLeaseIds first (lease :: rest) scan world) :
    Safe context (scanLease context.paths skipLeaseIds timestamp scan lease)
      (Scanning context timestamp skipLeaseIds first rest)
      (LoadFailed context first) world := by
  refine .assume fun hinvariant => ?_
  have hdisk := hscanning.onDisk
  have hallowed := hinvariant.leaseArtifacts lease hdisk
  have hleftover := hscanning.mirrors.leftover hinvariant.toConsistent hdisk
  unfold scanLease
  by_cases hskip : lease.leaseId ∈ skipLeaseIds
  · rw [if_pos hskip]
    exact .pure (hscanning.keep (hok.skips lease.leaseId hskip))
  rw [if_neg hskip]
  have hgranted : context.spared lease.leaseId → Spared context world lease := by
    intro hspared
    obtain ⟨alive, haliveId, halive⟩ := hinvariant.spared lease.leaseId hspared
    rwa [← eq_of_nodup_map hinvariant.leaseIds halive.onDisk hdisk haliveId]
  by_cases hmarked : isLeftoverAcquireRollbackLease lease scan.registry = true
  · rw [if_pos hmarked]
    have hspared : ¬ context.spared lease.leaseId := fun hspared =>
      (hgranted hspared).notLeftover (hleftover.mp hmarked)
    unfold reclaimLeftoverAcquireRollbackLease
    refine .seq (E := LoadFailed context first) (M := fun _ after =>
        Scanning context timestamp skipLeaseIds first rest scan after) ?_ (fun _ _ _ h => h)
      fun _ reclaimed hreclaimed => .pure hreclaimed
    refine .seq (safe_removeLeaseRecordFiles hallowed hspared) ?_ fun _ removed hremoved => ?_
    · rintro error failed - ⟨hfails, hkept | hunlinked⟩
      · exact ⟨hscanning.host.trans hkept.host, fun hrecords => absurd hrecords hfails⟩
      · exact ⟨hscanning.host.trans hunlinked.hostKept, fun hrecords => absurd hrecords hfails⟩
    refine .seq (E := fun _ _ => False)
      (safe_appendEventRecord (.refl removed) (eventOk_of_lease rfl hspared))
      (fun _ _ _ h => h.elim) fun _ appended happended => ?_
    exact .pure ((hscanning.leftover hinvariant hskip hremoved).kept happended.toKept)
  rw [if_neg hmarked]
  have hrolledBack : ¬ context.rolledBack lease.leaseId := fun hrolledBack =>
    hmarked (hleftover.mpr ((hinvariant.rolledBack _ hrolledBack).2.leftover lease hdisk rfl))
  refine .seq (safe_leaseOwnerIsLive hdisk (hok.past.trans hscanning.host.later.clock)
    hscanning.sampled) ?_ fun result examined hexamined => ?_
  · exact fun error failed _ h =>
      hscanning.interrupted (.of_unpending h.1.toKept.butLeases h.2) error
  obtain ⟨hstill, hsampled, hlive⟩ := hexamined
  obtain ⟨live, sampled⟩ := result
  replace hscanning := (hscanning.kept hstill.toKept).sampledBy hsampled
  replace hdisk := hscanning.onDisk
  refine .assume fun hinvariant => ?_
  dsimp only
  by_cases hlived : live = true
  · rw [if_pos hlived]
    exact .pure (hscanning.keep hrolledBack)
  rw [if_neg hlived]
  have hdead : ¬ (context.surroundings.ownerAlive lease.leaseId ∧ lease.ownerSince ≤ timestamp) :=
    fun h => hlived (hlive h.1 h.2)
  have hspared : ¬ context.spared lease.leaseId := by
    intro hspared
    have hgranted := hgranted hspared
    exact hdead ⟨hgranted.alive, hgranted.since.trans hok.since⟩
  by_cases hmetadata : lease.hasContainmentProcessMetadata = true
  · rw [if_pos hmetadata]
    obtain ⟨entry, hentry⟩ :=
      hscanning.mirrors.present _ (hinvariant.leaseConfigured lease hdisk)
    have hentry : scan.registry.aliases lease.aliasName = some entry := hentry
    refine .seq (safe_containLeaseRecord hdisk hspared hrolledBack (by simp [hentry])
      (hscanning.mirrors.markOk hinvariant hdisk hspared hrolledBack timestamp)) ?_
      fun outcome contained hcontained => ?_
    · exact fun error failed _ h => hscanning.interrupted h error
    cases outcome with
    | contained released =>
        obtain ⟨rfl, hended⟩ := hcontained
        exact .pure (hscanning.contained hinvariant hskip hended)
    | notContained observed => exact absurd hcontained.1 (by simp)
    | incomplete observed =>
        obtain ⟨⟨observation, rfl⟩, hwritten⟩ := hcontained
        exact .pure (hscanning.incomplete hinvariant hrolledBack hdead hskip hwritten)
  rw [if_neg hmetadata]
  unfold reclaimStaleLease
  refine .seq (E := LoadFailed context first) (M := fun registry after =>
      Scanning context timestamp skipLeaseIds first rest { scan with sampled, registry } after) ?_
    (fun _ _ _ h => h) fun registry reclaimed hreclaimed => .pure hreclaimed
  refine .seq (safe_removeLeaseRecordFiles hallowed hspared) ?_ fun _ removed hremoved => ?_
  · rintro error failed - ⟨hfails, hkept | hunlinked⟩
    · exact ⟨hscanning.host.trans hkept.host, fun hrecords => absurd hrecords hfails⟩
    · exact ⟨hscanning.host.trans hunlinked.hostKept, fun hrecords => absurd hrecords hfails⟩
  refine .seq (E := fun _ _ => False)
    (safe_appendEventRecord (.refl removed) (eventOk_of_lease rfl hspared))
    (fun _ _ _ h => h.elim) fun _ appended happended => ?_
  exact .pure ((hscanning.stale hinvariant hskip hremoved).kept happended.toKept)

end SimulatorBroker.Safety
