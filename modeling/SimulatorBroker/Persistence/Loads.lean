import SimulatorBroker.Persistence.Keeps

/-!
# The registry of a load

A load normalizes what it reads and changes it only in ways the reader accepts; every command
begins with one.
-/

namespace SimulatorBroker.Persistence

open SimulatorBroker.Effects
open SimulatorBroker.State
open SimulatorBroker.Broker

variable {surroundings : Surroundings} {names : DiskNames} {α : Type} {paths : BrokerPaths}
  {lease : Lease} {timestamp : Timestamp} {registry : Registry}

/-! ## Registries in memory -/

/-- The cause of an entry is a known one, if it has one. -/
def KnownCause (entry : RegistryEntry) : Prop :=
  ∀ code ∈ entry.driftCauseCode, code ∈ knownDriftCauseCodes

theorem knownCause_knownDriftCauseCode {code : Option ReasonCode} :
    ∀ known ∈ knownDriftCauseCode code, known ∈ knownDriftCauseCodes := by
  intro known hknown
  have hmem := (Option.filter_eq_some_iff.mp hknown).2
  simpa using hmem

theorem isSome_modify {mutate : RegistryEntry → RegistryEntry} {name other : AliasName} :
    ((registry.modify name mutate).aliases other).isSome = (registry.aliases other).isSome := by
  by_cases hname : other = name
  · subst hname
    rw [Registry.modify_aliases_self, Option.isSome_map]
  · rw [Registry.modify_aliases_of_ne registry mutate hname]

theorem Labelled.modify (hlabelled : Labelled registry) {name : AliasName}
    {mutate : RegistryEntry → RegistryEntry}
    (hcause : ∀ entry, KnownCause entry → KnownCause (mutate entry)) :
    Labelled (registry.modify name mutate) where
  codes := by
    intro other entry hentry
    by_cases hname : other = name
    · subst hname
      rw [Registry.modify_aliases_self] at hentry
      obtain ⟨before, hbefore, rfl⟩ := Option.map_eq_some_iff.mp hentry
      exact hcause before (hlabelled.codes _ _ hbefore)
    · rw [Registry.modify_aliases_of_ne registry mutate hname] at hentry
      exact hlabelled.codes _ _ hentry
  cleanup := hlabelled.cleanup
  reclaim := hlabelled.reclaim

theorem Labelled.touch (hlabelled : Labelled registry) : Labelled (registry.touch timestamp) :=
  ⟨hlabelled.codes, hlabelled.cleanup, hlabelled.reclaim⟩

namespace Accepts

theorem modify (haccepts : Accepts names registry) {name : AliasName}
    {mutate : RegistryEntry → RegistryEntry}
    (hcause : ∀ entry, KnownCause entry → KnownCause (mutate entry)) :
    Accepts names (registry.modify name mutate) where
  labelled := haccepts.labelled.modify hcause
  covers aliasNames hnames other hother := by
    rw [isSome_modify]
    exact haccepts.covers aliasNames hnames other hother

theorem touch (haccepts : Accepts names registry) : Accepts names (registry.touch timestamp) :=
  ⟨haccepts.labelled.touch, haccepts.covers⟩

/-- The usual step of a command: the entry of one alias changes, its cause stays. -/
theorem update (haccepts : Accepts names registry) (name : AliasName) (timestamp : Timestamp)
    (mutate : RegistryEntry → RegistryEntry)
    (hcause : ∀ entry, KnownCause entry → KnownCause (mutate entry)) :
    Accepts names ((registry.modify name mutate).touch timestamp) :=
  (haccepts.modify hcause).touch

end Accepts

/-! ## Programs that write neither file -/

theorem silent_writeJsonAtomic {file : FileWrite} (hfile : silent (.rename file) = true) :
    Silent (writeJsonAtomic file) := by
  unfold writeJsonAtomic
  exact .bind (.request rfl) fun _ => .bind (.request rfl) fun _ => .request hfile

theorem silent_writeJsonAtomicRestricted {file : FileWrite}
    (hfile : silent (.rename file) = true) : Silent (writeJsonAtomicRestricted file) := by
  unfold writeJsonAtomicRestricted
  exact .bind (.request rfl) fun _ => .bind (.request rfl) fun _ => .bind (.request rfl)
    fun _ => .bind (.request hfile) fun _ => .request rfl

theorem silent_ignoringErrors {body : Broker Unit} (hbody : Silent body) :
    Silent (ignoringErrors body) :=
  .tryCatch hbody fun _ => .pure _

theorem silent_appendEventRecord {event : Event} : Silent (appendEventRecord event) := by
  unfold appendEventRecord recordAuditAppendFailure
  exact .tryCatch (.bind (.request rfl) fun _ => .pure _) fun _ =>
    .bind (silent_ignoringErrors (.request rfl)) fun _ => .pure _

theorem silent_assertLeaseArtifactPathAllowed {path : Option ArtifactPath} :
    Silent (assertLeaseArtifactPathAllowed paths path) := by
  unfold assertLeaseArtifactPathAllowed
  cases path with
  | none => exact .pure _
  | some path =>
      simp only
      split
      · exact .pure _
      · exact .throw _

theorem silent_removeArtifact : Silent (removeArtifact lease) := by
  unfold removeArtifact
  cases lease.artifactPath with
  | none => exact .pure _
  | some path => exact .request rfl

theorem silent_removeLeaseRecordFiles {site : UnlinkSite} :
    Silent (removeLeaseRecordFiles paths lease site) := by
  unfold removeLeaseRecordFiles
  exact .bind silent_assertLeaseArtifactPathAllowed fun _ => .bind (.request rfl) fun _ =>
    silent_removeArtifact

theorem silent_snapshotLeaseRecordFiles : Silent (snapshotLeaseRecordFiles lease) := by
  unfold snapshotLeaseRecordFiles readLeaseArtifact
  refine .bind ?_ fun _ => .bind (.request rfl) fun _ => .pure _
  cases lease.artifactPath with
  | none => exact .pure _
  | some path => exact .request rfl

theorem silent_restoreLeaseRecordFiles {snapshot : LeaseFilesSnapshot} :
    Silent (restoreLeaseRecordFiles snapshot) := by
  have hartifact : Silent (restoreArtifactFile snapshot) := by
    unfold restoreArtifactFile
    cases snapshot.artifactPath with
    | none => exact .pure _
    | some path =>
        cases snapshot.artifact with
        | none => exact .request rfl
        | some content => exact silent_writeJsonAtomic rfl
  unfold restoreLeaseRecordFiles
  cases snapshot.canonical with
  | none => exact .bind (.request rfl) fun _ => hartifact
  | some record => exact .bind (silent_writeJsonAtomicRestricted rfl) fun _ => hartifact

theorem silent_writeLeaseArtifact {replaceArtifact : Bool} :
    Silent (writeLeaseArtifact lease replaceArtifact) := by
  unfold writeLeaseArtifact
  cases lease.artifactPath with
  | none => exact .pure _
  | some path =>
      simp only
      split
      · exact silent_writeJsonAtomic rfl
      · refine .tryCatch ?_ fun error => ?_
        · unfold writeJsonNoReplace
          exact .bind (.request rfl) fun _ =>
            .ensuring (.bind (.request rfl) fun _ => .request rfl) (.request rfl)
        · split
          · exact .throw _
          · exact .throw _

theorem silent_writeLeaseRecord {replaceArtifact : Bool} :
    Silent (writeLeaseRecord paths lease replaceArtifact) := by
  unfold writeLeaseRecord
  refine .bind silent_assertLeaseArtifactPathAllowed fun _ => .bind silent_snapshotLeaseRecordFiles
    fun snapshot => .bind (silent_writeJsonAtomicRestricted rfl) fun _ =>
      .tryCatch silent_writeLeaseArtifact fun error => .bind ?_ fun _ => .throw _
  exact silent_ignoringErrors silent_restoreLeaseRecordFiles

theorem silent_nowIso {now : Option Timestamp} : Silent (nowIso now) := by
  unfold nowIso
  cases now with
  | none => exact .request rfl
  | some fixed => exact .pure _

theorem silent_leaseOwnerIsLive {sampled : Option (List ProcessRecord)} :
    Silent (leaseOwnerIsLive lease sampled timestamp) := by
  unfold leaseOwnerIsLive
  refine .bind (.request rfl) fun exists? => ?_
  split
  · split
    · exact .pure _
    · split
      · refine .bind ?_ fun _ => .pure _
        unfold sampleOnce
        cases sampled with
        | none => exact .request rfl
        | some records => exact .pure _
      · exact .pure _
  · exact .pure _

theorem silent_readSimctlInventory : Silent readSimctlInventory := by
  unfold readSimctlInventory
  exact .bind (.request rfl) fun _ => .bind (.request rfl) fun _ => .bind (.request rfl)
    fun _ => .pure _

theorem silent_writeKnownProjects {projects : List ProjectConfig} :
    Silent (writeKnownProjects projects) :=
  silent_writeJsonAtomicRestricted rfl

/-! ## The scan of the lease files -/

/-- The containment of a record hands back a registry only where it ended the lease. -/
def ContainedOk (names : DiskNames) : ContainedRecord → Prop
  | .contained registry => Accepts names registry
  | _ => True

theorem keeps_removeLeaseAfterContainment (haccepts : Accepts names registry) :
    Keeps surroundings names (removeLeaseAfterContainment paths registry lease timestamp)
      (Accepts names) := by
  unfold removeLeaseAfterContainment
  refine .seq (.silent silent_assertLeaseArtifactPathAllowed) fun _ _ => ?_
  cases hentry : registry.aliases lease.aliasName with
  | none =>
      exact .seq (.silent silent_removeLeaseRecordFiles) fun _ _ => .pure haccepts
  | some entry =>
      have hmarked := haccepts.update lease.aliasName timestamp
        (markAliasLeaseReleased timestamp) fun _ h => h
      exact .seq (.writeRegistry hmarked) fun _ _ => .seq (.silent silent_removeLeaseRecordFiles)
        fun _ _ => .pure hmarked

theorem keeps_containLeaseRecord {reason : ContainmentReason} {now : Option Timestamp}
    (haccepts : Accepts names registry) :
    Keeps surroundings names (containLeaseRecord paths registry lease reason now)
      (ContainedOk names) := by
  unfold containLeaseRecord
  refine .seq (.silent silent_nowIso) fun at? _ => .seq (.silent (.request rfl)) fun outcome _ => ?_
  cases outcome with
  | notContained observation =>
      exact .seq (.silent silent_writeLeaseRecord) fun _ _ => .pure trivial
  | contained result =>
      dsimp only
      split
      · exact .seq (.silent silent_nowIso) fun releasedAt _ =>
          .seq (keeps_removeLeaseAfterContainment haccepts) fun released hreleased =>
            .seq (.silent (.request rfl)) fun _ _ => .seq (.silent silent_appendEventRecord)
              fun _ _ => .pure hreleased
      · exact .seq (.silent (.request rfl)) fun _ _ => .seq (.silent silent_writeLeaseRecord)
          fun _ _ => .pure trivial

theorem keeps_scanLease {skipLeaseIds : List LeaseId} {scan : LoadScan}
    (haccepts : Accepts names scan.registry) :
    Keeps surroundings names (scanLease paths skipLeaseIds timestamp scan lease)
      fun after => Accepts names after.registry := by
  unfold scanLease
  split
  · exact .pure haccepts
  · split
    · unfold reclaimLeftoverAcquireRollbackLease
      exact .seq (.silent (.bind silent_removeLeaseRecordFiles fun _ =>
        .bind silent_appendEventRecord fun _ => .pure _)) fun _ _ => .pure haccepts
    · refine .seq (.silent silent_leaseOwnerIsLive) fun answer _ => ?_
      dsimp only
      split
      · exact .pure haccepts
      · split
        · refine .seq (keeps_containLeaseRecord haccepts) fun record hrecord => ?_
          cases record with
          | contained registry => exact .pure hrecord
          | notContained lease => exact .pure haccepts
          | incomplete lease => exact .pure haccepts
        · unfold reclaimStaleLease
          refine .seq (M := Accepts names) (.seq (.silent silent_removeLeaseRecordFiles)
            fun _ _ => .seq (.silent silent_appendEventRecord) fun _ _ => .pure ?_)
              fun registry hregistry => .pure hregistry
          exact haccepts.modify fun _ h => h

/-! ## Normalizing and synchronizing -/

theorem accepts_normalizeRegistry {rawRegistry : Option Registry} {config : HostConfig} :
    Accepts (some config.aliasNames) (Broker.normalizeRegistry rawRegistry config timestamp) where
  labelled := by
    refine ⟨?_, ?_, ?_⟩
    · intro name entry hentry
      unfold Broker.normalizeRegistry at hentry
      dsimp only at hentry
      split at hentry
      · obtain rfl := Option.some.inj hentry
        unfold normalizeRegistryEntry
        split
        · intro code hcode
          cases hcode
        · exact knownCause_knownDriftCauseCode
      · cases hentry
    · intro result hresult
      have hlabels := (Option.filter_eq_some_iff.mp hresult).2
      simpa using hlabels
    · intro result hresult
      have hlabels := (Option.filter_eq_some_iff.mp hresult).2
      simpa using hlabels
  covers := by
    rintro _ ⟨⟩ name hname
    unfold Broker.normalizeRegistry
    simp only [hname, if_true, Option.isSome_some]

/-- A change of the entries that keeps the known causes. -/
theorem Accepts.map (haccepts : Accepts names registry) {other : Registry}
    (hentries : ∀ name, ∃ mutate : RegistryEntry → RegistryEntry,
      (∀ entry, KnownCause entry → KnownCause (mutate entry)) ∧
        other.aliases name = (registry.aliases name).map mutate)
    (hcleanup : other.lastCleanupResult = registry.lastCleanupResult)
    (hreclaim : other.lastReclaimResult = registry.lastReclaimResult) : Accepts names other where
  labelled := by
    refine ⟨?_, hcleanup ▸ haccepts.labelled.cleanup, hreclaim ▸ haccepts.labelled.reclaim⟩
    intro name entry hentry
    obtain ⟨mutate, hcause, hother⟩ := hentries name
    rw [hother] at hentry
    obtain ⟨before, hbefore, rfl⟩ := Option.map_eq_some_iff.mp hentry
    exact hcause before (haccepts.labelled.codes name before hbefore)
  covers := by
    intro aliasNames hnames name hname
    obtain ⟨mutate, -, hother⟩ := hentries name
    rw [hother, Option.isSome_map]
    exact haccepts.covers aliasNames hnames name hname

theorem accepts_adoptHolders (haccepts : Accepts names registry) {config : HostConfig}
    {leasesByAlias : AliasName → Option Lease} {pinsByAlias : AliasName → Option Pin} :
    Accepts names (adoptHolders leasesByAlias pinsByAlias config timestamp registry) := by
  refine haccepts.map (fun name => ?_) rfl rfl
  by_cases hname : name ∈ config.aliasNames
  · refine ⟨fun entry =>
      { entry with
        activeLeaseId := (leasesByAlias name).map (·.leaseId)
        pinId := (pinsByAlias name).map (·.pinId)
        updatedAt := timestamp }, fun _ h => h, if_pos hname⟩
  · exact ⟨id, fun _ h => h, (if_neg hname).trans Option.map_id_apply.symm⟩

theorem knownCause_syncEntry {verdict : SyncVerdict} {entry : RegistryEntry}
    (hcause : KnownCause entry) : KnownCause (syncEntry verdict entry) := by
  cases verdict with
  | missing => exact hcause
  | unavailable => exact hcause
  | mismatched powerState => exact hcause
  | matching powerState =>
      unfold syncEntry
      simp only
      split
      · exact hcause
      · cases entry.health with
        | healthy => exact fun code hcode => nomatch hcode
        | stateDrift => exact fun code hcode => nomatch hcode
        | repairNeeded => exact hcause
        | repairing => exact hcause

theorem accepts_syncRegistry (haccepts : Accepts names registry) {config : HostConfig}
    {inventory : SimctlInventory} : Accepts names (syncRegistry config inventory registry) := by
  refine haccepts.map (fun name => ?_) rfl rfl
  unfold syncRegistry
  cases hfind : config.find name with
  | none => exact ⟨id, fun _ h => h, by simp only [hfind, Option.map_id_fun, id]⟩
  | some hostAlias =>
      exact ⟨syncEntry (syncVerdict inventory hostAlias), fun _ => knownCause_syncEntry,
        by simp only [hfind]⟩

theorem keeps_syncRegistryWithSimctl (haccepts : Accepts names registry) {config : HostConfig}
    {inventory : Option SimctlInventory} :
    Keeps surroundings names (syncRegistryWithSimctl config registry inventory)
      (Accepts names) := by
  unfold syncRegistryWithSimctl
  cases inventory with
  | none =>
      exact .seq (.silent silent_readSimctlInventory) fun _ _ =>
        .pure (accepts_syncRegistry haccepts)
  | some inventory => exact .pure (accepts_syncRegistry haccepts)

/-! ## The load -/

/-- The host config in memory has the names on disk. -/
theorem keeps_readHostConfigOrThrow :
    Keeps surroundings names readHostConfigOrThrow fun config => names = some config.aliasNames := by
  unfold readHostConfigOrThrow
  refine .seq (M := fun config => names = config.map (·.aliasNames)) ?_ ?_
  · rintro world rfl
    refine wp_perform (show WriteOk .readHostConfig world from trivial) ?_ ?_
    · intro value after hvalue hsettles
      exact ⟨Settles.diskNames hsettles, by rw [hvalue]; rfl⟩
    · rintro error after - - (hsettles | ⟨hlate, -⟩)
      · exact Settles.diskNames hsettles
      · cases hlate
  · rintro (_ | config) hnames
    · exact .throw
    · dsimp only [validateHostConfig]
      split
      · exact .pure hnames
      · exact .throw

/-- What a load or a snapshot hands to a command. -/
structure Ready (names : DiskNames) (state : BrokerState) : Prop where
  disk : names = some state.hostConfig.aliasNames
  accepts : Accepts names state.registry

theorem keeps_writeLoadedRegistry {options : LoadOptions} (haccepts : Accepts names registry) :
    Keeps surroundings names (writeLoadedRegistry options registry) fun _ => True := by
  unfold writeLoadedRegistry writeIdleRegistry
  split
  · exact .tryCatch (.writeRegistry haccepts) fun _ => .throw
  · exact .writeRegistry haccepts

theorem keeps_loadBrokerState {options : LoadOptions} :
    Keeps surroundings names (loadBrokerState paths options) (Ready names) := by
  unfold loadBrokerState
  refine .seq (.silent (.request rfl)) fun _ _ => .seq keeps_readHostConfigOrThrow
    fun config hnames => ?_
  refine .seq (.silent (.request rfl)) fun projects _ => .seq (.silent (.request rfl))
    fun rawRegistry _ => .seq (.silent (.request rfl)) fun pins _ =>
      .seq (.silent (.request rfl)) fun leases _ => ?_
  have hnormalized : Accepts names (Broker.normalizeRegistry rawRegistry config options.timestamp) :=
    hnames ▸ accepts_normalizeRegistry
  refine .seq (.foldlM (I := fun scan => Accepts names scan.registry) _
    (fun _ _ hscan => keeps_scanLease hscan) hnormalized) fun scan hscan => ?_
  refine .seq (keeps_syncRegistryWithSimctl (accepts_adoptHolders hscan)) fun synced hsynced => ?_
  exact .seq (keeps_writeLoadedRegistry hsynced.touch) fun _ _ =>
    .seq (.silent silent_writeKnownProjects) fun _ _ => .pure ⟨hnames, hsynced.touch⟩

/-! ## The snapshot -/

theorem keeps_snapshotLease {skipLeaseIds : List LeaseId} {scan : SnapshotScan}
    (haccepts : Accepts names scan.registry) :
    Keeps surroundings names (snapshotLease skipLeaseIds timestamp scan lease)
      fun after => Accepts names after.registry := by
  unfold snapshotLease
  split
  · exact .pure haccepts
  · split
    · exact .pure haccepts
    · refine .seq (.silent silent_leaseOwnerIsLive) fun answer _ => ?_
      dsimp only
      split
      · exact .pure haccepts
      · exact .pure (haccepts.modify fun _ h => h)

theorem keeps_readBrokerStateSnapshot {inventory : Option SimctlInventory}
    {skipLeaseIds : List LeaseId} :
    Keeps surroundings names (readBrokerStateSnapshot timestamp inventory skipLeaseIds)
      (Ready names) := by
  unfold readBrokerStateSnapshot
  refine .seq keeps_readHostConfigOrThrow fun config hnames => ?_
  refine .seq (.silent (.request rfl)) fun projects _ => .seq (.silent (.request rfl))
    fun rawRegistry _ => .seq (.silent (.request rfl)) fun pins _ =>
      .seq (.silent (.request rfl)) fun files _ => ?_
  have hnormalized : Accepts names (Broker.normalizeRegistry rawRegistry config timestamp) :=
    hnames ▸ accepts_normalizeRegistry
  refine .seq (.foldlM (I := fun scan => Accepts names scan.registry) _
    (fun _ _ hscan => keeps_snapshotLease hscan) hnormalized) fun scan hscan => ?_
  exact .seq (keeps_syncRegistryWithSimctl (accepts_adoptHolders hscan)) fun synced hsynced =>
    .pure ⟨hnames, hsynced.touch⟩

end SimulatorBroker.Persistence
