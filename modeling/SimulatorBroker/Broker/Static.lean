import SimulatorBroker.Broker.Commands
import SimulatorBroker.Effects.Frame

/-!
# What leaves the fleet and the lease lock alone

Only a few commands create, rename or delete a simulator or replace the host config, and only
their outermost brackets take and release the lease lock.  The other functions are listed here,
one by one.
-/

namespace SimulatorBroker.Broker

open SimulatorBroker.Effects
open SimulatorBroker.State

/-- Neither the host config is replaced, nor a simulator created, renamed or deleted, nor the lease
lock taken or released. -/
def ordinary : BrokerOp → Bool
  | .rename (.hostConfig _) | .createDevice _ _ _ | .renameDevice _ _ | .deleteDevice _ _
  | .lock .lease | .unlock .lease => false
  | _ => true

/-- The program leaves the fleet and the lease lock alone. -/
abbrev Static {α : Type} (body : Broker α) : Prop :=
  body.All fun op => ordinary op = true

/-- The operations that change nothing, but for the lease lock. -/
def passive : BrokerOp → Bool
  | .lock .lease | .unlock .lease | .randomUuid | .rename _ | .linkArtifact _ _ | .unlinkLease _ _
  | .unlinkArtifact _ | .unlinkPin _ | .unlinkIdlePolicy | .appendEvent _ | .createDevice _ _ _
  | .renameDevice _ _ | .shutdownDevice _ _ | .eraseDevice _ _ | .deleteDevice _ _ | .bootDevice _
  | .containLeaseProcesses _ _ => false
  | _ => true

/-- The program only reads and waits, outside the lease lock. -/
abbrev Passive {α : Type} (body : Broker α) : Prop :=
  body.All fun op => passive op = true

/-- A command that is refused outright, or is one section under the lease lock. -/
inductive Section {α : Type} : Broker α → Prop where
  | refused (error : BrokerError) : Section (throw error)
  | lease {work : Broker α} (static : Static work) : Section (withLock .lease work)

variable {α : Type} {paths : BrokerPaths} {lease : Lease} {timestamp : Timestamp}
  {registry : Registry} {state : BrokerState} {config : HostConfig} {hostAlias : HostAlias}

/-! ## Reading -/

theorem ordinary_of_passive {op : BrokerOp} (hpassive : passive op = true) : ordinary op = true := by
  cases op with
  | rename file => cases hpassive
  | lock name => cases name <;> first | rfl | cases hpassive
  | unlock name => cases name <;> first | rfl | cases hpassive
  | createDevice name deviceType runtime => cases hpassive
  | renameDevice simulatorId name => cases hpassive
  | deleteDevice simulatorId site => cases hpassive
  | _ => rfl

theorem static_of_passive {body : Broker α} (hbody : Passive body) : Static body :=
  hbody.mono fun _ => ordinary_of_passive

theorem passive_readHostConfigOrThrow : Passive readHostConfigOrThrow := by
  unfold readHostConfigOrThrow
  refine .bind (.request rfl) fun config => ?_
  cases config with
  | none => exact .throw _
  | some config =>
      simp only [validateHostConfig]
      split
      · exact .pure _
      · exact .throw _

theorem passive_readSimctlInventory : Passive readSimctlInventory := by
  unfold readSimctlInventory
  exact .bind (.request rfl) fun _ => .bind (.request rfl) fun _ => .bind (.request rfl)
    fun _ => .pure _

theorem passive_syncRegistryWithSimctl {config : HostConfig}
    {inventory : Option SimctlInventory} :
    Passive (syncRegistryWithSimctl config registry inventory) := by
  unfold syncRegistryWithSimctl
  cases inventory with
  | none => exact .bind passive_readSimctlInventory fun _ => .pure _
  | some inventory => exact .pure _

theorem passive_leaseOwnerIsLive {sampled : Option (List ProcessRecord)} :
    Passive (leaseOwnerIsLive lease sampled timestamp) := by
  unfold leaseOwnerIsLive
  refine .bind (.request rfl) fun exists? => ?_
  split
  · split
    · exact .pure _
    · split
      · refine .bind ?_ fun _ => .pure _
        unfold sampleOnce
        cases sampled with
        | none => exact .request rfl
        | some records => exact .pure _
      · exact .pure _
  · exact .pure _

theorem passive_getPurpose {project : ProjectConfig} {purposeId : PurposeId} :
    Passive (getPurpose project purposeId) := by
  unfold getPurpose
  split
  · exact .throw _
  · exact .pure _

theorem passive_readBrokerStateSnapshot {inventory : Option SimctlInventory}
    {skipLeaseIds : List LeaseId} :
    Passive (readBrokerStateSnapshot timestamp inventory skipLeaseIds) := by
  unfold readBrokerStateSnapshot
  refine .bind passive_readHostConfigOrThrow fun hostConfig =>
    .bind (.request rfl) fun _ => .bind (.request rfl) fun rawRegistry => .bind (.request rfl)
      fun pins => .bind (.request rfl) fun files => .bind (.foldlM ?_ _ _) fun scan =>
        .bind (passive_syncRegistryWithSimctl) fun _ => .pure _
  intro scan lease
  unfold snapshotLease
  split
  · exact .pure _
  · split
    · exact .pure _
    · refine .bind passive_leaseOwnerIsLive fun outcome => ?_
      simp only
      split
      · exact .pure _
      · exact .pure _

/-- An evaluation performs what its loader performs, and reads. -/
theorem all_buildCapacityEvaluation {p : BrokerOp → Prop} {options : CapacityOptions}
    {apply : Bool} (hreads : ∀ op, passive op = true → p op)
    (hloader : ∀ timestamp inventory,
      (if apply then loadBrokerState paths { timestamp, inventory := some inventory }
        else readBrokerStateSnapshot timestamp (some inventory)).All p) :
    (buildCapacityEvaluation paths options apply).All p := by
  unfold buildCapacityEvaluation loadCapacityProject hostConfigReadable
  refine .bind (.request (hreads _ rfl)) fun timestamp => .bind (.tryCatch (.bind (.request
    (hreads _ rfl)) fun _ => .pure _) fun error => ?_) fun project => ?_
  · split
    · exact .pure _
    · exact .throw _
  cases project with
  | none => exact .bind (.request (hreads _ rfl)) fun _ => .pure _
  | some project =>
      simp only
      cases options.purposeId
      on_goal 2 => refine .bind (passive_getPurpose.mono hreads) fun _ => ?_
      all_goals
        refine .bind (.tryCatch (.bind (passive_readHostConfigOrThrow.mono hreads) fun _ =>
          .pure _) fun error => ?_) fun readable => ?_
        · split
          · exact .pure _
          · exact .throw _
        split
        · refine .bind (.attempt (passive_readSimctlInventory.mono hreads)) fun listing => ?_
          cases listing with
          | error error => exact .pure _
          | ok inventory =>
              refine .bind (.attempt (hloader timestamp inventory)) fun outcome => ?_
              cases outcome with
              | error error =>
                  simp only
                  split
                  · exact .pure _
                  · exact .throw _
              | ok state => exact .pure _
        · exact .pure _

/-! ## Files -/

theorem static_perform {op : BrokerOp} (hop : ordinary op = true) : Static (perform op) :=
  .request hop

/-- `if … then throw …`, and what follows it. -/
theorem static_throwIf {condition : Prop} [Decidable condition] {error : BrokerError}
    {rest : Broker α} (hrest : Static rest) :
    Static (if condition then (do throw error; rest) else rest) := by
  split
  · exact .bind (.throw _) fun _ => hrest
  · exact hrest

theorem static_ignoringErrors {body : Broker Unit} (hbody : Static body) :
    Static (ignoringErrors body) :=
  .tryCatch hbody fun _ => .pure _

theorem static_writeJsonAtomicRestricted {file : FileWrite}
    (hfile : ordinary (.rename file) = true) : Static (writeJsonAtomicRestricted file) := by
  unfold writeJsonAtomicRestricted
  exact .bind (.request rfl) fun _ => .bind (.request rfl) fun _ => .bind (.request rfl)
    fun _ => .bind (.request hfile) fun _ => .request rfl

theorem static_writeJsonAtomic {file : FileWrite} (hfile : ordinary (.rename file) = true) :
    Static (writeJsonAtomic file) := by
  unfold writeJsonAtomic
  exact .bind (.request rfl) fun _ => .bind (.request rfl) fun _ => .request hfile

theorem static_writeRegistry {note : RegistryNote} : Static (writeRegistry registry note) :=
  static_writeJsonAtomicRestricted rfl

theorem static_writeIdleRegistry : Static (writeIdleRegistry registry) := by
  unfold writeIdleRegistry
  exact .tryCatch static_writeRegistry fun _ => .throw _

theorem static_writeKnownProjects {projects : List ProjectConfig} :
    Static (writeKnownProjects projects) :=
  static_writeJsonAtomicRestricted rfl

theorem static_appendEventRecord {event : Event} : Static (appendEventRecord event) := by
  unfold appendEventRecord recordAuditAppendFailure
  refine .tryCatch (.bind (.request rfl) fun _ => .pure _) fun _ => .bind ?_ fun _ => .pure _
  exact static_ignoringErrors (.request rfl)

/-- The other two locks. -/
theorem static_withLock {name : LockName} {work : Broker α} (hname : name ≠ .lease)
    (hwork : Static work) : Static (withLock name work) := by
  unfold withLock ensureStatePaths
  cases name with
  | lease => exact absurd rfl hname
  | capacity | reset =>
      exact .bind (.request rfl) fun _ => .bind (.request rfl) fun _ =>
        .ensuring hwork (.request rfl)

theorem static_invokeLifecycleAdapter {action : Broker α} (haction : Static action) :
    Static (invokeLifecycleAdapter action) := by
  unfold invokeLifecycleAdapter
  refine .tryCatch haction fun error => ?_
  split
  · exact .throw _
  · exact .throw _

theorem static_assertLeaseArtifactPathAllowed {path : Option ArtifactPath} :
    Static (assertLeaseArtifactPathAllowed paths path) := by
  unfold assertLeaseArtifactPathAllowed
  cases path with
  | none => exact .pure _
  | some path =>
      simp only
      split
      · exact .pure _
      · exact .throw _

theorem static_removeLeaseRecordFiles {site : UnlinkSite} :
    Static (removeLeaseRecordFiles paths lease site) := by
  unfold removeLeaseRecordFiles removeArtifact
  refine .bind static_assertLeaseArtifactPathAllowed fun _ => .bind (.request rfl) fun _ => ?_
  cases lease.artifactPath with
  | none => exact .pure _
  | some path => exact .request rfl

theorem static_restoreLeaseRecordFiles {snapshot : LeaseFilesSnapshot} :
    Static (restoreLeaseRecordFiles snapshot) := by
  have hartifact : Static (restoreArtifactFile snapshot) := by
    unfold restoreArtifactFile
    cases snapshot.artifactPath with
    | none => exact .pure _
    | some path =>
        cases snapshot.artifact with
        | none => exact .request rfl
        | some content => exact static_writeJsonAtomic rfl
  unfold restoreLeaseRecordFiles
  cases snapshot.canonical with
  | none => exact .bind (.request rfl) fun _ => hartifact
  | some record => exact .bind (static_writeJsonAtomicRestricted rfl) fun _ => hartifact

theorem static_writeLeaseArtifact {replaceArtifact : Bool} :
    Static (writeLeaseArtifact lease replaceArtifact) := by
  unfold writeLeaseArtifact
  cases lease.artifactPath with
  | none => exact .pure _
  | some path =>
      simp only
      split
      · exact static_writeJsonAtomic rfl
      · refine .tryCatch ?_ fun error => ?_
        · unfold writeJsonNoReplace
          exact .bind (.request rfl) fun _ =>
            .ensuring (.bind (.request rfl) fun _ => .request rfl) (.request rfl)
        · split
          · exact .throw _
          · exact .throw _

theorem static_writeLeaseRecord {replaceArtifact : Bool} :
    Static (writeLeaseRecord paths lease replaceArtifact) := by
  unfold writeLeaseRecord
  refine .bind static_assertLeaseArtifactPathAllowed fun _ => .bind ?_ fun snapshot => ?_
  · unfold snapshotLeaseRecordFiles readLeaseArtifact
    refine .bind ?_ fun _ => .bind (.request rfl) fun _ => .pure _
    cases lease.artifactPath with
    | none => exact .pure _
    | some path => exact .request rfl
  · refine .bind (static_writeJsonAtomicRestricted rfl) fun _ =>
      .tryCatch static_writeLeaseArtifact fun error => .bind ?_ fun _ => .throw _
    exact .tryCatch static_restoreLeaseRecordFiles fun _ => .pure _

/-! ## The lease files -/

theorem static_containLeaseRecord {reason : ContainmentReason} {now : Option Timestamp} :
    Static (containLeaseRecord paths registry lease reason now) := by
  have hnow : Static (nowIso now) := by
    unfold nowIso
    cases now with
    | none => exact .request rfl
    | some fixed => exact .pure _
  unfold containLeaseRecord
  refine .bind hnow fun at? => .bind (.request rfl) fun outcome => ?_
  cases outcome with
  | notContained observation => exact .bind static_writeLeaseRecord fun _ => .pure _
  | contained result =>
      dsimp only
      split
      · refine .bind hnow fun releasedAt => .bind ?_ fun released => .bind (.request rfl)
          fun _ => .bind static_appendEventRecord fun _ => .pure _
        unfold removeLeaseAfterContainment
        refine .bind static_assertLeaseArtifactPathAllowed fun _ => ?_
        simp only
        split
        · exact .bind (static_writeJsonAtomicRestricted rfl) fun _ =>
            .bind static_removeLeaseRecordFiles fun _ => .pure _
        · exact .bind static_removeLeaseRecordFiles fun _ => .pure _
      · exact .bind (.request rfl) fun _ => .bind static_writeLeaseRecord fun _ => .pure _

theorem static_scanLease {skipLeaseIds : List LeaseId} {scan : LoadScan} :
    Static (scanLease paths skipLeaseIds timestamp scan lease) := by
  unfold scanLease
  split
  · exact .pure _
  · split
    · unfold reclaimLeftoverAcquireRollbackLease
      refine .bind (.bind static_removeLeaseRecordFiles fun _ => .bind
        static_appendEventRecord fun _ => .pure _) fun _ => .pure _
    · refine .bind (static_of_passive passive_leaseOwnerIsLive) fun answer => ?_
      simp only
      split
      · exact .pure _
      · split
        · refine .bind static_containLeaseRecord fun record => ?_
          cases record <;> exact .pure _
        · unfold reclaimStaleLease
          exact .bind (.bind static_removeLeaseRecordFiles fun _ => .bind
            static_appendEventRecord fun _ => .pure _) fun _ => .pure _

/-! ## The load -/

theorem static_writeLoadedRegistry {options : LoadOptions} :
    Static (writeLoadedRegistry options registry) := by
  unfold writeLoadedRegistry writeIdleRegistry
  split
  · exact .tryCatch (static_writeJsonAtomicRestricted rfl) fun _ => .throw _
  · exact static_writeJsonAtomicRestricted rfl

theorem static_loadBrokerState {options : LoadOptions} :
    Static (loadBrokerState paths options) := by
  unfold loadBrokerState ensureStatePaths
  refine .bind (.request rfl) fun _ => .bind (static_of_passive passive_readHostConfigOrThrow) fun config => ?_
  refine .bind (.request rfl) fun projects => .bind (.request rfl) fun registry =>
    .bind (.request rfl) fun pins => .bind (.request rfl) fun leases =>
      .bind (.foldlM (fun _ _ => static_scanLease) _ _) fun scan => ?_
  exact .bind (static_of_passive passive_syncRegistryWithSimctl) fun _ => .bind static_writeLoadedRegistry
    fun _ => .bind (static_writeJsonAtomicRestricted rfl) fun _ => .pure _

theorem static_assertLeaseArtifactPathUnused {leases : List Lease} {path : Option ArtifactPath}
    {ignored : Option LeaseId} : Static (assertLeaseArtifactPathUnused paths leases path ignored) := by
  unfold assertLeaseArtifactPathUnused
  cases path with
  | none => exact .pure _
  | some path =>
      simp only
      split
      · exact .throw _
      · exact .pure _

theorem static_loadLeaseByIdOrFile {reference : LeaseReference} :
    Static (loadLeaseByIdOrFile reference) := by
  unfold loadLeaseByIdOrFile
  refine .bind ?_ fun leaseId => ?_
  · unfold resolveLeaseId readLeaseFileId
    split
    · exact .pure _
    · refine .bind (.request rfl) fun content => ?_
      split
      · exact .pure _
      · exact .pure _
      · exact .throw _
    · exact .pure _
  · cases leaseId with
    | none => exact .throw _
    | some leaseId =>
        refine .bind (.request rfl) fun lease => ?_
        cases lease with
        | none => exact .throw _
        | some lease => exact .pure _

theorem static_findHostAliasOrThrow {name : AliasName} :
    Static (findHostAliasOrThrow config name) := by
  unfold findHostAliasOrThrow
  split
  · exact .throw _
  · exact .pure _

theorem static_rememberKnownProject {knownProjects : List ProjectConfig} {project : ProjectConfig} :
    Static (rememberKnownProject knownProjects project) := by
  unfold rememberKnownProject
  exact .bind static_writeKnownProjects fun _ => .pure _

theorem static_rememberKnownProjectFromDisk {project : ProjectConfig} :
    Static (rememberKnownProjectFromDisk project) := by
  unfold rememberKnownProjectFromDisk
  exact .bind (.request rfl) fun _ => .bind static_rememberKnownProject fun _ => .pure _

/-! ## Slot reclaim -/

theorem static_reclaimSlot {held : Bool} {scan : ReclaimScan} :
    Static (reclaimSlot hostAlias held timestamp scan) := by
  unfold reclaimSlot eraseSlot
  refine .bind (.attempt (static_withLock (by decide) ?_)) fun outcome => ?_
  · split
    · exact .bind (.throw _) fun _ => .bind (.request rfl) fun _ => .request rfl
    · exact .bind (.request rfl) fun _ => .request rfl
  · cases outcome with
    | ok value => exact .bind static_appendEventRecord fun _ => .pure _
    | error error =>
        simp only
        split
        · exact .pure _
        · exact .bind static_appendEventRecord fun _ => .pure _

theorem static_reclaimAlias {policy : SlotReclaimPolicy} {acquiring : Option AliasName}
    {scan : ReclaimScan} : Static (reclaimAlias state policy acquiring timestamp scan hostAlias) := by
  unfold reclaimAlias
  split
  · exact .pure _
  · simp only
    split
    · exact .pure _
    · split
      · exact .pure _
      · split
        · refine .bind ?_ fun _ => .bind (.tryCatch (.request rfl) fun _ => .pure _)
            fun diskBytes => ?_
          · unfold sharedDeviceListing
            split
            · exact .pure _
            · exact static_ignoringErrors (.bind (.request rfl) fun _ => .pure _)
          · split
            · exact .pure _
            · exact static_reclaimSlot
        · exact .pure _

theorem static_performSlotReclaim {options : ReclaimOptions} :
    Static (performSlotReclaim state timestamp options) := by
  unfold performSlotReclaim reclaimAliases
  refine .bind ?_ fun scan => ?_
  · simp only
    split
    · exact .foldlM (fun _ _ => static_reclaimAlias) _ _
    · exact .pure _
  · simp only
    split
    · exact .bind static_writeRegistry fun _ => .pure _
    · exact .pure _

/-! ## Acquiring -/

theorem static_requireContainmentRootInteger {value : Nat} :
    Static (requireContainmentRootInteger value) := by
  unfold requireContainmentRootInteger
  split
  · exact .pure _
  · exact .throw _

theorem static_optionalContainmentGroupInteger {value : Option Nat} :
    Static (optionalContainmentGroupInteger value) := by
  unfold optionalContainmentGroupInteger
  cases value with
  | none => exact .pure _
  | some value =>
      simp only
      split
      · exact .pure _
      · exact .throw _

theorem static_validateRegisteredOwnerGroup {ownerPid ownerPgid : Option Pid} {live : Bool} :
    Static (validateRegisteredOwnerGroup ownerPid ownerPgid live) := by
  unfold validateRegisteredOwnerGroup
  split
  · refine .bind (.request rfl) fun records => ?_
    split
    · split
      · exact .throw _
      · exact .pure _
    · split
      · exact .throw _
      · split
        · exact .throw _
        · exact .pure _
  · exact .pure _

theorem static_acquireSelection {options : AcquireOptions} :
    Static (acquireSelection paths options timestamp) := by
  unfold acquireSelection
  refine .bind static_loadBrokerState fun state => .bind (.request rfl) fun project =>
    .bind static_rememberKnownProject fun knownProjects => .bind (static_of_passive passive_getPurpose)
      fun purpose => ?_
  simp only
  split
  · exact .throw _
  · exact .pure _

theorem static_maybeResetLeaseOnAcquire : Static (maybeResetLeaseOnAcquire registry lease) := by
  unfold maybeResetLeaseOnAcquire
  split
  · exact .pure _
  · refine .bind (.attempt (static_withLock (by decide)
      (.bind (.request rfl) fun _ => .request rfl))) fun outcome => ?_
    cases outcome with
    | error error => exact .pure _
    | ok value =>
        refine .bind (.attempt static_writeRegistry) fun outcome => ?_
        cases outcome with
        | error error => exact .pure _
        | ok value => exact .pure _

theorem static_maybeBootLeaseOnAcquire :
    Static (maybeBootLeaseOnAcquire config registry lease) := by
  unfold maybeBootLeaseOnAcquire
  refine .bind (.attempt (.bind static_findHostAliasOrThrow fun hostAlias => ?_)) fun outcome => ?_
  · split
    · exact static_invokeLifecycleAdapter (.request rfl)
    · exact static_invokeLifecycleAdapter (.request rfl)
  · cases outcome with
    | error error => exact .pure _
    | ok value =>
        simp only
        split
        · exact .pure _
        · refine .bind (.attempt static_writeRegistry) fun outcome => ?_
          cases outcome with
          | error error => exact .pure _
          | ok value => exact .bind static_appendEventRecord fun _ => .pure _

theorem static_rollbackAcquireLeaseFailureSafe {reason : String} {erased : List AliasName} :
    Static (rollbackAcquireLeaseFailureSafe paths registry lease timestamp reason erased) := by
  unfold rollbackAcquireLeaseFailureSafe rollbackAcquireLease
  exact static_ignoringErrors (.bind static_writeRegistry fun _ => static_removeLeaseRecordFiles)

theorem static_handOutLease : Static (handOutLease paths config registry lease timestamp) := by
  unfold handOutLease
  refine .bind static_maybeResetLeaseOnAcquire fun reset => ?_
  split
  · exact .bind static_rollbackAcquireLeaseFailureSafe fun _ => .throw _
  · refine .bind static_maybeBootLeaseOnAcquire fun boot => ?_
    split
    · exact .bind static_rollbackAcquireLeaseFailureSafe fun _ => .throw _
    · exact .pure _

theorem static_commitAcquiredLease : Static (commitAcquiredLease paths registry lease timestamp) := by
  unfold commitAcquiredLease
  refine .bind (static_writeLeaseRecord) fun _ => .bind ?_ fun _ => .pure _
  exact .tryCatch static_writeRegistry fun _ => .bind static_removeLeaseRecordFiles fun _ => .throw _

theorem static_acquireLease {options : AcquireOptions} : Static (acquireLease paths options) := by
  unfold acquireLease
  refine .bind (.request rfl) fun timestamp => .bind static_acquireSelection fun selection =>
    .bind (.request rfl) fun leaseId => .bind static_requireContainmentRootInteger
      fun ownerPid => .bind static_optionalContainmentGroupInteger fun ownerPgid =>
        .bind static_validateRegisteredOwnerGroup fun _ =>
          .bind static_assertLeaseArtifactPathUnused fun _ =>
            .bind static_performSlotReclaim fun reclaimed => ?_
  have hrest : Static (do
      let registry ← commitAcquiredLease paths reclaimed.1.registry
        (acquiredLease selection options leaseId ownerPid ownerPgid timestamp) timestamp
      handOutLease paths reclaimed.1.hostConfig registry
        (acquiredLease selection options leaseId ownerPid ownerPgid timestamp) timestamp
      let _ ← appendEventRecord
        { type := .leaseAcquired
          aliasName := (acquiredLease selection options leaseId ownerPid ownerPgid timestamp).aliasName
          leaseId, timestamp }
      return acquiredLease selection options leaseId ownerPid ownerPgid timestamp) :=
    .bind static_commitAcquiredLease fun _ => .bind static_handOutLease fun _ =>
      .bind static_appendEventRecord fun _ => .pure _
  simp only
  split
  · exact .bind (.throw _) fun _ => hrest
  · exact hrest

/-! ## Registering, containing and releasing -/

theorem static_checkOptionalFlag {β γ : Type} {check : β → Broker γ} {value : Option β}
    (hcheck : ∀ value, Static (check value)) : Static (checkOptionalFlag check value) := by
  cases value with
  | none => exact .pure _
  | some value => exact .bind (hcheck value) fun _ => .pure _

theorem static_validateRegisteredCommandGroup {commandPid : Pid} {commandPgid : Option Pid} :
    Static (validateRegisteredCommandGroup commandPid commandPgid) := by
  unfold validateRegisteredCommandGroup
  cases commandPgid with
  | none => exact .pure _
  | some commandPgid =>
      refine .bind (.request rfl) fun records => ?_
      split
      · exact .throw _
      · split
        · exact .throw _
        · split
          · exact .throw _
          · exact .pure _

theorem static_registerLeaseProcess {options : RegisterOptions} :
    Static (registerLeaseProcess paths options timestamp) := by
  unfold registerLeaseProcess checkRegisterFlags
  refine .bind static_loadLeaseByIdOrFile fun lease => .bind static_loadBrokerState fun _ =>
    .bind static_requireContainmentRootInteger fun commandPid => .bind ?_ fun flags => ?_
  · exact .bind (static_checkOptionalFlag fun _ => static_optionalContainmentGroupInteger) fun _ =>
      .bind (static_checkOptionalFlag fun _ => static_optionalContainmentGroupInteger) fun _ =>
        .bind (static_checkOptionalFlag fun _ => static_requireContainmentRootInteger) fun _ =>
          .pure _
  · obtain ⟨commandPgid, ownerPgid, ownerPid⟩ := flags
    exact .bind static_validateRegisteredCommandGroup fun _ =>
      .bind static_validateRegisteredOwnerGroup fun _ =>
        .bind (static_writeLeaseRecord) fun _ =>
          .bind static_appendEventRecord fun _ => .pure _

theorem static_containLease {reference : LeaseReference} {reason : ContainmentReason} :
    Static (containLease paths reference reason timestamp) := by
  unfold containLease
  refine .bind static_loadLeaseByIdOrFile fun lease => .bind static_loadBrokerState fun state =>
    .bind (static_containLeaseRecord) fun outcome => ?_
  split
  · exact .throw _
  · exact .pure _
  · exact .pure _

theorem static_removeReleasedLease : Static (removeReleasedLease paths registry lease timestamp) := by
  unfold removeReleasedLease removeLeaseArtifactFile removeArtifact removeCanonicalLeaseRecordFile
  refine .bind (.bind static_assertLeaseArtifactPathAllowed fun _ => ?_) fun _ => ?_
  · cases lease.artifactPath with
    | none => exact .pure _
    | some path => exact .request rfl
  · simp only
    split
    · exact .bind static_writeRegistry fun _ => .bind (.request rfl) fun _ => .pure _
    · exact .bind (.request rfl) fun _ => .pure _

theorem static_snapshotLeaseRecordFiles : Static (snapshotLeaseRecordFiles lease) := by
  unfold snapshotLeaseRecordFiles readLeaseArtifact
  refine .bind ?_ fun _ => .bind (.request rfl) fun _ => .pure _
  cases lease.artifactPath with
  | none => exact .pure _
  | some path => exact .request rfl

theorem static_releaseLease {reference : LeaseReference} :
    Static (releaseLease paths reference) := by
  unfold releaseLease
  refine .bind (.request rfl) fun timestamp => .bind static_loadLeaseByIdOrFile fun lease =>
    .bind static_loadBrokerState fun state => .bind static_assertLeaseArtifactPathAllowed fun _ =>
      .bind static_snapshotLeaseRecordFiles fun snapshot => .bind ?_ fun registry =>
        .bind static_appendEventRecord fun _ => ?_
  · refine .tryCatch static_removeReleasedLease fun error => .bind ?_ fun _ => .throw _
    exact static_ignoringErrors
      (.bind (static_restoreLeaseRecordFiles) fun _ => static_writeRegistry)
  · simp only
    split
    · exact .bind static_performSlotReclaim fun _ => .pure _
    · exact .pure _

/-! ## Pins -/

theorem static_createPin {options : PinOptions} : Static (createPin paths options timestamp) := by
  unfold createPin
  refine .bind static_loadBrokerState fun state => .bind (.request rfl) fun project =>
    .bind static_rememberKnownProject fun _ => .bind (static_of_passive passive_getPurpose) fun purpose =>
      .bind static_findHostAliasOrThrow fun hostAlias => .bind ?_ fun _ => ?_
  · unfold assertAliasServesPurpose
    split
    · exact .throw _
    · exact .pure _
  · split
    · exact .throw _
    · unfold pinAlias
      split
      · exact .throw _
      · split
        · split
          · exact .pure _
          · exact .throw _
        · split
          · exact .throw _
          · refine .bind (.request rfl) fun pinId => .bind ?_ fun _ => .pure _
            unfold writePin
            refine .bind (static_writeJsonAtomicRestricted rfl) fun _ => .bind ?_ fun _ =>
              .bind static_appendEventRecord fun _ => .pure _
            exact .tryCatch static_writeRegistry fun _ => .bind (.request rfl) fun _ => .throw _

theorem static_clearPin {name : AliasName} : Static (clearPin paths name timestamp) := by
  unfold clearPin
  refine .bind static_loadBrokerState fun state => ?_
  split
  · exact .throw _
  · split
    · exact .throw _
    · exact .bind static_writeRegistry fun _ => .bind (.request rfl) fun _ =>
        .bind static_appendEventRecord fun _ => .pure _

/-! ## Queries -/

theorem section_writeAppSnapshotArtifactUnderMutationLock {skipLeaseIds : List LeaseId} :
    Section (writeAppSnapshotArtifactUnderMutationLock skipLeaseIds) := by
  unfold writeAppSnapshotArtifactUnderMutationLock writeAppSnapshotArtifact createAppSnapshot
  refine .lease (.bind (.request rfl) fun timestamp => .tryCatch ?_ fun error => ?_)
  · exact .bind (static_of_passive passive_readBrokerStateSnapshot) fun _ => .bind (.bind (.request rfl) fun _ =>
      static_ignoringErrors (.bind (.request rfl) fun _ => .pure _)) fun _ =>
        static_writeJsonAtomicRestricted rfl
  · split
    · exact .pure _
    · exact .throw _

theorem section_hostStatusBroker : Section (hostStatusBroker paths) :=
  .lease (.bind (.request rfl) fun _ => static_loadBrokerState)

theorem section_explainLeaseBroker {purposeId : PurposeId} {explicitAlias : Option AliasName} :
    Section (explainLeaseBroker paths purposeId explicitAlias) := by
  unfold explainLeaseBroker
  exact .lease (.bind (.request rfl) fun _ => .bind static_loadBrokerState fun _ =>
    .bind (.request rfl) fun _ => .bind static_rememberKnownProjectFromDisk fun _ =>
      .bind (static_of_passive passive_getPurpose) fun _ => .pure _)

theorem section_validateProjectBroker : Section validateProjectBroker := by
  unfold validateProjectBroker
  exact .lease (.bind (.request rfl) fun _ =>
    .bind static_rememberKnownProjectFromDisk fun _ => .pure _)

theorem static_forgetKnownProject {projectId : ProjectId} :
    Static (forgetKnownProject paths projectId timestamp) := by
  unfold forgetKnownProject
  refine .bind static_loadBrokerState fun state => ?_
  split
  · exact .throw _
  · split
    · exact .bind static_writeKnownProjects fun _ => .bind static_appendEventRecord fun _ => .pure _
    · exact .pure _

theorem static_buildCapacityEvaluation {options : CapacityOptions} {apply : Bool} :
    Static (buildCapacityEvaluation paths options apply) := by
  refine all_buildCapacityEvaluation (fun _ => ordinary_of_passive) fun timestamp inventory => ?_
  split
  · exact static_loadBrokerState
  · exact static_of_passive passive_readBrokerStateSnapshot

/-! ## Idle simulators -/

theorem static_readIdlePolicy : Static readIdlePolicy := by
  unfold readIdlePolicy
  refine .bind (.tryCatch (.request rfl) fun error => ?_) fun policy => ?_
  · split
    · exact .throw _
    · exact .throw _
  · cases policy with
    | none => exact .pure _
    | some graceSeconds =>
        simp only
        split
        · exact .pure _
        · exact .throw _

theorem static_loadPublicSafeIdleState {loader : Broker α} (hloader : Static loader) :
    Static (loadPublicSafeIdleState loader) := by
  unfold loadPublicSafeIdleState
  refine .tryCatch hloader fun error => ?_
  split
  · exact .throw _
  · split
    · exact .throw _
    · exact .throw _

theorem section_requireHumanIdleActor {actor : IdleActor} {rest : Broker α}
    (hrest : Section rest) :
    Section (requireHumanIdleActor actor.actorType actor.actorId >>= fun _ => rest) := by
  unfold requireHumanIdleActor
  split
  · exact .refused _
  · split
    · exact .refused _
    · exact hrest

theorem section_enableIdlePolicyBroker {actor : IdleActor} {graceSeconds : Nat} :
    Section (enableIdlePolicyBroker actor graceSeconds) := by
  unfold enableIdlePolicyBroker ensureStatePaths
  apply section_requireHumanIdleActor
  split
  · exact .refused _
  · exact .lease (.bind (.request rfl) fun _ => .bind (.tryCatch (.bind (.request rfl) fun _ =>
      static_writeJsonAtomicRestricted rfl) fun _ => .throw _) fun _ =>
        .bind static_appendEventRecord fun _ => .pure _)

theorem section_disableIdlePolicyBroker {actor : IdleActor} :
    Section (disableIdlePolicyBroker actor) := by
  unfold disableIdlePolicyBroker
  apply section_requireHumanIdleActor
  exact .lease (.bind (.request rfl) fun _ => .bind (.tryCatch (.request rfl) fun _ => .throw _)
    fun _ => .bind static_appendEventRecord fun _ => .pure _)

theorem static_performIdleShutdowns {candidates : List HostAlias} {eventType : EventType}
    {source : Text.Value} {persistNoChanges : Bool} :
    Static (performIdleShutdowns registry candidates timestamp eventType source
      persistNoChanges) := by
  unfold performIdleShutdowns
  refine .bind (.foldlM ?_ _ _) fun scan => ?_
  · intro scan hostAlias
    unfold idleShutdown adapterShutdown
    refine .bind (.attempt (static_invokeLifecycleAdapter (.request rfl))) fun outcome => ?_
    cases outcome with
    | error error =>
        exact .bind (.request rfl) fun _ => .bind static_writeIdleRegistry fun _ =>
          .bind static_appendEventRecord fun _ => .pure _
    | ok value =>
        exact .bind (.request rfl) fun _ => .bind static_appendEventRecord fun _ => .pure _
  · simp only
    split
    · refine .bind (.pure _) fun completedAt => ?_
      split
      · exact .bind static_writeIdleRegistry fun _ => .bind static_appendEventRecord
          fun _ => .pure _
      · exact .pure _
    · refine .bind (.request rfl) fun completedAt => ?_
      split
      · exact .bind static_writeIdleRegistry fun _ => .bind static_appendEventRecord
          fun _ => .pure _
      · exact .pure _

theorem section_idleStatusBroker : Section (idleStatusBroker paths) :=
  .lease (.bind (.request rfl) fun _ =>
    .bind (static_loadPublicSafeIdleState static_loadBrokerState) fun _ => static_readIdlePolicy)

theorem static_reconcileIdle {options : IdleReconcileOptions} :
    Static (reconcileIdle paths options) := by
  unfold reconcileIdle loadAndReclaim
  refine .bind (.request rfl) fun timestamp => .bind static_readIdlePolicy fun policy => ?_
  cases policy with
  | none =>
      exact .bind (static_ignoringErrors (.bind (.bind (static_loadPublicSafeIdleState
        static_loadBrokerState) fun _ => .bind static_performSlotReclaim fun _ => .pure _)
          fun _ => .pure _)) fun _ => .pure _
  | some graceSeconds =>
      exact .bind (.bind (static_loadPublicSafeIdleState static_loadBrokerState) fun _ =>
        .bind static_performSlotReclaim fun _ => .pure _) fun _ =>
          .bind static_performIdleShutdowns fun _ => .pure _

theorem section_previewIdleCleanupBroker : Section (previewIdleCleanupBroker locale) :=
  .lease (.bind (.request rfl) fun _ => .bind (static_loadPublicSafeIdleState
    (static_of_passive passive_readBrokerStateSnapshot)) fun _ => .pure _)

theorem section_applyIdleCleanupBroker {actor : IdleActor}
    {confirmPlanId : List (AliasName × SimulatorId)} {persistNoChanges : Bool} :
    Section (applyIdleCleanupBroker locale actor confirmPlanId persistNoChanges) := by
  unfold applyIdleCleanupBroker applyIdleCleanup
  apply section_requireHumanIdleActor
  refine .lease (.bind (.request rfl) fun timestamp => .bind (static_loadPublicSafeIdleState
    (static_of_passive passive_readBrokerStateSnapshot)) fun state => ?_)
  have hrest : Static (do
      let rawRegistry ← perform .readRegistry
      let registry ← syncRegistryWithSimctl state.hostConfig
        (normalizeRegistry rawRegistry state.hostConfig timestamp)
      performIdleShutdowns registry (idleBaseCandidates state) timestamp .idleCleanupApplied
        (.string (Text.stringUnits "confirmed-cleanup")) persistNoChanges) :=
    .bind (.request rfl) fun _ => .bind (static_of_passive passive_syncRegistryWithSimctl)
      fun _ => static_performIdleShutdowns
  simp only
  split
  · exact .bind (.throw _) fun _ => hrest
  · exact hrest

/-! ## Lifecycle actions -/

theorem static_resolveLifecycleRequester {options : LifecycleOptions} {name : AliasName} :
    Static (resolveLifecycleRequester state options name) := by
  unfold resolveLifecycleRequester loadLeaseReferenceForAlias
  refine .bind ?_ fun reference => ?_
  · split
    · exact .pure _
    · refine .bind static_loadLeaseByIdOrFile fun lease => ?_
      simp only
      split
      · exact .bind (.throw _) fun _ => .pure _
      · exact .pure _
  · cases reference with
    | none => exact .pure _
    | some lease =>
        simp only
        split
        · exact .pure _
        · exact .throw _

theorem static_assertLifecycleHealth {action : LifecycleAction} {entry : RegistryEntry} :
    Static (assertLifecycleHealth action entry) := by
  unfold assertLifecycleHealth
  split
  all_goals
    split
    · exact .throw _
    · exact .pure _

theorem static_runPowerAction {powerState : PowerState} {requester : LifecycleRequester}
    {entry : RegistryEntry} :
    Static (runPowerAction state powerState hostAlias requester entry timestamp) := by
  unfold runPowerAction
  split
  · exact .pure _
  · cases powerState with
    | booted =>
        exact .bind (static_invokeLifecycleAdapter (.request rfl)) fun _ =>
          .bind static_writeRegistry fun _ => .bind static_appendEventRecord fun _ => .pure _
    | shutdown =>
        exact .bind (static_invokeLifecycleAdapter (.request rfl)) fun _ =>
          .bind static_writeRegistry fun _ => .bind static_appendEventRecord fun _ => .pure _

theorem static_runEraseAction {requester : LifecycleRequester} :
    Static (runEraseAction state hostAlias requester timestamp) := by
  unfold runEraseAction adapterErase
  exact .bind (static_invokeLifecycleAdapter (.bind (.request rfl) fun _ => .request rfl))
    fun _ => .bind static_writeRegistry fun _ => .bind static_appendEventRecord fun _ => .pure _

theorem static_validateForceOverride {action : LifecycleAction} {options : LifecycleOptions}
    {requester : LifecycleRequester} {name : AliasName} :
    Static (validateForceOverride action options requester name lease) := by
  unfold validateForceOverride requireOverrideReason
  apply static_throwIf
  apply static_throwIf
  apply static_throwIf
  refine .bind ?_ fun _ => ?_
  · split
    · exact .throw _
    · exact .throw _
    · split
      · exact .throw _
      · exact .pure _
  apply static_throwIf
  split
  · exact .throw _
  · exact .pure _

theorem static_admitLifecycleRequester {action : LifecycleAction} {options : LifecycleOptions}
    {requester : LifecycleRequester} {name : AliasName} :
    Static (admitLifecycleRequester paths state action options requester name timestamp) := by
  unfold admitLifecycleRequester
  split
  · exact .pure _
  · split
    · exact .pure _
    · have hrevoke : ∀ lease : Lease, Static (do
          validateForceOverride action options requester name lease
          revokeLeaseForOverride paths state lease timestamp) := by
        intro lease
        unfold revokeLeaseForOverride
        exact .bind static_validateForceOverride fun _ =>
          .bind static_assertLeaseArtifactPathAllowed fun _ => .bind static_writeRegistry fun _ =>
            .bind static_removeLeaseRecordFiles fun _ => .bind static_appendEventRecord fun _ =>
              .pure _
      split
      · exact .throw _
      · exact .throw _
      · exact hrevoke _
      · exact hrevoke _

/-- Every action but a repair. -/
theorem static_runLifecycleAction {action : LifecycleAction} {options : LifecycleOptions}
    (haction : action ≠ .repair) : Static (runLifecycleAction paths action options) := by
  unfold runLifecycleAction
  refine .bind (.request rfl) fun timestamp => .bind static_loadBrokerState fun state =>
    .bind static_findHostAliasOrThrow fun hostAlias => ?_
  split
  · exact .throw _
  · refine .bind static_resolveLifecycleRequester fun requester =>
      .bind static_assertLifecycleHealth fun _ =>
        .bind static_admitLifecycleRequester fun admitted => ?_
    cases action with
    | boot => exact static_runPowerAction
    | shutdown => exact static_runPowerAction
    | erase => exact static_runEraseAction
    | repair => exact absurd rfl haction

theorem static_assertAliasCanBeDeleted {name : AliasName} :
    Static (assertAliasCanBeDeleted state name) := by
  unfold assertAliasCanBeDeleted
  apply static_throwIf
  apply static_throwIf
  split
  · exact .throw _
  · exact .pure _

/-! ## Commands -/

namespace Command

/-- The commands that may change the fleet. -/
def mayChangeFleet : Command → Bool
  | .lifecycle .repair _ | .repairPurpose _ | .deleteSimulator _ | .deletePurpose _ | .init _
  | .setup _ _ | .reconcileCapacity _ _ => true
  | _ => false

end Command

/-- The report of `doctor`: whether the host config can be read, and then a load like that of
`host status`. -/
def hostConfigIsReported : Broker Bool :=
  tryCatch
    (do
      let _ ← readHostConfigOrThrow
      return true)
    fun error => if error.isBrokerError then pure false else throw error

theorem passive_hostConfigIsReported : Passive hostConfigIsReported := by
  unfold hostConfigIsReported
  refine .tryCatch (.bind passive_readHostConfigOrThrow fun _ => .pure _) fun error => ?_
  split
  · exact .pure _
  · exact .throw _

theorem doctorBroker_eq : doctorBroker paths = hostConfigIsReported >>= fun readable =>
    if readable then hostStatusBroker paths >>= fun state => pure (some state) else pure none :=
  rfl

/-- Every other command that leaves the fleet alone. -/
theorem section_body {command : Command} (hstatic : Command.mayChangeFleet command = false)
    (hdoctor : command ≠ .doctor) (hcheck : ∀ options, command ≠ .checkCapacity options) :
    Section (command.body paths timestamp) := by
  cases command with
  | acquire options => exact .lease static_acquireLease
  | register options => exact .lease static_registerLeaseProcess
  | contain reference reason => exact .lease static_containLease
  | release reference => exact .lease static_releaseLease
  | createPin options => exact .lease static_createPin
  | clearPin name => exact .lease static_clearPin
  | lifecycle action options =>
      cases action with
      | boot => exact .lease (static_runLifecycleAction (by simp))
      | shutdown => exact .lease (static_runLifecycleAction (by simp))
      | erase => exact .lease (static_runLifecycleAction (by simp))
      | repair => cases hstatic
  | hostStatus => exact section_hostStatusBroker
  | doctor => exact absurd rfl hdoctor
  | explain purposeId explicitAlias => exact section_explainLeaseBroker
  | validateProject => exact section_validateProjectBroker
  | forgetProject projectId => exact .lease static_forgetKnownProject
  | checkCapacity options => exact absurd rfl (hcheck options)
  | idleStatus => exact section_idleStatusBroker
  | enableIdle actor graceSeconds => exact section_enableIdlePolicyBroker
  | disableIdle actor => exact section_disableIdlePolicyBroker
  | reconcileIdle options => exact .lease static_reconcileIdle
  | previewIdleCleanup => exact section_previewIdleCleanupBroker
  | applyIdleCleanup actor confirmPlanId persistNoChanges => exact section_applyIdleCleanupBroker
  | appSnapshot skipLeaseIds => exact section_writeAppSnapshotArtifactUnderMutationLock
  | _ => cases hstatic

end SimulatorBroker.Broker
