import SimulatorBroker.Broker.Commands
import SimulatorBroker.Effects.Frame

/-!
# The parts of a command that replace no lease file

Reads, the registry, events, locks, the simulators: none of them replaces a lease file
or the host config.
-/

namespace SimulatorBroker.Broker

open SimulatorBroker.Effects
open SimulatorBroker.State

/-- Neither the host config nor a lease file is replaced. -/
def plain : BrokerOp → Bool
  | .rename (.hostConfig _) | .rename (.lease _) => false
  | _ => true

abbrev Plain {α : Type} (body : Broker α) : Prop :=
  body.All fun op => plain op = true

variable {α : Type} {paths : BrokerPaths} {lease : Lease} {timestamp : Timestamp}
  {registry : Registry}

theorem plain_ignoringErrors {body : Broker Unit} (hbody : Plain body) :
    Plain (ignoringErrors body) :=
  .tryCatch hbody fun _ => .pure _

/-! ## Files -/

theorem plain_writeJsonAtomic {file : FileWrite} (hfile : plain (.rename file) = true) :
    Plain (writeJsonAtomic file) := by
  unfold writeJsonAtomic
  exact .bind (.request rfl) fun _ => .bind (.request rfl) fun _ => .request hfile

theorem plain_writeJsonAtomicRestricted {file : FileWrite} (hfile : plain (.rename file) = true) :
    Plain (writeJsonAtomicRestricted file) := by
  unfold writeJsonAtomicRestricted
  exact .bind (.request rfl) fun _ => .bind (.request rfl) fun _ => .bind (.request rfl)
    fun _ => .bind (.request hfile) fun _ => .request rfl

theorem plain_writeRegistry {note : RegistryNote} : Plain (writeRegistry registry note) :=
  plain_writeJsonAtomicRestricted rfl

theorem plain_writeKnownProjects {projects : List ProjectConfig} :
    Plain (writeKnownProjects projects) :=
  plain_writeJsonAtomicRestricted rfl

theorem plain_appendEventRecord {event : Event} : Plain (appendEventRecord event) := by
  unfold appendEventRecord recordAuditAppendFailure
  refine .tryCatch (.bind (.request rfl) fun _ => .pure _) fun _ => .bind ?_ fun _ => .pure _
  exact plain_ignoringErrors (.request rfl)

theorem plain_assertLeaseArtifactPathAllowed {path : Option ArtifactPath} :
    Plain (assertLeaseArtifactPathAllowed paths path) := by
  unfold assertLeaseArtifactPathAllowed
  cases path with
  | none => exact .pure _
  | some path =>
      simp only
      split
      · exact .pure _
      · exact .throw _

theorem plain_assertLeaseArtifactPathUnused {leases : List Lease} {path : Option ArtifactPath}
    {ignored : Option LeaseId} : Plain (assertLeaseArtifactPathUnused paths leases path ignored) := by
  unfold assertLeaseArtifactPathUnused
  cases path with
  | none => exact .pure _
  | some path =>
      simp only
      split
      · exact .throw _
      · exact .pure _

theorem plain_removeLeaseRecordFiles {site : UnlinkSite} :
    Plain (removeLeaseRecordFiles paths lease site) := by
  unfold removeLeaseRecordFiles removeArtifact
  refine .bind plain_assertLeaseArtifactPathAllowed fun _ => .bind (.request rfl) fun _ => ?_
  cases lease.artifactPath with
  | none => exact .pure _
  | some path => exact .request rfl

theorem plain_writeLeaseArtifact {replaceArtifact : Bool} :
    Plain (writeLeaseArtifact lease replaceArtifact) := by
  unfold writeLeaseArtifact
  cases lease.artifactPath with
  | none => exact .pure _
  | some path =>
      simp only
      split
      · exact plain_writeJsonAtomic rfl
      · refine .tryCatch ?_ fun error => ?_
        · unfold writeJsonNoReplace
          exact .bind (.request rfl) fun _ =>
            .ensuring (.bind (.request rfl) fun _ => .request rfl) (.request rfl)
        · split
          · exact .throw _
          · exact .throw _

/-! ## The load -/

theorem plain_readHostConfigOrThrow : Plain readHostConfigOrThrow := by
  unfold readHostConfigOrThrow
  refine .bind (.request rfl) fun config => ?_
  cases config with
  | none => exact .throw _
  | some config =>
      simp only [validateHostConfig]
      split
      · exact .pure _
      · exact .throw _

theorem plain_syncRegistryWithSimctl {config : HostConfig} {inventory : Option SimctlInventory} :
    Plain (syncRegistryWithSimctl config registry inventory) := by
  unfold syncRegistryWithSimctl
  cases inventory with
  | none =>
      unfold readSimctlInventory
      refine .bind (.bind (.request rfl) fun _ => .bind (.request rfl) fun _ =>
        .bind (.request rfl) fun _ => .pure _) fun _ => .pure _
  | some inventory => exact .pure _

theorem plain_leaseOwnerIsLive {sampled : Option (List ProcessRecord)} :
    Plain (leaseOwnerIsLive lease sampled timestamp) := by
  unfold leaseOwnerIsLive
  refine .bind (.request rfl) fun exists? => ?_
  split
  · split
    · exact .pure _
    · split
      · refine .bind ?_ fun _ => .pure _
        unfold sampleOnce
        cases sampled with
        | none => exact .request rfl
        | some records => exact .pure _
      · exact .pure _
  · exact .pure _

theorem plain_nowIso {now : Option Timestamp} : Plain (nowIso now) := by
  unfold nowIso
  cases now with
  | none => exact .request rfl
  | some fixed => exact .pure _

theorem plain_removeLeaseAfterContainment :
    Plain (removeLeaseAfterContainment paths registry lease timestamp) := by
  unfold removeLeaseAfterContainment
  refine .bind plain_assertLeaseArtifactPathAllowed fun _ => ?_
  simp only
  split
  · exact .bind plain_writeRegistry fun _ => .bind plain_removeLeaseRecordFiles fun _ => .pure _
  · exact .bind plain_removeLeaseRecordFiles fun _ => .pure _

theorem plain_writeLoadedRegistry {options : LoadOptions} :
    Plain (writeLoadedRegistry options registry) := by
  unfold writeLoadedRegistry writeIdleRegistry
  split
  · exact .tryCatch plain_writeRegistry fun _ => .throw _
  · exact plain_writeRegistry

/-! ## Slot reclaim -/

theorem plain_withLock {name : LockName} {work : Broker α} (hwork : Plain work) :
    Plain (withLock name work) := by
  unfold withLock ensureStatePaths
  exact .bind (.request rfl) fun _ => .bind (.request rfl) fun _ => .ensuring hwork (.request rfl)

theorem plain_reclaimSlot {hostAlias : HostAlias} {held : Bool} {scan : ReclaimScan} :
    Plain (reclaimSlot hostAlias held timestamp scan) := by
  unfold reclaimSlot eraseSlot
  refine .bind (.attempt (plain_withLock ?_)) fun outcome => ?_
  · split
    · exact .bind (.throw _) fun _ => .bind (.request rfl) fun _ => .request rfl
    · exact .bind (.request rfl) fun _ => .request rfl
  · cases outcome with
    | ok value => exact .bind plain_appendEventRecord fun _ => .pure _
    | error error =>
        simp only
        split
        · exact .pure _
        · exact .bind plain_appendEventRecord fun _ => .pure _

theorem plain_reclaimAlias {state : BrokerState} {policy : SlotReclaimPolicy}
    {acquiring : Option AliasName} {scan : ReclaimScan} {hostAlias : HostAlias} :
    Plain (reclaimAlias state policy acquiring timestamp scan hostAlias) := by
  unfold reclaimAlias
  split
  · exact .pure _
  · simp only
    split
    · exact .pure _
    · split
      · exact .pure _
      · split
        · refine .bind ?_ fun _ => .bind (.tryCatch (.request rfl) fun _ => .pure _)
            fun diskBytes => ?_
          · unfold sharedDeviceListing
            split
            · exact .pure _
            · exact plain_ignoringErrors (.bind (.request rfl) fun _ => .pure _)
          · split
            · exact .pure _
            · exact plain_reclaimSlot
        · exact .pure _

theorem plain_performSlotReclaim {state : BrokerState} {options : ReclaimOptions} :
    Plain (performSlotReclaim state timestamp options) := by
  unfold performSlotReclaim reclaimAliases
  refine .bind ?_ fun scan => ?_
  · simp only
    split
    · exact .foldlM (fun _ _ => plain_reclaimAlias) _ _
    · exact .pure _
  · simp only
    split
    · exact .bind plain_writeRegistry fun _ => .pure _
    · exact .pure _

/-! ## Flags -/

/-! ## Acquiring -/

theorem plain_getPurpose {project : ProjectConfig} {purposeId : PurposeId} :
    Plain (getPurpose project purposeId) := by
  unfold getPurpose
  split
  · exact .throw _
  · exact .pure _

theorem plain_maybeResetLeaseOnAcquire : Plain (maybeResetLeaseOnAcquire registry lease) := by
  unfold maybeResetLeaseOnAcquire
  split
  · exact .pure _
  · refine .bind (.attempt (plain_withLock (.bind (.request rfl) fun _ => .request rfl)))
      fun outcome => ?_
    cases outcome with
    | error error => exact .pure _
    | ok value =>
        refine .bind (.attempt plain_writeRegistry) fun outcome => ?_
        cases outcome with
        | error error => exact .pure _
        | ok value => exact .pure _

theorem plain_findHostAliasOrThrow {config : HostConfig} {name : AliasName} :
    Plain (findHostAliasOrThrow config name) := by
  unfold findHostAliasOrThrow
  split
  · exact .throw _
  · exact .pure _

theorem plain_invokeLifecycleAdapter {action : Broker α} (haction : Plain action) :
    Plain (invokeLifecycleAdapter action) := by
  unfold invokeLifecycleAdapter
  refine .tryCatch haction fun error => ?_
  split
  · exact .throw _
  · exact .throw _

theorem plain_maybeBootLeaseOnAcquire {config : HostConfig} :
    Plain (maybeBootLeaseOnAcquire config registry lease) := by
  unfold maybeBootLeaseOnAcquire
  refine .bind (.attempt (.bind plain_findHostAliasOrThrow fun hostAlias => ?_)) fun outcome => ?_
  · split
    · exact plain_invokeLifecycleAdapter (.request rfl)
    · exact plain_invokeLifecycleAdapter (.request rfl)
  · cases outcome with
    | error error => exact .pure _
    | ok value =>
        simp only
        split
        · exact .pure _
        · refine .bind (.attempt plain_writeRegistry) fun outcome => ?_
          cases outcome with
          | error error => exact .pure _
          | ok value => exact .bind plain_appendEventRecord fun _ => .pure _

theorem plain_rollbackAcquireLeaseFailureSafe {reason : String} {erased : List AliasName} :
    Plain (rollbackAcquireLeaseFailureSafe paths registry lease timestamp reason erased) := by
  unfold rollbackAcquireLeaseFailureSafe rollbackAcquireLease
  exact plain_ignoringErrors (.bind plain_writeRegistry fun _ => plain_removeLeaseRecordFiles)

theorem plain_handOutLease {config : HostConfig} :
    Plain (handOutLease paths config registry lease timestamp) := by
  unfold handOutLease
  refine .bind plain_maybeResetLeaseOnAcquire fun reset => ?_
  split
  · exact .bind plain_rollbackAcquireLeaseFailureSafe fun _ => .throw _
  · refine .bind plain_maybeBootLeaseOnAcquire fun boot => ?_
    split
    · exact .bind plain_rollbackAcquireLeaseFailureSafe fun _ => .throw _
    · exact .pure _

end SimulatorBroker.Broker
