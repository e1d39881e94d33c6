import SimulatorBroker.Broker.Load
import SimulatorBroker.Effects.Frame

/-!
# What a load performs

A state load may remove lease files, write records and the registry and report what
it reclaimed.  It never replaces the host config and never touches a simulator.
-/

namespace SimulatorBroker.Broker

open SimulatorBroker.Effects
open SimulatorBroker.State

/-- The operations of a state load. -/
def loads : BrokerOp → Bool
  | .rename (.registry _ _) | .rename (.lease _) | .rename (.artifact _ _)
  | .rename (.knownProjects _) => true
  | .rename _ => false
  | .appendEvent event => decide (event.type ∈ [.leaseReclaimed, .leaseContained])
  | .unlinkPin _ | .unlinkIdlePolicy | .createDevice _ _ _ | .renameDevice _ _
  | .shutdownDevice _ _ | .eraseDevice _ _ | .deleteDevice _ _ | .bootDevice _
  | .waitForBooted _ => false
  | _ => true

abbrev Loading {α : Type} (body : Broker α) : Prop :=
  body.All fun op => loads op = true

variable {paths : BrokerPaths} {lease : Lease} {timestamp : Timestamp} {registry : Registry}

/-! ## Files -/

theorem loading_writeJsonAtomic {file : FileWrite} (hfile : loads (.rename file) = true) :
    Loading (writeJsonAtomic file) := by
  unfold writeJsonAtomic
  exact .bind (.request rfl) fun _ => .bind (.request rfl) fun _ => .request hfile

theorem loading_writeJsonAtomicRestricted {file : FileWrite}
    (hfile : loads (.rename file) = true) : Loading (writeJsonAtomicRestricted file) := by
  unfold writeJsonAtomicRestricted
  exact .bind (.request rfl) fun _ => .bind (.request rfl) fun _ => .bind (.request rfl)
    fun _ => .bind (.request hfile) fun _ => .request rfl

theorem loading_appendEventRecord {event : Event}
    (hevent : event.type ∈ [EventType.leaseReclaimed, .leaseContained]) :
    Loading (appendEventRecord event) := by
  unfold appendEventRecord recordAuditAppendFailure ignoringErrors
  refine .tryCatch (.bind (.request (decide_eq_true hevent)) fun _ => .pure _) fun _ => ?_
  exact .bind (.tryCatch (.request rfl) fun _ => .pure _) fun _ => .pure _

theorem loading_assertLeaseArtifactPathAllowed {path : Option ArtifactPath} :
    Loading (assertLeaseArtifactPathAllowed paths path) := by
  unfold assertLeaseArtifactPathAllowed
  cases path with
  | none => exact .pure _
  | some path =>
      simp only
      split
      · exact .pure _
      · exact .throw _

theorem loading_removeLeaseRecordFiles {site : UnlinkSite} :
    Loading (removeLeaseRecordFiles paths lease site) := by
  unfold removeLeaseRecordFiles removeArtifact
  refine .bind loading_assertLeaseArtifactPathAllowed fun _ => .bind (.request rfl) fun _ => ?_
  cases lease.artifactPath with
  | none => exact .pure _
  | some path => exact .request rfl

theorem loading_restoreLeaseRecordFiles {snapshot : LeaseFilesSnapshot} :
    Loading (restoreLeaseRecordFiles snapshot) := by
  have hartifact : Loading (restoreArtifactFile snapshot) := by
    unfold restoreArtifactFile
    cases snapshot.artifactPath with
    | none => exact .pure _
    | some path =>
        cases snapshot.artifact with
        | none => exact .request rfl
        | some content => exact loading_writeJsonAtomic rfl
  unfold restoreLeaseRecordFiles
  cases snapshot.canonical with
  | none => exact .bind (.request rfl) fun _ => hartifact
  | some record => exact .bind (loading_writeJsonAtomicRestricted rfl) fun _ => hartifact

theorem loading_writeLeaseArtifact {replaceArtifact : Bool} :
    Loading (writeLeaseArtifact lease replaceArtifact) := by
  unfold writeLeaseArtifact
  cases lease.artifactPath with
  | none => exact .pure _
  | some path =>
      simp only
      split
      · exact loading_writeJsonAtomic rfl
      · refine .tryCatch ?_ fun error => ?_
        · unfold writeJsonNoReplace
          exact .bind (.request rfl) fun _ =>
            .ensuring (.bind (.request rfl) fun _ => .request rfl) (.request rfl)
        · split
          · exact .throw _
          · exact .throw _

theorem loading_writeLeaseRecord {replaceArtifact : Bool} :
    Loading (writeLeaseRecord paths lease replaceArtifact) := by
  unfold writeLeaseRecord
  refine .bind loading_assertLeaseArtifactPathAllowed fun _ => .bind ?_ fun snapshot => ?_
  · unfold snapshotLeaseRecordFiles readLeaseArtifact
    refine .bind ?_ fun _ => .bind (.request rfl) fun _ => .pure _
    cases lease.artifactPath with
    | none => exact .pure _
    | some path => exact .request rfl
  · refine .bind (loading_writeJsonAtomicRestricted rfl) fun _ =>
      .tryCatch loading_writeLeaseArtifact fun error => .bind ?_ fun _ => .throw _
    exact .tryCatch loading_restoreLeaseRecordFiles fun _ => .pure _

/-! ## The lease files -/

theorem loading_leaseOwnerIsLive {sampled : Option (List ProcessRecord)} :
    Loading (leaseOwnerIsLive lease sampled timestamp) := by
  unfold leaseOwnerIsLive
  refine .bind (.request rfl) fun exists? => ?_
  split
  · split
    · exact .pure _
    · split
      · refine .bind ?_ fun _ => .pure _
        unfold sampleOnce
        cases sampled with
        | none => exact .request rfl
        | some records => exact .pure _
      · exact .pure _
  · exact .pure _

theorem loading_containLeaseRecord {reason : ContainmentReason} {now : Option Timestamp} :
    Loading (containLeaseRecord paths registry lease reason now) := by
  have hnow : Loading (nowIso now) := by
    unfold nowIso
    cases now with
    | none => exact .request rfl
    | some fixed => exact .pure _
  unfold containLeaseRecord
  refine .bind hnow fun at? => .bind (.request rfl) fun outcome => ?_
  cases outcome with
  | notContained observation => exact .bind loading_writeLeaseRecord fun _ => .pure _
  | contained result =>
      dsimp only
      split
      · refine .bind hnow fun releasedAt => .bind ?_ fun released => .bind (.request rfl)
          fun _ => .bind (loading_appendEventRecord (by simp)) fun _ => .pure _
        unfold removeLeaseAfterContainment
        refine .bind loading_assertLeaseArtifactPathAllowed fun _ => ?_
        simp only
        split
        · exact .bind (loading_writeJsonAtomicRestricted rfl) fun _ =>
            .bind loading_removeLeaseRecordFiles fun _ => .pure _
        · exact .bind loading_removeLeaseRecordFiles fun _ => .pure _
      · exact .bind (.request rfl) fun _ => .bind loading_writeLeaseRecord fun _ => .pure _

theorem loading_scanLease {skipLeaseIds : List LeaseId} {scan : LoadScan} :
    Loading (scanLease paths skipLeaseIds timestamp scan lease) := by
  unfold scanLease
  split
  · exact .pure _
  · split
    · unfold reclaimLeftoverAcquireRollbackLease
      refine .bind (.bind loading_removeLeaseRecordFiles fun _ => .bind
        (loading_appendEventRecord (by simp)) fun _ => .pure _) fun _ => .pure _
    · refine .bind loading_leaseOwnerIsLive fun answer => ?_
      simp only
      split
      · exact .pure _
      · split
        · refine .bind loading_containLeaseRecord fun record => ?_
          cases record <;> exact .pure _
        · unfold reclaimStaleLease
          exact .bind (.bind loading_removeLeaseRecordFiles fun _ => .bind
            (loading_appendEventRecord (by simp)) fun _ => .pure _) fun _ => .pure _

/-! ## The load -/

theorem loading_readHostConfigOrThrow : Loading readHostConfigOrThrow := by
  unfold readHostConfigOrThrow
  refine .bind (.request rfl) fun config => ?_
  cases config with
  | none => exact .throw _
  | some config =>
      simp only [validateHostConfig]
      split
      · exact .pure _
      · exact .throw _

theorem loading_readSimctlInventory : Loading readSimctlInventory := by
  unfold readSimctlInventory
  exact .bind (.request rfl) fun _ => .bind (.request rfl) fun _ => .bind (.request rfl)
    fun _ => .pure _

theorem loading_syncRegistryWithSimctl {config : HostConfig}
    {inventory : Option SimctlInventory} :
    Loading (syncRegistryWithSimctl config registry inventory) := by
  unfold syncRegistryWithSimctl
  cases inventory with
  | none => exact .bind loading_readSimctlInventory fun _ => .pure _
  | some inventory => exact .pure _

theorem loading_writeLoadedRegistry {options : LoadOptions} :
    Loading (writeLoadedRegistry options registry) := by
  unfold writeLoadedRegistry writeIdleRegistry
  split
  · exact .tryCatch (loading_writeJsonAtomicRestricted rfl) fun _ => .throw _
  · exact loading_writeJsonAtomicRestricted rfl

theorem loading_loadBrokerState {options : LoadOptions} :
    Loading (loadBrokerState paths options) := by
  unfold loadBrokerState ensureStatePaths
  refine .bind (.request rfl) fun _ => .bind loading_readHostConfigOrThrow fun config => ?_
  refine .bind (.request rfl) fun projects => .bind (.request rfl) fun registry =>
    .bind (.request rfl) fun pins => .bind (.request rfl) fun leases =>
      .bind (.foldlM (fun _ _ => loading_scanLease) _ _) fun scan => ?_
  exact .bind loading_syncRegistryWithSimctl fun _ => .bind loading_writeLoadedRegistry
    fun _ => .bind (loading_writeJsonAtomicRestricted rfl) fun _ => .pure _

end SimulatorBroker.Broker
