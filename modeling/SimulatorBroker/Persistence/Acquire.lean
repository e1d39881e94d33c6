import SimulatorBroker.Persistence.Loads

/-!
# The registry writes of a reclaim and of an acquire

Each changes the entries of the loaded registry in ways the reader accepts.
-/

namespace SimulatorBroker.Persistence

open SimulatorBroker.Effects
open SimulatorBroker.State
open SimulatorBroker.Broker

variable {surroundings : Surroundings} {names : DiskNames} {α : Type} {paths : BrokerPaths}
  {lease : Lease} {timestamp : Timestamp} {registry : Registry} {state : BrokerState}

/-! ## Slot reclaim -/

theorem Ready.withRegistry (hready : Ready names state) (haccepts : Accepts names registry) :
    Ready names (state.withRegistry registry) :=
  ⟨hready.disk, haccepts⟩

theorem silent_withLock {name : LockName} {work : Broker α} (hwork : Silent work) :
    Silent (withLock name work) := by
  unfold withLock ensureStatePaths
  exact .bind (.request rfl) fun _ => .bind (.request rfl) fun _ => .ensuring hwork (.request rfl)

theorem silent_eraseSlot {hostAlias : HostAlias} {held : Bool} :
    Silent (eraseSlot hostAlias held) := by
  unfold eraseSlot
  refine silent_withLock ?_
  split
  · exact .bind (.throw _) fun _ => .bind (.request rfl) fun _ => .request rfl
  · exact .bind (.request rfl) fun _ => .request rfl

theorem knownCause_reclaimedEntry {entry : RegistryEntry} (hcause : KnownCause entry) :
    KnownCause (reclaimedEntry timestamp entry) := by
  unfold reclaimedEntry resetLeasesSinceErase
  dsimp only
  split
  · exact hcause
  · exact hcause

theorem keeps_reclaimSlot {hostAlias : HostAlias} {held : Bool} {scan : ReclaimScan}
    (haccepts : Accepts names scan.registry) :
    Keeps surroundings names (reclaimSlot hostAlias held timestamp scan)
      fun after => Accepts names after.registry := by
  unfold reclaimSlot
  refine .seq (.attempt (P := fun _ => True) (.silent silent_eraseSlot) (fun _ _ => trivial)
    fun _ => trivial) fun outcome _ => ?_
  cases outcome with
  | ok value =>
      exact .seq (.silent silent_appendEventRecord) fun _ _ =>
        .pure (haccepts.modify fun _ => knownCause_reclaimedEntry)
  | error error =>
      dsimp only
      split
      · exact .pure haccepts
      · exact .seq (.silent silent_appendEventRecord) fun _ _ =>
          .pure (haccepts.modify fun _ h => h)

theorem keeps_reclaimAlias {policy : SlotReclaimPolicy} {acquiring : Option AliasName}
    {scan : ReclaimScan} {hostAlias : HostAlias} (haccepts : Accepts names scan.registry) :
    Keeps surroundings names (reclaimAlias state policy acquiring timestamp scan hostAlias)
      fun after => Accepts names after.registry := by
  unfold reclaimAlias
  cases scan.registry.aliases hostAlias.aliasName with
  | none => exact .pure haccepts
  | some entry =>
      dsimp only
      split
      · exact .pure haccepts
      · split
        · exact .pure haccepts
        · split
          · refine .seq (M := fun _ => True) ?_ fun _ _ => .seq (.silent ?_) fun diskBytes _ => ?_
            · unfold sharedDeviceListing
              split
              · exact .pure trivial
              · exact .ignoringErrors (.silent (.bind (.request rfl) fun _ => .pure _))
            · unfold measureAliasDiskBytes
              exact .tryCatch (.request rfl) fun _ => .pure _
            · split
              · exact .pure haccepts
              · exact keeps_reclaimSlot haccepts
          · exact .pure haccepts

theorem slotReclaimStatus_ne (reclaimedCount failureCount : Nat) :
    slotReclaimStatus reclaimedCount failureCount ≠ "" := by
  unfold slotReclaimStatus
  split
  · decide
  · split
    · decide
    · split <;> decide

/-- A registry that records the result of a reclaim. -/
theorem Accepts.reclaimed (haccepts : Accepts names registry) (timestamp : Timestamp)
    (result : ReclaimResult) (hsource : result.source ≠ "") (hstatus : result.status ≠ "") :
    Accepts names { registry with lastReclaimResult := some result, updatedAt := timestamp } where
  labelled := by
    refine ⟨haccepts.labelled.codes, haccepts.labelled.cleanup, ?_⟩
    rintro _ ⟨⟩
    exact ⟨hsource, hstatus⟩
  covers := haccepts.covers

theorem keeps_performSlotReclaim {options : ReclaimOptions} (hsource : options.source ≠ "")
    (hready : Ready names state) :
    Keeps surroundings names (performSlotReclaim state timestamp options)
      fun after => Ready names after.1 := by
  unfold performSlotReclaim
  refine .seq (M := fun scan : ReclaimScan => Accepts names scan.registry) ?_ fun scan hscan => ?_
  · unfold reclaimAliases
    dsimp only
    split
    · exact .foldlM (I := fun scan : ReclaimScan => Accepts names scan.registry) _
        (fun _ _ hscan => keeps_reclaimAlias hscan) hready.accepts
    · exact .pure hready.accepts
  · dsimp only
    split
    · have hreclaimed := hscan.reclaimed timestamp (scan.result timestamp options.source) hsource
        (slotReclaimStatus_ne _ _)
      exact .seq (.writeRegistry hreclaimed) fun _ _ => .pure (hready.withRegistry hreclaimed)
    · exact .pure (hready.withRegistry hscan)

/-! ## Acquire -/

theorem silent_requireContainmentRootInteger {value : Nat} :
    Silent (requireContainmentRootInteger value) := by
  unfold requireContainmentRootInteger
  split
  · exact .pure _
  · exact .throw _

theorem silent_optionalContainmentGroupInteger {value : Option Nat} :
    Silent (optionalContainmentGroupInteger value) := by
  unfold optionalContainmentGroupInteger
  cases value with
  | none => exact .pure _
  | some value =>
      dsimp only
      split
      · exact .pure _
      · exact .throw _

theorem silent_validateRegisteredOwnerGroup {ownerPid ownerPgid : Option Pid} {live : Bool} :
    Silent (validateRegisteredOwnerGroup ownerPid ownerPgid live) := by
  unfold validateRegisteredOwnerGroup
  split
  · refine .bind (.request rfl) fun records => ?_
    split
    · split
      · exact .throw _
      · exact .pure _
    · split
      · exact .throw _
      · split
        · exact .throw _
        · exact .pure _
  · exact .pure _

theorem silent_assertLeaseArtifactPathUnused {leases : List Lease} {path : Option ArtifactPath}
    {ignored : Option LeaseId} :
    Silent (assertLeaseArtifactPathUnused paths leases path ignored) := by
  unfold assertLeaseArtifactPathUnused
  cases path with
  | none => exact .pure _
  | some path =>
      dsimp only
      split
      · exact .throw _
      · exact .pure _

theorem silent_getPurpose {project : ProjectConfig} {purposeId : PurposeId} :
    Silent (getPurpose project purposeId) := by
  unfold getPurpose
  split
  · exact .throw _
  · exact .pure _

theorem silent_findHostAliasOrThrow {config : HostConfig} {name : AliasName} :
    Silent (findHostAliasOrThrow config name) := by
  unfold findHostAliasOrThrow
  split
  · exact .throw _
  · exact .pure _

theorem silent_rememberKnownProject {projects : List ProjectConfig} {project : ProjectConfig} :
    Silent (rememberKnownProject projects project) := by
  unfold rememberKnownProject
  exact .bind silent_writeKnownProjects fun _ => .pure _

theorem silent_invokeLifecycleAdapter {action : Broker α} (haction : Silent action) :
    Silent (invokeLifecycleAdapter action) := by
  unfold invokeLifecycleAdapter
  refine .tryCatch haction fun error => ?_
  split
  · exact .throw _
  · exact .throw _

theorem keeps_acquireSelection {options : AcquireOptions} :
    Keeps surroundings names (acquireSelection paths options timestamp)
      fun selection => Ready names selection.state := by
  unfold acquireSelection
  refine .seq keeps_loadBrokerState fun state hready => .seq (.silent (.request rfl))
    fun project _ => .seq (.silent silent_rememberKnownProject) fun projects _ =>
      .seq (.silent silent_getPurpose) fun purpose _ => ?_
  dsimp only
  split
  · exact .throw
  · exact .pure ⟨hready.disk, hready.accepts⟩

theorem keeps_rollbackAcquireLeaseFailureSafe {reason : String} {erased : List AliasName}
    (haccepts : Accepts names registry) :
    Keeps surroundings names
      (rollbackAcquireLeaseFailureSafe paths registry lease timestamp reason erased)
      fun _ => True := by
  unfold rollbackAcquireLeaseFailureSafe rollbackAcquireLease
  exact .ignoringErrors (.seq (.writeRegistry (haccepts.update _ _ _ fun _ h => h)) fun _ _ =>
    .silent silent_removeLeaseRecordFiles)

/-- A registry write whose failure is only noted. -/
theorem keeps_attempt_writeRegistry {note : RegistryNote} (haccepts : Accepts names registry) :
    Keeps surroundings names (writeRegistry registry note).attempt fun _ => True :=
  .attempt (.writeRegistry haccepts) (fun _ _ => trivial) fun _ => trivial

theorem keeps_maybeResetLeaseOnAcquire (haccepts : Accepts names registry) :
    Keeps surroundings names (maybeResetLeaseOnAcquire registry lease)
      fun progress => Accepts names progress.registry := by
  unfold maybeResetLeaseOnAcquire
  split
  · exact .pure haccepts
  · refine .seq (.attempt (P := fun _ => True) (.silent (silent_withLock
      (.bind (.request rfl) fun _ => .request rfl))) (fun _ _ => trivial) fun _ => trivial)
        fun outcome _ => ?_
    have hreset := haccepts.update lease.aliasName lease.startedAt
      (resetEntry lease.startedAt) fun _ h => h
    cases outcome with
    | error error => exact .pure haccepts
    | ok value =>
        refine .seq (keeps_attempt_writeRegistry hreset) fun outcome _ => ?_
        cases outcome with
        | error error => exact .pure hreset
        | ok value => exact .pure hreset

theorem keeps_maybeBootLeaseOnAcquire {config : HostConfig} (haccepts : Accepts names registry) :
    Keeps surroundings names (maybeBootLeaseOnAcquire config registry lease)
      fun progress => Accepts names progress.registry := by
  unfold maybeBootLeaseOnAcquire
  refine .seq (.attempt (P := fun _ => True) (.silent (.bind silent_findHostAliasOrThrow
    fun hostAlias => ?_)) (fun _ _ => trivial) fun _ => trivial) fun outcome _ => ?_
  · split
    · exact silent_invokeLifecycleAdapter (.request rfl)
    · exact silent_invokeLifecycleAdapter (.request rfl)
  · have hrunning := haccepts.update lease.aliasName lease.startedAt
      (bootedEntry lease.startedAt) fun _ h => h
    cases outcome with
    | error error => exact .pure haccepts
    | ok value =>
        dsimp only
        split
        · exact .pure haccepts
        · refine .seq (keeps_attempt_writeRegistry hrunning) fun outcome _ => ?_
          cases outcome with
          | error error => exact .pure hrunning
          | ok value =>
              exact .seq (.silent silent_appendEventRecord) fun _ _ => .pure hrunning

theorem keeps_handOutLease {config : HostConfig} (haccepts : Accepts names registry) :
    Keeps surroundings names (handOutLease paths config registry lease timestamp)
      fun _ => True := by
  unfold handOutLease
  refine .seq (keeps_maybeResetLeaseOnAcquire haccepts) fun reset hreset => ?_
  split
  · exact .seq (keeps_rollbackAcquireLeaseFailureSafe hreset) fun _ _ => .throw
  · refine .seq (keeps_maybeBootLeaseOnAcquire hreset) fun boot hboot => ?_
    split
    · exact .seq (keeps_rollbackAcquireLeaseFailureSafe hboot) fun _ _ => .throw
    · exact .pure trivial

theorem keeps_commitAcquiredLease (haccepts : Accepts names registry) :
    Keeps surroundings names (commitAcquiredLease paths registry lease timestamp)
      (Accepts names) := by
  have hleased := haccepts.update lease.aliasName timestamp
    (leasedEntry lease.leaseId timestamp) fun _ h => h
  unfold commitAcquiredLease
  refine .seq (.silent silent_writeLeaseRecord) fun _ _ => .seq (M := fun _ => True) ?_
    fun _ _ => .pure hleased
  exact .tryCatch (.writeRegistry hleased) fun error =>
    .seq (.silent silent_removeLeaseRecordFiles) fun _ _ => .throw

theorem keeps_acquireLeaseBroker {options : AcquireOptions} :
    Keeps surroundings names (acquireLeaseBroker paths options) fun _ => True := by
  refine .withLock ?_
  unfold acquireLease
  refine .seq (.silent (.request rfl)) fun timestamp _ => .seq keeps_acquireSelection
    fun selection hready => .seq (.silent (.request rfl)) fun leaseId _ =>
      .seq (.silent silent_requireContainmentRootInteger) fun ownerPid _ =>
        .seq (.silent silent_optionalContainmentGroupInteger) fun ownerPgid _ =>
          .seq (.silent silent_validateRegisteredOwnerGroup) fun _ _ =>
            .seq (.silent silent_assertLeaseArtifactPathUnused) fun _ _ => ?_
  refine .seq (keeps_performSlotReclaim (by simp) hready) fun reclaimed hreclaimed => ?_
  obtain ⟨after, reclaim⟩ := reclaimed
  dsimp only
  split
  · exact .seq (M := fun _ => True) .throw fun _ _ => .seq
      (keeps_commitAcquiredLease hreclaimed.accepts) fun committed hcommitted => .seq
        (keeps_handOutLease hcommitted) fun _ _ => .seq (.silent silent_appendEventRecord)
          fun _ _ => .pure trivial
  · exact .seq (keeps_commitAcquiredLease hreclaimed.accepts) fun committed hcommitted => .seq
      (keeps_handOutLease hcommitted) fun _ _ => .seq (.silent silent_appendEventRecord)
        fun _ _ => .pure trivial

end SimulatorBroker.Persistence
