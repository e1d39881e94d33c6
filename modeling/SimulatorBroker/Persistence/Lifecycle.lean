import SimulatorBroker.Hosting.Repair
import SimulatorBroker.Persistence.Acquire

/-!
# The registry writes of the other lease and lifecycle commands

Register, contain and release, pins, queries, the idle commands, and the lifecycle actions, whose
repair replaces the host config by one with the same alias names.
-/

namespace SimulatorBroker.Persistence

open SimulatorBroker.Effects
open SimulatorBroker.State
open SimulatorBroker.Broker

variable {surroundings : Surroundings} {names : DiskNames} {α : Type} {paths : BrokerPaths}
  {lease : Lease} {timestamp : Timestamp} {registry : Registry} {state : BrokerState}

/-! ## Register, contain, release -/

theorem silent_loadLeaseByIdOrFile {reference : LeaseReference} :
    Silent (loadLeaseByIdOrFile reference) := by
  unfold loadLeaseByIdOrFile
  refine .bind ?_ fun leaseId => ?_
  · unfold resolveLeaseId
    split
    · exact .pure _
    · unfold readLeaseFileId
      refine .bind (.request rfl) fun content => ?_
      split
      · exact .pure _
      · exact .pure _
      · exact .throw _
    · exact .pure _
  · cases leaseId with
    | none => exact .throw _
    | some leaseId =>
        refine .bind (.request rfl) fun lease => ?_
        split
        · exact .throw _
        · exact .pure _

theorem silent_checkOptionalFlag {β γ : Type} {check : β → Broker γ}
    (hcheck : ∀ value, Silent (check value)) (value : Option β) :
    Silent (checkOptionalFlag check value) := by
  cases value with
  | none => exact .pure _
  | some value => exact .bind (hcheck value) fun _ => .pure _

theorem silent_checkRegisterFlags {options : RegisterOptions} :
    Silent (checkRegisterFlags options) := by
  unfold checkRegisterFlags
  exact .bind (silent_checkOptionalFlag (fun _ => silent_optionalContainmentGroupInteger) _)
    fun _ => .bind (silent_checkOptionalFlag (fun _ => silent_optionalContainmentGroupInteger) _)
      fun _ => .bind (silent_checkOptionalFlag (fun _ => silent_requireContainmentRootInteger) _)
        fun _ => .pure _

theorem silent_validateRegisteredCommandGroup {commandPid : Pid} {commandPgid : Option Pid} :
    Silent (validateRegisteredCommandGroup commandPid commandPgid) := by
  unfold validateRegisteredCommandGroup
  cases commandPgid with
  | none => exact .pure _
  | some commandPgid =>
      refine .bind (.request rfl) fun records => ?_
      split
      · exact .throw _
      · split
        · exact .throw _
        · split
          · exact .throw _
          · exact .pure _

theorem keeps_registerLeaseProcessBroker {options : RegisterOptions} :
    Keeps surroundings names (registerLeaseProcessBroker paths options timestamp)
      fun _ => True := by
  refine .withLock ?_
  unfold registerLeaseProcess
  refine .seq (.silent silent_loadLeaseByIdOrFile) fun lease _ => .seq keeps_loadBrokerState
    fun _ _ => .seq (.silent silent_requireContainmentRootInteger) fun commandPid _ =>
      .seq (.silent silent_checkRegisterFlags) fun flags _ => ?_
  exact .seq (.silent silent_validateRegisteredCommandGroup) fun _ _ =>
    .seq (.silent silent_validateRegisteredOwnerGroup) fun _ _ =>
      .seq (.silent silent_writeLeaseRecord) fun _ _ => .seq (.silent silent_appendEventRecord)
        fun _ _ => .pure trivial

theorem keeps_containLeaseBroker {reference : LeaseReference} {reason : ContainmentReason} :
    Keeps surroundings names (containLeaseBroker paths reference reason timestamp)
      fun _ => True := by
  refine .withLock ?_
  unfold containLease
  refine .seq (.silent silent_loadLeaseByIdOrFile) fun lease _ => .seq keeps_loadBrokerState
    fun state hready => .seq (keeps_containLeaseRecord hready.accepts) fun record _ => ?_
  cases record with
  | contained registry => exact .pure trivial
  | notContained lease => exact .pure trivial
  | incomplete lease => exact .throw

theorem keeps_removeReleasedLease (haccepts : Accepts names registry) :
    Keeps surroundings names (removeReleasedLease paths registry lease timestamp)
      (Accepts names) := by
  have hreleased := haccepts.update lease.aliasName timestamp
    (markAliasLeaseReleased timestamp) fun _ h => h
  unfold removeReleasedLease removeLeaseArtifactFile removeCanonicalLeaseRecordFile
  refine .seq (.silent (.bind silent_assertLeaseArtifactPathAllowed fun _ =>
    silent_removeArtifact)) fun _ _ => ?_
  dsimp only
  split
  · exact .seq (.writeRegistry hreleased) fun _ _ => .seq (.silent (.request rfl)) fun _ _ =>
      .pure hreleased
  · exact .seq (.silent (.request rfl)) fun _ _ => .pure haccepts

theorem keeps_releaseLeaseBroker {reference : LeaseReference} :
    Keeps surroundings names (releaseLeaseBroker paths reference) fun _ => True := by
  refine .withLock ?_
  unfold releaseLease
  refine .seq (.silent (.request rfl)) fun timestamp _ => .seq (.silent silent_loadLeaseByIdOrFile)
    fun lease _ => .seq keeps_loadBrokerState fun state hready =>
      .seq (.silent silent_assertLeaseArtifactPathAllowed) fun _ _ =>
        .seq (.silent silent_snapshotLeaseRecordFiles) fun snapshot _ => ?_
  refine .seq (M := Accepts names) (.tryCatch (keeps_removeReleasedLease hready.accepts)
    fun error => .seq (.ignoringErrors (.seq (.silent silent_restoreLeaseRecordFiles) fun _ _ =>
      .writeRegistry hready.accepts)) fun _ _ => .throw) fun released hreleased => ?_
  refine .seq (.silent silent_appendEventRecord) fun _ _ => ?_
  dsimp only
  split
  · have hafter : Ready names ((state.withRegistry released).forgetLease lease.aliasName) :=
      ⟨hready.disk, hreleased⟩
    exact .seq (keeps_performSlotReclaim (by simp) hafter) fun _ _ => .pure trivial
  · exact .pure trivial

/-! ## Pins -/

theorem keeps_writePin {pin : Pin} (haccepts : Accepts names registry) :
    Keeps surroundings names (writePin registry pin timestamp) fun _ => True := by
  unfold writePin
  exact .seq (.silent (silent_writeJsonAtomicRestricted rfl)) fun _ _ =>
    .seq (M := fun _ => True) (.tryCatch (.writeRegistry (haccepts.update _ _ _ fun _ h => h))
      fun error => .seq (.silent (.request rfl)) fun _ _ => .throw) fun _ _ =>
        .seq (.silent silent_appendEventRecord) fun _ _ => .pure trivial

theorem keeps_createPinBroker {options : PinOptions} :
    Keeps surroundings names (createPinBroker paths options timestamp) fun _ => True := by
  refine .withLock ?_
  unfold createPin
  refine .seq keeps_loadBrokerState fun state hready => .seq (.silent (.request rfl))
    fun project _ => .seq (.silent silent_rememberKnownProject) fun _ _ =>
      .seq (.silent silent_getPurpose) fun purpose _ =>
        .seq (.silent silent_findHostAliasOrThrow) fun hostAlias _ =>
          .seq (.silent ?_) fun _ _ => ?_
  · unfold assertAliasServesPurpose
    split
    · exact .throw _
    · exact .pure _
  · split
    · exact .throw
    · unfold pinAlias
      split
      · exact .throw
      · split
        · split
          · exact .pure trivial
          · exact .throw
        · split
          · exact .throw
          · exact .seq (.silent (.request rfl)) fun _ _ => .seq (keeps_writePin hready.accepts)
              fun _ _ => .pure trivial

theorem keeps_clearPinBroker {name : AliasName} :
    Keeps surroundings names (clearPinBroker paths name timestamp) fun _ => True := by
  refine .withLock ?_
  unfold clearPin
  refine .seq keeps_loadBrokerState fun state hready => ?_
  split
  · exact .throw
  · split
    · exact .throw
    · exact .seq (.writeRegistry (hready.accepts.update _ _ _ fun _ h => h)) fun _ _ =>
        .seq (.silent (.request rfl)) fun _ _ => .seq (.silent silent_appendEventRecord)
          fun _ _ => .pure trivial

/-! ## Queries -/

theorem keeps_loadUnderLock :
    Keeps surroundings names (withLock .lease do
      let timestamp ← perform .now
      loadBrokerState paths { timestamp }) (Ready names) :=
  .withLock (.seq (.silent (.request rfl)) fun _ _ => keeps_loadBrokerState)

theorem keeps_doctorBroker :
    Keeps surroundings names (doctorBroker paths) fun _ => True := by
  unfold doctorBroker
  refine .seq (M := fun _ => True) (.tryCatch (.seq keeps_readHostConfigOrThrow fun _ _ =>
    .pure trivial) fun error => ?_) fun readable _ => ?_
  · split
    · exact .pure trivial
    · exact .throw
  · split
    · exact .seq keeps_loadUnderLock fun _ _ => .pure trivial
    · exact .pure trivial

theorem silent_rememberKnownProjectFromDisk {project : ProjectConfig} :
    Silent (rememberKnownProjectFromDisk project) := by
  unfold rememberKnownProjectFromDisk
  exact .bind (.request rfl) fun _ => .bind silent_rememberKnownProject fun _ => .pure _

theorem keeps_explainLeaseBroker {purposeId : PurposeId} {explicitAlias : Option AliasName} :
    Keeps surroundings names (explainLeaseBroker paths purposeId explicitAlias)
      fun _ => True := by
  refine .withLock ?_
  exact .seq (.silent (.request rfl)) fun _ _ => .seq keeps_loadBrokerState fun _ _ =>
    .seq (.silent (.request rfl)) fun _ _ =>
      .seq (.silent silent_rememberKnownProjectFromDisk) fun _ _ =>
        .seq (.silent silent_getPurpose) fun _ _ => .pure trivial

theorem keeps_forgetKnownProjectBroker {projectId : ProjectId} :
    Keeps surroundings names (forgetKnownProjectBroker paths projectId timestamp)
      fun _ => True := by
  refine .withLock ?_
  unfold forgetKnownProject
  refine .seq keeps_loadBrokerState fun state _ => ?_
  split
  · exact .throw
  · split
    · exact .seq (.silent silent_writeKnownProjects) fun _ _ =>
        .seq (.silent silent_appendEventRecord) fun _ _ => .pure trivial
    · exact .pure trivial

theorem keeps_writeAppSnapshotArtifact {skipLeaseIds : List LeaseId} :
    Keeps surroundings names (writeAppSnapshotArtifactUnderMutationLock skipLeaseIds)
      fun _ => True := by
  refine .withLock (.seq (.silent (.request rfl)) fun timestamp _ => ?_)
  unfold writeAppSnapshotArtifact createAppSnapshot
  refine .tryCatch (.seq keeps_readBrokerStateSnapshot fun _ _ => .seq (M := fun _ => True)
    (.seq (.silent (.request rfl)) fun _ _ => .ignoringErrors
      (.silent (.bind (.request rfl) fun _ => .pure _))) fun _ _ =>
        .silent (silent_writeJsonAtomicRestricted rfl)) fun error => ?_
  split
  · exact .pure trivial
  · exact .throw

/-! ## Idle -/

theorem silent_requireHumanIdleActor {actorType : String} {actorId : Option String} :
    Silent (requireHumanIdleActor actorType actorId) := by
  unfold requireHumanIdleActor
  split
  · exact .throw _
  · split
    · exact .throw _
    · exact .pure _

theorem silent_readIdlePolicy : Silent readIdlePolicy := by
  unfold readIdlePolicy
  refine .bind (.tryCatch (.request rfl) fun error => ?_) fun policy => ?_
  · split
    · exact .throw _
    · exact .throw _
  · split
    · exact .pure _
    · split
      · exact .pure _
      · exact .throw _

theorem silent_enableIdlePolicyBroker {actor : IdleActor} {graceSeconds : Nat} :
    Silent (enableIdlePolicyBroker actor graceSeconds) := by
  have hwork : Silent (withLock .lease do
      let timestamp ← perform .now
      tryCatch
        (do
          ensureStatePaths
          writeJsonAtomicRestricted (.idlePolicy graceSeconds))
        fun _ => throw (.broker .internalError)
      let _ ← appendEventRecord { type := .idlePolicyEnabled, timestamp }) :=
    silent_withLock (.bind (.request rfl) fun _ => .bind (.tryCatch (.bind (.request rfl)
      fun _ => silent_writeJsonAtomicRestricted rfl) fun _ => .throw _) fun _ =>
        .bind silent_appendEventRecord fun _ => .pure _)
  unfold enableIdlePolicyBroker
  refine .bind silent_requireHumanIdleActor fun _ => ?_
  dsimp only
  split
  · exact .bind (.throw _) fun _ => hwork
  · exact hwork

theorem silent_disableIdlePolicyBroker {actor : IdleActor} :
    Silent (disableIdlePolicyBroker actor) := by
  unfold disableIdlePolicyBroker
  exact .bind silent_requireHumanIdleActor fun _ => silent_withLock (.bind (.request rfl)
    fun _ => .bind (.tryCatch (.request rfl) fun _ => .throw _) fun _ =>
      .bind silent_appendEventRecord fun _ => .pure _)

theorem keeps_writeIdleRegistry (haccepts : Accepts names registry) :
    Keeps surroundings names (writeIdleRegistry registry) fun _ => True :=
  .tryCatch (.writeRegistry haccepts) fun _ => .throw

theorem keeps_loadPublicSafeIdleState {loader : Broker α} {post : α → Prop}
    (hloader : Keeps surroundings names loader post) :
    Keeps surroundings names (loadPublicSafeIdleState loader) post := by
  unfold loadPublicSafeIdleState
  refine .tryCatch hloader fun error => ?_
  split
  · exact .throw
  · split
    · exact .throw
    · exact .throw

theorem keeps_idleShutdown {scan : IdleScan} {hostAlias : HostAlias}
    (haccepts : Accepts names scan.registry) :
    Keeps surroundings names (idleShutdown scan hostAlias)
      fun after => Accepts names after.registry := by
  unfold idleShutdown adapterShutdown
  refine .seq (.attempt (P := fun _ => True)
    (.silent (silent_invokeLifecycleAdapter (.request rfl))) (fun _ _ => trivial)
      fun _ => trivial) fun outcome _ => ?_
  cases outcome with
  | error error =>
      refine .seq (.silent (.request rfl)) fun attemptTimestamp _ => ?_
      have hfailed := haccepts.update hostAlias.aliasName
        attemptTimestamp (idleFailedEntry attemptTimestamp) fun _ h => h
      exact .seq (keeps_writeIdleRegistry hfailed) fun _ _ =>
        .seq (.silent silent_appendEventRecord) fun _ _ => .pure hfailed
  | ok value =>
      exact .seq (.silent (.request rfl)) fun attemptTimestamp _ =>
        .seq (.silent silent_appendEventRecord) fun _ _ => .pure (haccepts.modify fun _ h => h)

theorem idleCleanupStatus_ne (shutdownCount failureCount : Nat) :
    idleCleanupStatus shutdownCount failureCount ≠ "" := by
  unfold idleCleanupStatus
  split
  · decide
  · split <;> decide

/-- A registry that records the result of a cleanup. -/
theorem Accepts.cleaned (haccepts : Accepts names registry) {result : CleanupResult}
    (hsource : result.source.isLabel = true) (hstatus : result.status ≠ "") :
    Accepts names { registry with lastCleanupResult := some result, updatedAt := timestamp } where
  labelled := by
    refine ⟨haccepts.labelled.codes, ?_, haccepts.labelled.reclaim⟩
    rintro _ ⟨⟩
    exact ⟨hsource, hstatus⟩
  covers := haccepts.covers

theorem keeps_performIdleShutdowns {candidates : List HostAlias} {eventType : EventType}
    {source : Text.Value} {persistNoChanges : Bool} (hsource : source.isLabel = true)
    (haccepts : Accepts names registry) :
    Keeps surroundings names
      (performIdleShutdowns registry candidates timestamp eventType source persistNoChanges)
      fun _ => True := by
  unfold performIdleShutdowns
  refine .seq (.foldlM (I := fun scan : IdleScan => Accepts names scan.registry) _
    (fun _ _ hscan => keeps_idleShutdown hscan) haccepts) fun scan hscan => ?_
  have hrest : ∀ completedAt, Keeps surroundings names (do
      let lastCleanupResult : CleanupResult := {
        completedAt, eligibleCount := candidates.length, failureCount := scan.failureCount
        shutdownCount := scan.shutdownCount, source
        status := idleCleanupStatus scan.shutdownCount scan.failureCount }
      if candidates ≠ [] ∨ persistNoChanges = true then
        writeIdleRegistry
          { scan.registry with
            lastCleanupResult := some lastCleanupResult, updatedAt := completedAt }
        let _ ← appendEventRecord { type := eventType, timestamp := completedAt }
      return lastCleanupResult) fun _ => True := by
    intro completedAt
    dsimp only
    split
    · exact .seq (keeps_writeIdleRegistry (hscan.cleaned hsource (idleCleanupStatus_ne _ _)))
        fun _ _ => .seq (.silent silent_appendEventRecord) fun _ _ => .pure trivial
    · exact .pure trivial
  dsimp only
  split
  · exact hrest timestamp
  · exact .seq (.silent (.request rfl)) fun completedAt _ => hrest completedAt

theorem keeps_loadAndReclaim :
    Keeps surroundings names (loadAndReclaim paths timestamp) (Ready names) := by
  unfold loadAndReclaim
  refine .seq (keeps_loadPublicSafeIdleState keeps_loadBrokerState) fun state hready => ?_
  exact .seq (keeps_performSlotReclaim (by simp) hready) fun reclaimed hreclaimed =>
    .pure hreclaimed

theorem keeps_reconcileIdleBroker {options : IdleReconcileOptions}
    (hsource : options.label.isLabel = true) :
    Keeps surroundings names (reconcileIdleBroker paths options) fun _ => True := by
  refine .withLock ?_
  unfold reconcileIdle
  refine .seq (.silent (.request rfl)) fun timestamp _ => .seq (.silent silent_readIdlePolicy)
    fun policy _ => ?_
  cases policy with
  | none =>
      exact .seq (.ignoringErrors (.seq keeps_loadAndReclaim fun _ _ => .pure trivial))
        fun _ _ => .pure trivial
  | some graceSeconds =>
      exact .seq keeps_loadAndReclaim fun state hready =>
        .seq (keeps_performIdleShutdowns hsource hready.accepts) fun _ _ => .pure trivial

theorem keeps_idleStatusBroker :
    Keeps surroundings names (idleStatusBroker paths) fun _ => True :=
  .withLock (.seq (.silent (.request rfl)) fun _ _ =>
    .seq (keeps_loadPublicSafeIdleState keeps_loadBrokerState) fun _ _ =>
      .silent silent_readIdlePolicy)

theorem keeps_previewIdleCleanupBroker :
    Keeps surroundings names (previewIdleCleanupBroker locale) fun _ => True :=
  .withLock (.seq (.silent (.request rfl)) fun _ _ =>
    .seq (keeps_loadPublicSafeIdleState keeps_readBrokerStateSnapshot) fun _ _ => .pure trivial)

theorem keeps_applyIdleCleanupBroker {actor : IdleActor}
    {confirmPlanId : List (AliasName × SimulatorId)} {persistNoChanges : Bool} :
    Keeps surroundings names (applyIdleCleanupBroker locale actor confirmPlanId persistNoChanges)
      fun _ => True := by
  unfold applyIdleCleanupBroker
  refine .seq (.silent silent_requireHumanIdleActor) fun _ _ => .withLock ?_
  unfold applyIdleCleanup
  refine .seq (.silent (.request rfl)) fun timestamp _ =>
    .seq (keeps_loadPublicSafeIdleState keeps_readBrokerStateSnapshot) fun state hready => ?_
  have hrest : Keeps surroundings names (do
      let rawRegistry ← perform .readRegistry
      let registry ← syncRegistryWithSimctl state.hostConfig
        (Broker.normalizeRegistry rawRegistry state.hostConfig timestamp)
      performIdleShutdowns registry (idleBaseCandidates state) timestamp .idleCleanupApplied
        (.string (Text.stringUnits "confirmed-cleanup")) persistNoChanges) fun _ => True := by
    refine .seq (.silent (.request rfl)) fun rawRegistry _ => ?_
    have hnormalized : Accepts names
        (Broker.normalizeRegistry rawRegistry state.hostConfig timestamp) :=
      hready.disk ▸ accepts_normalizeRegistry
    exact .seq (keeps_syncRegistryWithSimctl hnormalized) fun synced hsynced =>
      keeps_performIdleShutdowns rfl hsynced
  dsimp only
  split
  · exact .seq (M := fun _ => True) .throw fun _ _ => hrest
  · exact hrest

end SimulatorBroker.Persistence
