import SimulatorBroker.Persistence.Lifecycle

/-!
# The registry writes of the commands that replace the host config

A repair keeps the alias names of the host config.  A delete takes one away and leaves the other
entries.  Init, setup and the capacity commands write the registry in loads only.
-/

namespace SimulatorBroker.Persistence

open SimulatorBroker.Effects
open SimulatorBroker.State
open SimulatorBroker.Broker

variable {surroundings : Surroundings} {names : DiskNames} {α : Type} {paths : BrokerPaths}
  {timestamp : Timestamp} {registry : Registry} {state : BrokerState}

/-! ## Provisioning -/

theorem silent_deleteAliasSimulator {simulatorId : SimulatorId} {site : DeviceSite} :
    Silent (deleteAliasSimulator simulatorId site) := by
  unfold deleteAliasSimulator
  exact .bind (.request rfl) fun _ => .request rfl

theorem silent_ensureAliasSimulator {template : AliasTemplate} {current : Option SimulatorId}
    {defer : Bool} : Silent (ensureAliasSimulator locale template current defer) := by
  unfold ensureAliasSimulator
  refine .bind ?_ fun runtime => .bind ?_ fun deviceType => .bind silent_readSimctlInventory
    fun inventory => ?_
  · unfold selectRuntimeForAlias
    refine .bind (.request rfl) fun runtimes => ?_
    split
    · exact .throw _
    · exact .pure _
  · unfold selectPreferredDeviceType
    split
    · exact .throw _
    · exact .pure _
  · dsimp only
    split
    · split
      · exact .bind (.request rfl) fun _ => .pure _
      · exact .pure _
    · split
      · exact .pure _
      · split
        · exact .bind silent_deleteAliasSimulator fun _ => .bind (.request rfl) fun _ => .pure _
        · exact .bind (.request rfl) fun _ => .pure _

theorem silent_rollbackCreatedSimulators {created : List SimulatorId}
    {attribution : Option (List SimulatorId × List String)} :
    Silent (rollbackCreatedSimulators created attribution) := by
  unfold rollbackCreatedSimulators
  have hdeletes : ∀ (ids : List SimulatorId) (failures : List RollbackFailure),
      Silent (ids.foldlM rollbackDelete failures) := by
    intro ids failures
    refine .foldlM (fun failures simulatorId => ?_) _ _
    unfold rollbackDelete
    exact .tryCatch (.bind (.request rfl) fun _ => .pure _) fun _ => .pure _
  dsimp only
  split
  · exact .bind (.pure _) fun _ => hdeletes _ _
  · exact .bind (.tryCatch (.bind silent_readSimctlInventory fun _ => .pure _) fun _ => .pure _)
      fun _ => hdeletes _ _

theorem silent_retirePendingHostSimulators {pending : List SimulatorId} {next : HostConfig} :
    Silent (retirePendingHostSimulators pending next) := by
  unfold retirePendingHostSimulators
  split
  · exact .pure _
  · refine .bind silent_readSimctlInventory fun inventory => .foldlM (fun failed id => ?_) _ _
    unfold retireSimulator
    split
    · exact .pure _
    · exact .tryCatch (.bind silent_deleteAliasSimulator fun _ => .pure _) fun _ => .pure _

/-! ## Replacing the host config -/

section Durable

variable {config : HostConfig} {post : Unit → DiskNames → Prop} {fail : DiskNames → Prop}

/-- The rename of the host config; where it fails the old one is there. -/
theorem holds_renameHostConfig (hpost : post () (some config.aliasNames)) (hfail : fail names) :
    Holds surroundings names (perform (.rename (.hostConfig config))) post fail := by
  rintro world rfl
  refine wp_perform (show WriteOk (.rename (.hostConfig config)) world from trivial) ?_ ?_
  · rintro value after - hsettles
    rw [Settles.diskNames hsettles]
    exact hpost
  · rintro error after - - (hsettles | ⟨hlate, -⟩)
    · rw [Settles.diskNames hsettles]
      exact hfail
    · cases hlate

theorem holds_silent {body : Broker α} {post : α → DiskNames → Prop} (hsilent : Silent body)
    (hpost : ∀ value, post value names) (hfail : fail names) :
    Holds surroundings names body post fail :=
  Holds.weaken (Keeps.silent hsilent) (fun value _ h => h.1 ▸ hpost value) fun _ h => h ▸ hfail

/-- The new names are on disk where it returns, the old or the new ones where it throws. -/
theorem holds_writeHostConfig (hpost : post () (some config.aliasNames)) (hold : fail names)
    (hnew : fail (some config.aliasNames)) :
    Holds surroundings names (writeHostConfig config) post fail := by
  have hbefore : ∀ {body : Broker Unit}, Silent body →
      Holds surroundings names body (fun _ after => after = names) fun after => after = names :=
    fun hsilent => holds_silent hsilent (fun _ => rfl) rfl
  unfold writeHostConfig writeJsonAtomicRestricted
  refine .seq (hbefore (.request rfl)) (fun _ h => h ▸ hold) ?_
  rintro _ _ rfl
  refine .seq (hbefore (.request rfl)) (fun _ h => h ▸ hold) ?_
  rintro _ _ rfl
  refine .seq (hbefore (.request rfl)) (fun _ h => h ▸ hold) ?_
  rintro _ _ rfl
  refine .seq (M := fun _ after => after = some config.aliasNames)
    (holds_renameHostConfig rfl hold) (fun _ h => h) ?_
  rintro _ _ rfl
  exact holds_silent (.request rfl) (fun _ => hpost) hnew

theorem holds_writeJsonAtomicDurable (hpost : post () (some config.aliasNames)) (hold : fail names)
    (hnew : fail (some config.aliasNames)) :
    Holds surroundings names (writeJsonAtomicDurable config) post fail := by
  unfold writeJsonAtomicDurable
  refine .seq (M := fun _ after => names = after) (E := fail)
    (holds_silent (.request rfl) (fun _ => rfl) hold) (fun _ h => h) ?_
  rintro _ _ rfl
  refine .seq (M := fun _ after => some config.aliasNames = after) (E := fail)
    (.tryCatch (E := fun after => names = after) ?_ ?_) (fun _ h => h) ?_
  · refine .seq (M := fun _ after => names = after) (E := fun after => names = after)
      (holds_silent (.request rfl) (fun _ => rfl) rfl) (fun _ h => h) ?_
    rintro _ _ rfl
    refine .seq (M := fun _ after => names = after) (E := fun after => names = after)
      (holds_silent ?_ (fun _ => rfl) rfl) (fun _ h => h) ?_
    · exact .tryCatch (.bind (.request rfl) fun _ => .bind (.request rfl) fun _ => .request rfl)
        fun _ => .bind (silent_ignoringErrors (.request rfl)) fun _ => .throw _
    · rintro _ _ rfl
      exact holds_renameHostConfig rfl rfl
  · rintro error _ rfl
    refine .seq (M := fun _ after => names = after) (E := fail)
      (holds_silent (.request rfl) (fun _ => rfl) hold) (fun _ h => h) ?_
    rintro _ _ rfl
    exact .throw hold
  · rintro _ _ rfl
    refine .tryCatch (E := fun after => some config.aliasNames = after) ?_ ?_
    · exact holds_silent (.bind (.request rfl) fun _ => .ensuring (.request rfl) (.request rfl))
        (fun _ => hpost) rfl
    · rintro error _ rfl
      exact .throw hnew

end Durable

/-- A host config with the same alias names. -/
theorem keeps_writeJsonAtomicDurable {config : HostConfig} (hnames : names = some config.aliasNames) :
    Keeps surroundings names (writeJsonAtomicDurable config) fun _ => True :=
  holds_writeJsonAtomicDurable ⟨hnames.symm, trivial⟩ rfl hnames.symm

/-! ## Lifecycle actions -/

theorem keeps_repairHostAlias {config : HostConfig} {hostAlias : HostAlias}
    (hnames : names = some config.aliasNames) :
    Keeps surroundings names (repairHostAlias locale config hostAlias)
      fun next => names = some next.aliasNames := by
  unfold repairHostAlias
  refine .seq (.silent silent_ensureAliasSimulator) fun provisioned _ => ?_
  have hrebound : names = some (rebindAlias config hostAlias.aliasName provisioned.simulatorId
      provisioned.iosVersion).aliasNames := by
    rw [hnames, Hosting.rebindAlias_aliasNames]
  refine .seq (M := fun _ => True) (.tryCatch (keeps_writeJsonAtomicDurable hrebound)
    fun error => ?_) fun _ _ => .seq (.silent silent_retirePendingHostSimulators)
      fun failed _ => .seq (keeps_writeJsonAtomicDurable hrebound) fun _ _ => .pure hrebound
  dsimp only
  split
  · exact .seq (.silent (silent_ignoringErrors silent_deleteAliasSimulator)) fun _ _ => .throw
  · exact .throw

theorem silent_resolveLifecycleRequester {options : LifecycleOptions} {name : AliasName} :
    Silent (resolveLifecycleRequester state options name) := by
  unfold resolveLifecycleRequester
  refine .bind ?_ fun reference => ?_
  · unfold loadLeaseReferenceForAlias
    split
    · exact .pure _
    · refine .bind silent_loadLeaseByIdOrFile fun lease => ?_
      split
      · exact .bind (.throw _) fun _ => .pure _
      · exact .pure _
  · dsimp only
    split
    · exact .pure _
    · split
      · exact .pure _
      · exact .throw _

theorem silent_assertLifecycleHealth {action : LifecycleAction} {entry : RegistryEntry} :
    Silent (assertLifecycleHealth action entry) := by
  unfold assertLifecycleHealth
  split <;> split <;> first | exact .throw _ | exact .pure _

theorem silent_validateForceOverride {action : LifecycleAction} {options : LifecycleOptions}
    {requester : LifecycleRequester} {name : AliasName} {activeLease : Lease} :
    Silent (validateForceOverride action options requester name activeLease) := by
  have hreason : Silent (requireOverrideReason options.overrideReason) := by
    unfold requireOverrideReason
    split
    · exact .throw _
    · exact .throw _
    · split
      · exact .throw _
      · exact .pure _
  have hlease : Silent (if options.expectedLeaseId ≠ some activeLease.leaseId then
      throw (.broker .overrideLeaseMismatch) else pure () : Broker Unit) := by
    split
    · exact .throw _
    · exact .pure _
  have halias : Silent (do
      if options.expectedAlias ≠ some name then throw (.broker .overrideAliasMismatch)
      if options.expectedLeaseId ≠ some activeLease.leaseId then
        throw (.broker .overrideLeaseMismatch) : Broker Unit) := by
    dsimp only
    split
    · exact .bind (.throw _) fun _ => hlease
    · exact hlease
  unfold validateForceOverride
  dsimp only
  split
  · exact .bind (.throw _) fun _ => by
      split
      · exact .bind (.throw _) fun _ => by
          split
          · exact .bind (.throw _) fun _ => .bind hreason fun _ => halias
          · exact .bind hreason fun _ => halias
      · split
        · exact .bind (.throw _) fun _ => .bind hreason fun _ => halias
        · exact .bind hreason fun _ => halias
  · split
    · exact .bind (.throw _) fun _ => by
        split
        · exact .bind (.throw _) fun _ => .bind hreason fun _ => halias
        · exact .bind hreason fun _ => halias
    · split
      · exact .bind (.throw _) fun _ => .bind hreason fun _ => halias
      · exact .bind hreason fun _ => halias

theorem keeps_revokeLeaseForOverride {lease : Lease} (hready : Ready names state) :
    Keeps surroundings names (revokeLeaseForOverride paths state lease timestamp)
      (Ready names) := by
  have hrevoked := hready.accepts.update lease.aliasName timestamp
    (markAliasLeaseReleased timestamp) fun _ h => h
  unfold revokeLeaseForOverride
  exact .seq (.silent silent_assertLeaseArtifactPathAllowed) fun _ _ =>
    .seq (.writeRegistry hrevoked) fun _ _ => .seq (.silent silent_removeLeaseRecordFiles)
      fun _ _ => .seq (.silent silent_appendEventRecord) fun _ _ => .pure ⟨hready.disk, hrevoked⟩

theorem keeps_admitLifecycleRequester {action : LifecycleAction} {options : LifecycleOptions}
    {requester : LifecycleRequester} {name : AliasName} (hready : Ready names state) :
    Keeps surroundings names
      (admitLifecycleRequester paths state action options requester name timestamp)
      (Ready names) := by
  unfold admitLifecycleRequester
  split
  · exact .pure hready
  · split
    · exact .pure hready
    · split
      · exact .throw
      · exact .throw
      · exact .seq (.silent silent_validateForceOverride) fun _ _ =>
          keeps_revokeLeaseForOverride hready
      · exact .seq (.silent silent_validateForceOverride) fun _ _ =>
          keeps_revokeLeaseForOverride hready

theorem keeps_runPowerAction {powerState : PowerState} {hostAlias : HostAlias}
    {requester : LifecycleRequester} {entry : RegistryEntry} (hready : Ready names state) :
    Keeps surroundings names
      (runPowerAction state powerState hostAlias requester entry timestamp) fun _ => True := by
  have hpowered := hready.accepts.update hostAlias.aliasName timestamp
    (poweredEntry powerState timestamp) fun _ _ code hcode => nomatch hcode
  unfold runPowerAction
  split
  · exact .pure trivial
  · dsimp only
    split
    · exact .seq (.silent (silent_invokeLifecycleAdapter (.request rfl))) fun _ _ =>
        .seq (.writeRegistry hpowered) fun _ _ => .seq (.silent silent_appendEventRecord)
          fun _ _ => .pure trivial
    · exact .seq (.silent (silent_invokeLifecycleAdapter (.request rfl))) fun _ _ =>
        .seq (.writeRegistry hpowered) fun _ _ => .seq (.silent silent_appendEventRecord)
          fun _ _ => .pure trivial

theorem knownCause_erasedEntry {entry : RegistryEntry} (hcause : KnownCause entry) :
    KnownCause (erasedEntry timestamp entry) := by
  unfold erasedEntry
  dsimp only
  split
  · exact fun code hcode => nomatch hcode
  · exact hcause

theorem keeps_runEraseAction {hostAlias : HostAlias} {requester : LifecycleRequester}
    (hready : Ready names state) :
    Keeps surroundings names (runEraseAction state hostAlias requester timestamp)
      fun _ => True := by
  unfold runEraseAction adapterErase
  exact .seq (.silent (silent_invokeLifecycleAdapter (.bind (.request rfl) fun _ =>
    .request rfl))) fun _ _ =>
      .seq (.writeRegistry (hready.accepts.update _ _ _ fun _ => knownCause_erasedEntry)) fun _ _ =>
        .seq (.silent silent_appendEventRecord) fun _ _ => .pure trivial

theorem keeps_invokeLifecycleAdapter {action : Broker α} {post : α → Prop}
    (haction : Keeps surroundings names action post) :
    Keeps surroundings names (invokeLifecycleAdapter action) post := by
  unfold invokeLifecycleAdapter
  refine .tryCatch haction fun error => ?_
  split
  · exact .throw
  · exact .throw

theorem keeps_runRepairAction {hostAlias : HostAlias} {requester : LifecycleRequester}
    (hready : Ready names state) :
    Keeps surroundings names (runRepairAction locale state hostAlias requester timestamp)
      fun _ => True := by
  have hrepairing := hready.accepts.update hostAlias.aliasName timestamp
    (repairingEntry timestamp) fun _ h => h
  unfold runRepairAction
  refine .seq (.writeRegistry hrepairing) fun _ _ => .seq (.silent silent_appendEventRecord)
    fun _ _ => .seq (.tryCatch (keeps_invokeLifecycleAdapter (keeps_repairHostAlias hready.disk))
      fun error => ?_) fun hostConfig _ => ?_
  · exact .seq (.writeRegistry (hrepairing.update _ _ _ fun _ _ => knownCause_knownDriftCauseCode))
      fun _ _ => .seq (.silent silent_appendEventRecord) fun _ _ => .throw
  · exact .seq (.writeRegistry (hrepairing.update _ _ _ fun _ _ code hcode => nomatch hcode))
      fun _ _ => .seq (.silent silent_appendEventRecord) fun _ _ => .pure trivial

theorem keeps_runLifecycleAction {action : LifecycleAction} {options : LifecycleOptions} :
    Keeps surroundings names (runLifecycleAction paths action options) fun _ => True := by
  unfold runLifecycleAction
  refine .seq (.silent (.request rfl)) fun timestamp _ => .seq keeps_loadBrokerState
    fun state hready => .seq (.silent silent_findHostAliasOrThrow) fun hostAlias _ => ?_
  split
  · exact .throw
  · refine .seq (.silent silent_resolveLifecycleRequester) fun requester _ =>
      .seq (.silent silent_assertLifecycleHealth) fun _ _ =>
        .seq (keeps_admitLifecycleRequester hready) fun admitted hadmitted => ?_
    cases action with
    | boot => exact keeps_runPowerAction hadmitted
    | shutdown => exact keeps_runPowerAction hadmitted
    | erase => exact keeps_runEraseAction hadmitted
    | repair => exact .seq (keeps_runRepairAction hadmitted) fun _ _ => .pure trivial

theorem keeps_lifecycleActionBroker {action : LifecycleAction} {options : LifecycleOptions} :
    Keeps surroundings names (lifecycleActionBroker paths action options) fun _ => True := by
  cases action with
  | boot => exact .withLock keeps_runLifecycleAction
  | shutdown => exact .withLock keeps_runLifecycleAction
  | erase => exact .withLock keeps_runLifecycleAction
  | repair => exact .withLock (.withLock keeps_runLifecycleAction)

theorem keeps_repairPurposeSimulatorsBroker {options : PurposeOptions} :
    Keeps surroundings names (repairPurposeSimulatorsBroker paths options) fun _ => True := by
  refine .withLock (.withLock ?_)
  unfold repairPurposeSimulators
  refine .seq (.silent (.request rfl)) fun timestamp _ => .seq keeps_loadBrokerState
    fun state _ => .seq (.silent (.request rfl)) fun project _ =>
      .seq (.silent silent_getPurpose) fun purpose _ =>
        .seq (.foldlM (I := fun _ => True) _ (fun counts candidate _ => ?_) trivial)
          fun counts _ => ?_
  · unfold repairCandidate
    split
    · exact .pure trivial
    · split
      · exact .pure trivial
      · refine .tryCatch (.seq keeps_runLifecycleAction fun _ _ => .pure trivial) fun error => ?_
        split
        · exact .pure trivial
        · exact .pure trivial
  · split
    · exact .throw
    · split
      · exact .throw
      · exact .pure trivial

end SimulatorBroker.Persistence
