import SimulatorBroker.Persistence.Rewrites
import SimulatorBroker.Safety.Delete

/-!
# The registry writes of every command

A delete takes an alias out of the host config before its entry leaves the registry, so that the
registry written always covers what is on disk; a failed write of the host config leaves an entry
behind that no later read returns.
-/

namespace SimulatorBroker.Persistence

open SimulatorBroker.Effects
open SimulatorBroker.State
open SimulatorBroker.Broker

variable {surroundings : Surroundings} {names : DiskNames} {α : Type} {paths : BrokerPaths}
  {timestamp : Timestamp} {registry : Registry} {state : BrokerState}

/-! ## Delete -/

/-- The registry in memory covers the host config in memory and the one on disk. -/
structure Deleting (names : DiskNames) (state : BrokerState) : Prop where
  memory : Covers state.registry state.hostConfig.aliasNames
  accepts : Accepts names state.registry

theorem Ready.deleting (hready : Ready names state) : Deleting names state :=
  ⟨hready.accepts.covers _ hready.disk, hready.accepts⟩

theorem Accepts.mono (haccepts : Accepts names registry) {aliasNames : List AliasName}
    (hcovers : Covers registry aliasNames) : Accepts (some aliasNames) registry :=
  ⟨haccepts.labelled, by rintro _ ⟨⟩; exact hcovers⟩

theorem labelled_remove (hlabelled : Labelled registry) (name : AliasName) :
    Labelled ((registry.remove name).touch timestamp) where
  codes := by
    intro other entry hentry
    have hother : (if other = name then none else registry.aliases other) = some entry := hentry
    split at hother
    · cases hother
    · exact hlabelled.codes other entry hother
  cleanup := hlabelled.cleanup
  reclaim := hlabelled.reclaim

/-- The host config without the alias is covered before and after the entry goes. -/
theorem covers_removeAlias {config : HostConfig} (hcovers : Covers registry config.aliasNames)
    (name : AliasName) : Covers registry (removeAlias config name).aliasNames :=
  fun other hother => hcovers other (Safety.mem_aliasNames_removeAlias.mp hother).1

theorem covers_remove {config : HostConfig} (hcovers : Covers registry config.aliasNames)
    (name : AliasName) (timestamp : Timestamp) :
    Covers ((registry.remove name).touch timestamp) (removeAlias config name).aliasNames := by
  intro other hother
  obtain ⟨hmem, hne⟩ := Safety.mem_aliasNames_removeAlias.mp hother
  show (if other = name then none else registry.aliases other).isSome = true
  rw [if_neg hne]
  exact hcovers other hmem

theorem holds_removeDeletedAliasRecords {name : AliasName} {failed : List AliasName}
    (hdeleting : Deleting names state) :
    Holds surroundings names (removeDeletedAliasRecords state name failed timestamp)
      (fun outcome after => Deleting after outcome.state) fun _ => True := by
  have hcovers := covers_removeAlias hdeleting.memory name
  have hforgotten := covers_remove hdeleting.memory name timestamp
  unfold removeDeletedAliasRecords
  refine .seq (M := fun outcome after =>
      (outcome = .ok () ∧ after = some (state.withoutAlias name).hostConfig.aliasNames) ∨
        ((∃ error, outcome = .error error) ∧ Accepts after state.registry))
    (E := fun _ => True) (.attempt (E := fun after => Accepts after state.registry) ?_ ?_)
      (fun _ _ => trivial) ?_
  · exact holds_writeHostConfig (.inl ⟨rfl, rfl⟩) hdeleting.accepts (hdeleting.accepts.mono hcovers)
  · exact fun error after haccepts => .inr ⟨⟨error, rfl⟩, haccepts⟩
  · rintro outcome after (⟨rfl, rfl⟩ | ⟨⟨error, rfl⟩, haccepts⟩)
    · have haccepts : Accepts (some (state.withoutAlias name).hostConfig.aliasNames)
          ((state.withoutAlias name).forgetAlias name timestamp).registry :=
        ⟨labelled_remove hdeleting.accepts.labelled name, by rintro _ ⟨⟩; exact hforgotten⟩
      refine .seq (M := fun _ after => after = some (state.withoutAlias name).hostConfig.aliasNames)
        (E := fun _ => True) (Holds.weaken (keeps_attempt_writeRegistry haccepts)
          (fun _ _ h => h.1) fun _ _ => trivial) (fun _ _ => trivial) ?_
      rintro (error | value) _ rfl
      · exact .pure ⟨hforgotten, haccepts⟩
      · exact .seq (M := fun _ after => after = _) (E := fun _ => True)
          (Holds.weaken (Keeps.silent silent_appendEventRecord) (fun _ _ h => h.1)
            fun _ _ => trivial) (fun _ _ => trivial) (by
              rintro _ _ rfl
              exact .pure ⟨hforgotten, haccepts⟩)
    · exact .pure ⟨hcovers, haccepts⟩

theorem Deleting.modify (hdeleting : Deleting names state) (name : AliasName)
    (timestamp : Timestamp) (mutate : RegistryEntry → RegistryEntry)
    (hcause : ∀ entry, KnownCause entry → KnownCause (mutate entry)) :
    Deleting names (state.withRegistry ((state.registry.modify name mutate).touch timestamp)) where
  memory other hother := by
    show ((state.registry.modify name mutate).aliases other).isSome = true
    rw [isSome_modify]
    exact hdeleting.memory other hother
  accepts := hdeleting.accepts.update name timestamp mutate hcause

theorem keeps_failedDelete {name : AliasName} {failed : List AliasName} {error : BrokerError}
    (hdeleting : Deleting names state) :
    Keeps surroundings names (failedDelete state name failed timestamp error)
      fun outcome => Deleting names outcome.state := by
  unfold failedDelete persistDeleteFailure
  dsimp only
  generalize (if error.isBrokerError = true then error
    else BrokerError.broker .simulatorActionFailed error.text) = failure
  have hfailed := hdeleting.modify name timestamp
    (deleteFailedEntry failure timestamp) fun _ _ => knownCause_knownDriftCauseCode
  have hpersist : Keeps surroundings names (do
      writeRegistry ((state.registry.modify name (deleteFailedEntry failure timestamp)).touch
        timestamp) { failed := name :: failed }
      let _ ← appendEventRecord
        { type := .simulatorDeleteFailed, aliasName := name, timestamp }) fun _ => True :=
    .seq (.writeRegistry hfailed.accepts) fun _ _ => .seq (.silent silent_appendEventRecord)
      fun _ _ => .pure trivial
  refine .seq (.attempt (P := fun _ => True) hpersist (fun _ _ => trivial) fun _ => trivial)
    fun outcome _ => ?_
  cases outcome with
  | error error => exact .pure hfailed
  | ok value => exact .pure hfailed

theorem silent_assertAliasCanBeDeleted {name : AliasName} :
    Silent (assertAliasCanBeDeleted state name) := by
  have hpin : Silent (if (state.pinsByAlias name).isSome then throw (.broker .pinConflict)
      else pure () : Broker Unit) := by
    split
    · exact .throw _
    · exact .pure _
  have hlease : Silent (do
      if (state.leasesByAlias name).isSome then throw (.broker .leaseConflict)
      if (state.pinsByAlias name).isSome then throw (.broker .pinConflict) : Broker Unit) := by
    dsimp only
    split
    · exact .bind (.throw _) fun _ => hpin
    · exact hpin
  unfold assertAliasCanBeDeleted
  dsimp only
  split
  · exact .bind (.throw _) fun _ => hlease
  · exact hlease

theorem holds_deleteAliasUnderHeldLocks {name : AliasName} {failed : List AliasName}
    (hdeleting : Deleting names state) :
    Holds surroundings names (deleteAliasUnderHeldLocks state name failed timestamp)
      (fun outcome after => Deleting after outcome.state) fun _ => True := by
  have hattempt : ∀ {β γ : Type} {body : Broker β} {rest : Except BrokerError β → Broker γ}
      {post : γ → DiskNames → Prop}, Silent body →
      (∀ outcome, Holds surroundings names (rest outcome) post fun _ => True) →
      Holds surroundings names (body.attempt >>= rest) post fun _ => True := by
    intro β γ body rest post hsilent hrest
    refine .seq (Keeps.attempt (P := fun _ => True) (.silent hsilent) (fun _ _ => trivial)
      fun _ => trivial) (fun _ _ => trivial) ?_
    rintro outcome _ ⟨rfl, -⟩
    exact hrest outcome
  unfold deleteAliasUnderHeldLocks
  split
  · exact .pure hdeleting
  · refine hattempt silent_assertAliasCanBeDeleted fun outcome => ?_
    cases outcome with
    | error error => exact .pure hdeleting
    | ok value =>
        refine hattempt silent_readSimctlInventory fun outcome => ?_
        cases outcome with
        | error error => exact .pure hdeleting
        | ok inventory =>
            dsimp only
            split
            · refine hattempt silent_deleteAliasSimulator fun outcome => ?_
              cases outcome with
              | ok value => exact holds_removeDeletedAliasRecords hdeleting
              | error error =>
                  refine Holds.weaken (keeps_failedDelete hdeleting) ?_ fun _ _ => trivial
                  rintro outcome _ ⟨rfl, h⟩
                  exact h
            · exact holds_removeDeletedAliasRecords hdeleting

/-- A command that begins with the clock and a load. -/
theorem Free.loaded {rest : Timestamp → BrokerState → Broker α}
    (hrest : ∀ timestamp names state, Ready names state →
      Holds surroundings names (rest timestamp state) (fun _ _ => True) fun _ => True) :
    Free surroundings (do
      let timestamp ← perform .now
      let state ← loadBrokerState paths { timestamp }
      rest timestamp state) := by
  intro names
  refine .seq (Keeps.silent (.request rfl)) (fun _ _ => trivial) ?_
  rintro timestamp _ ⟨rfl, -⟩
  refine .seq keeps_loadBrokerState (fun _ _ => trivial) ?_
  rintro state _ ⟨rfl, hready⟩
  exact hrest timestamp _ state hready

theorem free_deleteSimulatorBroker {name : AliasName} :
    Free surroundings (deleteSimulatorBroker paths name) := by
  refine .withLock (.withLock (Free.loaded fun timestamp names state hready => ?_))
  refine .seq (holds_deleteAliasUnderHeldLocks hready.deleting) (fun _ _ => trivial)
    fun outcome after _ => ?_
  split
  · exact .pure trivial
  · exact .throw trivial

theorem holds_deleteCandidate {progress : DeleteProgress} {candidate : Candidate}
    (hdeleting : Deleting names progress.state) :
    Holds surroundings names (deleteCandidate timestamp progress candidate)
      (fun next after => Deleting after next.state) fun _ => True := by
  unfold deleteCandidate
  dsimp only
  split
  · split
    · exact .pure hdeleting
    · exact .seq (holds_deleteAliasUnderHeldLocks hdeleting) (fun _ _ => trivial)
        fun outcome after houtcome => .pure houtcome
  · exact .pure hdeleting

theorem free_deletePurposeSimulatorsBroker {purposeId : PurposeId} :
    Free surroundings (deletePurposeSimulatorsBroker paths purposeId) := by
  refine .withLock (.withLock (Free.loaded fun timestamp names state hready => ?_))
  refine .seq (Keeps.silent (.request rfl)) (fun _ _ => trivial) ?_
  rintro project _ ⟨rfl, -⟩
  refine .seq (Keeps.silent silent_getPurpose) (fun _ _ => trivial) ?_
  rintro purpose _ ⟨rfl, -⟩
  refine .seq (.foldlM (I := fun progress after => Deleting after progress.state) _
    (fun _ _ _ hprogress => holds_deleteCandidate hprogress) hready.deleting) (fun _ _ => trivial)
      fun progress after _ => ?_
  dsimp only
  split
  · exact .throw trivial
  · split
    · exact .throw trivial
    · exact .pure trivial

/-! ## Init and setup -/

theorem free_loadBrokerState {options : LoadOptions} :
    Free surroundings (loadBrokerState paths options) :=
  .of_keeps (P := Ready) fun _ => keeps_loadBrokerState

theorem Free.silent {body : Broker α} (hsilent : Silent body) : Free surroundings body :=
  .registryless hsilent.registryless

theorem registryless_writeHostConfig {config : HostConfig} :
    Registryless (writeHostConfig config) := by
  unfold writeHostConfig writeJsonAtomicRestricted
  exact .bind (.request rfl) fun _ => .bind (.request rfl) fun _ => .bind (.request rfl)
    fun _ => .bind (.request rfl) fun _ => .request rfl

theorem registryless_writeJsonAtomicDurable {config : HostConfig} :
    Registryless (writeJsonAtomicDurable config) := by
  unfold writeJsonAtomicDurable
  refine .bind (.request rfl) fun _ => .bind (.tryCatch (.bind (.request rfl) fun _ =>
    .bind (.tryCatch (.bind (.request rfl) fun _ => .bind (.request rfl) fun _ => .request rfl)
      fun _ => .bind (.tryCatch (.request rfl) fun _ => .pure _) fun _ => .throw _) fun _ =>
        .request rfl) fun _ => .bind (.request rfl) fun _ => .throw _) fun _ => ?_
  exact .tryCatch (.bind (.request rfl) fun _ => .ensuring (.request rfl) (.request rfl))
    fun _ => .throw _

theorem silent_provisionTemplates (templates : List AliasTemplate) (progress : ProvisionProgress) :
    Silent (provisionTemplates locale templates progress) := by
  induction templates generalizing progress with
  | nil => exact .pure _
  | cons template rest ih =>
      refine .bind (.attempt silent_ensureAliasSimulator) fun outcome => ?_
      cases outcome with
      | error error => exact .pure _
      | ok provisioned => exact ih _

theorem silent_buildProvisionedStarterHostConfig {hostId iosVersion : String} :
    Silent (buildProvisionedStarterHostConfig locale hostId iosVersion) := by
  unfold buildProvisionedStarterHostConfig
  refine .bind silent_readSimctlInventory fun baseline => .bind (silent_provisionTemplates _ _)
    fun progress => ?_
  split
  · exact .bind silent_rollbackCreatedSimulators fun _ => .throw _
  · exact .pure _

theorem silent_readHostConfigOrThrow : Silent readHostConfigOrThrow := by
  unfold readHostConfigOrThrow
  refine .bind (.request rfl) fun config => ?_
  cases config with
  | none => exact .throw _
  | some config =>
      simp only [validateHostConfig]
      split
      · exact .pure _
      · exact .throw _

theorem free_previousHostConfig {configExists : Bool} :
    Free surroundings (previousHostConfig paths configExists timestamp) := by
  unfold previousHostConfig assertHostConfigCanBeReplaced
  split
  · refine .seq (.silent silent_readHostConfigOrThrow) fun previous => .seq
      (.seq free_loadBrokerState fun state => ?_) fun _ => .pure
    split
    · exact .pure
    · exact .throw
  · exact .pure

theorem registryless_bootstrapHostConfig {options : InitOptions} {previous : Option HostConfig} :
    Registryless (bootstrapHostConfig locale options previous) := by
  unfold bootstrapHostConfig
  refine .bind silent_buildProvisionedStarterHostConfig.registryless fun provisioned =>
    .bind (.tryCatch registryless_writeHostConfig fun error =>
      .bind silent_rollbackCreatedSimulators.registryless fun _ => .throw _) fun _ => ?_
  split
  · unfold retireReplacedSimulators
    refine .bind silent_retirePendingHostSimulators.registryless fun failed =>
      .bind registryless_writeHostConfig fun _ => ?_
    split
    · exact .pure _
    · exact .throw _
  · exact .pure _

theorem free_initBroker {options : InitOptions} :
    Free surroundings (initBroker paths options timestamp) := by
  have hload : Free surroundings (do
      let _ ← loadBrokerState paths { timestamp }
      let _ ← appendEventRecord { type := .hostInitialized, timestamp }) :=
    .seq free_loadBrokerState fun _ => .seq (.silent silent_appendEventRecord) fun _ => .pure
  have hinit : Free surroundings (initHost paths options timestamp) := by
    unfold initHost
    dsimp only
    split
    · refine .seq (.silent (.request rfl)) fun configExists => ?_
      split
      · exact .seq free_previousHostConfig fun previous => .seq
          (.registryless registryless_bootstrapHostConfig) fun _ => hload
      · exact hload
    · exact hload
  unfold initBroker
  split
  · exact .withLock (.withLock hinit)
  · exact .withLock hinit

theorem silent_failSetup {baseline : List SimulatorId} {progress : SetupProgress}
    {error : BrokerError} : Silent (failSetup (α := α) baseline progress error) := by
  unfold failSetup
  refine .bind (.request rfl) fun hostConfigExists => ?_
  split
  · exact .throw _
  · exact .bind silent_rollbackCreatedSimulators fun _ => .throw _

theorem silent_createSetupDevice {baseline : List SimulatorId} {name : String}
    {device : SetupDevice} {progress : SetupProgress} :
    Silent (createSetupDevice baseline name device progress) := by
  unfold createSetupDevice
  refine .bind (.attempt (.request rfl)) fun outcome => ?_
  cases outcome with
  | error error =>
      refine .bind (.attempt silent_readSimctlInventory) fun outcome => ?_
      cases outcome with
      | error error => exact .pure _
      | ok inventory => exact .pure _
  | ok simulatorId =>
      refine .bind (.attempt (.request rfl)) fun outcome => ?_
      cases outcome with
      | error error => exact .pure _
      | ok value => exact .pure _

theorem silent_createSetupDevices {options : SetupOptions} {baseline : List SimulatorId}
    (devices : List SetupDevice) (progress : SetupProgress) :
    Silent (createSetupDevices options baseline devices progress) := by
  induction devices generalizing progress with
  | nil =>
      unfold createSetupDevices
      split
      · exact .pure _
      · exact .pure _
  | cons device rest ih =>
      unfold createSetupDevices
      split
      · exact .pure _
      · split
        · exact ih _
        · refine .bind silent_createSetupDevice fun created => ?_
          split
          · exact .pure _
          · exact ih _

theorem free_applySetupBroker {planner : SetupPlanner} {options : SetupOptions} :
    Free surroundings (applySetupBroker paths planner options) := by
  have hadmit : ∀ {inventory : SimctlInventory} {blocked : Bool},
      Silent (admitSetup options inventory blocked) := by
    intro inventory blocked
    unfold admitSetup
    split
    · exact .throw _
    · split
      · exact .throw _
      · split
        · exact .throw _
        · exact .pure _
  refine .withLock (.withLock ?_)
  unfold applySetup
  refine .seq (.silent (.request rfl)) fun timestamp => .seq (.silent silent_readSimctlInventory)
    fun inventory => .seq (.silent (.request rfl)) fun configExists => ?_
  split
  · refine .seq (.silent ?_) fun existing => .seq (.silent hadmit) fun _ =>
      .seq (.silent (.request rfl)) fun _ => .seq free_loadBrokerState fun _ => .pure
    unfold existingSetupHost
    refine .tryCatch (.map silent_readHostConfigOrThrow) fun error => ?_
    split
    · exact .pure _
    · exact .throw _
  · split
    · exact .silent hadmit
    · exact .throw
    · refine .seq (.silent hadmit) fun _ => .seq (.silent (.request rfl)) fun _ => ?_
      unfold provisionSetup
      refine .seq (.silent silent_readSimctlInventory) fun baseline => .seq
        (.silent (silent_createSetupDevices _ _)) fun progress => ?_
      split
      · exact .silent silent_failSetup
      · refine .tryCatch ?_ fun error => .silent silent_failSetup
        unfold commitSetup
        exact .seq (.registryless registryless_writeJsonAtomicDurable) fun _ =>
          .seq (.silent (.request rfl)) fun _ => .seq free_loadBrokerState fun _ =>
            .seq (.silent silent_appendEventRecord) fun _ => .pure

end SimulatorBroker.Persistence
