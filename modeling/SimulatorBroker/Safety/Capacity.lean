import SimulatorBroker.Broker.Capacity
import SimulatorBroker.Safety.Delete

/-!
# Capacity transactions

A transaction changes no lease, no pin and no registry entry; its commit only
adds aliases to the host config.  What it deletes is not guarded here.
-/

namespace SimulatorBroker.Safety

open SimulatorBroker.Effects
open SimulatorBroker.State
open SimulatorBroker.Broker

variable {α : Type} {context : Context} {world after : World} {timestamp : Timestamp}
  {transaction : CapacityTransaction}

/-! ## Calm operations -/

/-- Beside the quiet operations, the deletions of a transaction and its events. -/
def calm : BrokerOp → Bool
  | .deleteDevice _ .capacity => true
  | .appendEvent event => decide (event.type ≠ .leaseReclaimed) && decide (event.type ≠ .leaseContained)
  | op => quiet op

theorem calm_of_quiet {op : BrokerOp} (hquiet : quiet op = true) : calm op = true := by
  cases op with
  | appendEvent event => simp [quiet] at hquiet
  | deleteDevice simulatorId site => simp [quiet] at hquiet
  | _ => exact hquiet

theorem calm_keepsFiles {op : BrokerOp} (hcalm : calm op = true) : keepsFiles op = true := by
  cases op with
  | appendEvent event => rfl
  | deleteDevice simulatorId site => rfl
  | _ => exact quiet_keepsFiles hcalm

theorem calm_stepOk {op : BrokerOp} (hcalm : calm op = true) : StepOk context op world := by
  cases op with
  | appendEvent event =>
      simp only [calm, Bool.and_eq_true, decide_eq_true_eq] at hcalm
      exact eventOk_of_ne hcalm.1 hcalm.2
  | deleteDevice simulatorId site =>
      cases site with
      | capacity => exact fun _ _ _ _ _ => trivial
      | _ => simp [calm, quiet] at hcalm
  | _ => exact quiet_stepOk hcalm

/-- A program of calm operations changes nothing. -/
theorem Safe.calm {body : Broker α} (hcalm : body.All fun op => Safety.calm op = true) :
    Safe context body (fun _ after => Still world after) (fun _ after => Still world after)
      world := by
  intro _
  refine wp_of_all hcalm (.refl world) (fun _ _ => Still.trans) (fun op middle hop _ =>
    calm_stepOk hop) ?_
  rintro op middle answer last hop ⟨hstep, -⟩
  have heffect := still_effect op (calm_keepsFiles hop) middle
  obtain ⟨-, hsettles⟩ | ⟨-, -, hsettles⟩ | ⟨-, -, -, hsettles⟩ := hstep
  · exact heffect.trans (Settles.still hsettles)
  · exact Settles.still hsettles
  · exact heffect.trans (Settles.still hsettles)

abbrev Calm (body : Broker α) : Prop :=
  body.All fun op => Safety.calm op = true

theorem calm_readSimctlInventory : Calm readSimctlInventory :=
  quiet_readSimctlInventory.mono fun _ => calm_of_quiet

theorem calm_writeJsonAtomicRestricted {file : FileWrite} (hfile : quiet (.rename file) = true) :
    Calm (writeJsonAtomicRestricted file) := by
  unfold writeJsonAtomicRestricted
  exact .bind (.request rfl) fun _ => .bind (.request rfl) fun _ => .bind (.request rfl)
    fun _ => .bind (.request (calm_of_quiet hfile)) fun _ => .request rfl

theorem calm_appendCapacityEvent {type : EventType}
    (htype : calm (.appendEvent { type, timestamp }) = true) :
    Calm (appendCapacityEvent type timestamp) := by
  unfold appendCapacityEvent appendEventRecord recordAuditAppendFailure ignoringErrors
  exact .bind (.tryCatch (.bind (.request htype) fun _ => .pure _) fun _ =>
    .bind (.tryCatch (.request rfl) fun _ => .pure _) fun _ => .pure _) fun _ => .pure _

/-! ## The journal -/

theorem calm_writeCapacityTransaction : Calm (writeCapacityTransaction transaction) :=
  calm_writeJsonAtomicRestricted rfl

theorem calm_createCapacityTransaction : Calm (createCapacityTransaction timestamp) := by
  unfold createCapacityTransaction
  exact .bind (.request rfl) fun _ => .pure _

theorem calm_recordCapacityRejection : Calm (recordCapacityRejection timestamp) := by
  unfold recordCapacityRejection
  exact .bind calm_createCapacityTransaction fun _ => .bind calm_writeCapacityTransaction fun _ =>
    calm_appendCapacityEvent rfl

theorem calm_resolvePlannedCapacityAdditions :
    Calm (resolvePlannedCapacityAdditions transaction) := by
  unfold resolvePlannedCapacityAdditions
  split
  · exact .bind calm_readSimctlInventory fun _ => .pure _
  · exact .pure _

theorem calm_deleteCapacityDevice {simulatorId : SimulatorId} :
    Calm (deleteCapacityDevice simulatorId) := by
  unfold deleteCapacityDevice
  refine .bind (.request rfl) fun _ => .bind calm_readSimctlInventory fun inventory => ?_
  split
  · exact .throw _
  · exact .pure _

theorem calm_rollbackCapacityTransaction :
    Calm (rollbackCapacityTransaction transaction timestamp : Broker α) := by
  unfold rollbackCapacityTransaction
  refine .bind calm_resolvePlannedCapacityAdditions fun resolution => ?_
  refine .bind (.foldlM (fun failedDeletes simulatorId => ?_) _ _) fun failedDeletes => ?_
  · unfold rollbackAddition
    exact .tryCatch (.bind calm_deleteCapacityDevice fun _ => .pure _) fun _ => .pure _
  · split
    · exact .bind calm_writeCapacityTransaction fun _ => .bind (calm_appendCapacityEvent rfl)
        fun _ => .throw _
    · exact .bind calm_writeCapacityTransaction fun _ => .bind (calm_appendCapacityEvent rfl)
        fun _ => .throw _

/-! ## Recovery -/

theorem calm_failRecovery {status : TransactionStatus} {type : EventType} {reasonCode : ReasonCode}
    (htype : calm (.appendEvent { type, timestamp }) = true) :
    Calm (failRecovery transaction status type reasonCode timestamp : Broker α) :=
  .bind calm_writeCapacityTransaction fun _ => .bind (calm_appendCapacityEvent htype)
    fun _ => .throw _

theorem calm_settleRecovery {status : TransactionStatus} {type : EventType}
    (htype : calm (.appendEvent { type, timestamp }) = true) :
    Calm (settleRecovery transaction status type timestamp) :=
  .bind calm_writeCapacityTransaction fun _ => calm_appendCapacityEvent htype

theorem calm_settleTransaction {hostConfig : Option HostConfig} :
    Calm (settleTransaction hostConfig timestamp transaction) := by
  unfold settleTransaction
  dsimp only
  split
  · exact calm_settleRecovery rfl
  · split
    · exact calm_failRecovery rfl
    · exact .bind (.tryCatch (.forM (fun _ => calm_deleteCapacityDevice) _)
        fun _ => calm_failRecovery rfl) fun _ => calm_settleRecovery rfl

theorem calm_recoverTransaction {hostConfig : Option HostConfig} :
    Calm (recoverTransaction hostConfig timestamp transaction) := by
  unfold recoverTransaction
  split
  · exact .pure _
  · refine .bind calm_resolvePlannedCapacityAdditions fun resolution => ?_
    have hsettle : ∀ transaction, Calm
        (if resolutionAmbiguous resolution = true then
          failRecovery transaction .rollbackIncomplete .capacityReconcileRollbackIncomplete
            .capacityRollbackIncomplete timestamp
        else settleTransaction hostConfig timestamp transaction) := by
      intro transaction
      split
      · exact calm_failRecovery rfl
      · exact calm_settleTransaction
    dsimp only
    split
    · exact .bind calm_writeCapacityTransaction fun _ => hsettle _
    · exact hsettle _

theorem calm_recoverCapacityTransactions : Calm recoverCapacityTransactions := by
  unfold recoverCapacityTransactions
  refine .bind (.request rfl) fun now => .bind (.request rfl) fun transactions => ?_
  split
  · exact .pure _
  · refine .bind (.request rfl) fun config => ?_
    cases config with
    | none => exact .forM (fun _ => calm_recoverTransaction) _
    | some config =>
        refine .bind ?_ fun _ => .forM (fun _ => calm_recoverTransaction) _
        unfold validateHostConfig
        refine .map ?_
        split
        · exact .pure _
        · exact .throw _

/-! ## Creating the additions -/

/-- The simulators that the journal records were drawn. -/
def RecordedDrawn (world : World) (additions : List CapacityAddition) : Prop :=
  ∀ addition ∈ additions, ∀ simulatorId, addition.simulatorId = some simulatorId →
    simulatorId < world.outside.nextDevice

theorem RecordedDrawn.still {additions : List CapacityAddition} (hstill : Still world after)
    (hdrawn : RecordedDrawn world additions) : RecordedDrawn after additions :=
  fun addition hmem simulatorId hsome =>
    (hdrawn addition hmem simulatorId hsome).trans_le hstill.later.nextDevice

theorem RecordedDrawn.append {additions : List CapacityAddition} {addition : CapacityAddition}
    (hdrawn : RecordedDrawn world additions)
    (hlast : ∀ simulatorId, addition.simulatorId = some simulatorId →
      simulatorId < world.outside.nextDevice) :
    RecordedDrawn world (additions ++ [addition]) := by
  intro other hother
  obtain hother | hother := List.mem_append.mp hother
  · exact hdrawn other hother
  · rw [List.mem_singleton.mp hother]
    exact hlast

theorem safe_createAdditions (actions : List CapacityAction) {first : World}
    (hstill : Still first world) (hdrawn : RecordedDrawn world transaction.additions) :
    Safe context (createAdditions timestamp actions transaction)
      (fun progress after => Still first after ∧ RecordedDrawn after progress.transaction.additions)
      (fun _ _ => False) world := by
  induction actions generalizing transaction world with
  | nil => exact .pure ⟨hstill, hdrawn⟩
  | cons action rest ih =>
      unfold createAdditions
      dsimp only
      have hplanned : ∀ {middle} (preCreateDeviceIds : Option (List SimulatorId)),
          Still world middle → RecordedDrawn middle (transaction.additions ++
            [{ createPlannedCapacityAddition action with preCreateDeviceIds }]) :=
        fun preCreateDeviceIds hmiddle => (hdrawn.still hmiddle).append (by
          simp [createPlannedCapacityAddition])
      refine .seq (M := fun _ after => Still world after) (E := fun _ _ => False)
        (.attempt (.quiet (.bind quiet_readSimctlInventory fun _ => .pure _)))
        (fun _ _ _ h => h) fun outcome captured hcaptured => ?_
      cases outcome with
      | error error => exact .pure ⟨hstill.trans hcaptured, hplanned none hcaptured⟩
      | ok preCreateDeviceIds =>
          refine .seq (M := fun _ after => Still world after) (E := fun _ _ => False)
            (.attempt ((Safe.calm calm_writeCapacityTransaction).weaken
              (fun _ _ _ h => hcaptured.trans h) fun _ _ _ h => hcaptured.trans h))
            (fun _ _ _ h => h) fun outcome journaled hjournaled => ?_
          cases outcome with
          | error error =>
              exact .pure ⟨hstill.trans hjournaled, hplanned (some _) hjournaled⟩
          | ok value =>
              refine .seq (M := fun outcome after => Still world after ∧ ∀ simulatorId,
                  outcome = .ok simulatorId → simulatorId < after.outside.nextDevice)
                (E := fun _ _ => False)
                (.attempt (safe_createDevice.weaken
                  (fun _ _ _ h => ⟨hjournaled.trans h.1, fun _ hsame => by
                    rw [← Except.ok.inj hsame]
                    exact h.2.2⟩) fun _ _ _ h => ⟨hjournaled.trans h, by simp⟩))
                (fun _ _ _ h => h) fun outcome created hcreated => ?_
              obtain ⟨hcreated, hdevice⟩ := hcreated
              cases outcome with
              | error error => exact .pure ⟨hstill.trans hcreated, hplanned (some _) hcreated⟩
              | ok simulatorId =>
                  have hrecorded : ∀ {middle}, Still created middle → RecordedDrawn middle
                      (transaction.additions ++ [{ createPlannedCapacityAddition action with
                        preCreateDeviceIds := some preCreateDeviceIds
                        simulatorId := some simulatorId }]) := by
                    intro middle hmiddle
                    refine (hdrawn.still (hcreated.trans hmiddle)).append ?_
                    rintro _ ⟨⟩
                    exact (hdevice simulatorId rfl).trans_le hmiddle.later.nextDevice
                  refine .seq (M := fun _ after => Still created after) (E := fun _ _ => False)
                    (.attempt (.calm calm_writeCapacityTransaction)) (fun _ _ _ h => h)
                    fun outcome recorded hmiddle => ?_
                  have hlast := hstill.trans (hcreated.trans hmiddle)
                  cases outcome with
                  | error error => exact .pure ⟨hlast, hrecorded hmiddle⟩
                  | ok value => exact ih hlast (hrecorded hmiddle)

/-! ## Committing -/

theorem mem_additionAliases {additions : List CapacityAddition} {hostAlias : HostAlias}
    (hmem : hostAlias ∈ additions.filterMap additionAlias) :
    ∃ addition ∈ additions, addition.simulatorId = some hostAlias.simulatorId := by
  obtain ⟨addition, haddition, hsome⟩ := List.mem_filterMap.mp hmem
  obtain ⟨simulatorId, hrecorded, rfl⟩ := Option.map_eq_some_iff.mp hsome
  exact ⟨addition, haddition, hrecorded⟩

/-- The commit keeps every alias and adds the planned ones. -/
theorem safe_commitCapacityAdditions (hdrawn : RecordedDrawn world transaction.additions) :
    Safe context (commitCapacityAdditions transaction)
      (fun _ after => HostChanged world after) (fun _ after => HostChanged world after) world := by
  unfold commitCapacityAdditions
  refine .seq safe_readHostConfigOrThrow (fun _ _ _ h => h.hostChanged)
    fun current read hread => ?_
  obtain ⟨hread, hstill⟩ := hread
  replace hread := hread.kept hstill.toKept
  refine .assume fun hinvariant => ?_
  have hnames : ∀ name ∈ current.aliasNames, name ∈ ({ current with
      aliases := current.aliases ++ transaction.additions.filterMap additionAlias } :
        HostConfig).aliasNames := by
    intro name hname
    simp only [HostConfig.aliasNames, List.map_append, List.mem_append]
    exact .inl hname
  have hok : HostWriteOk context read { current with
      aliases := current.aliases ++ transaction.additions.filterMap additionAlias } := by
    refine ⟨?_, fun lease hlease => hnames _ ?_, fun pin hpin => hnames _ ?_,
      fun _ name hname hdropped => absurd (hnames _ ?_) hdropped⟩
    · intro simulatorId hmem
      obtain ⟨hostAlias, hbound, rfl⟩ := List.mem_map.mp hmem
      obtain hbound | hbound := List.mem_append.mp hbound
      · exact hread.drawn hinvariant.toConsistent _ (List.mem_map_of_mem hbound)
      · obtain ⟨addition, haddition, hrecorded⟩ := mem_additionAliases hbound
        exact hdrawn.still hstill addition haddition _ hrecorded
    · exact hread.configuredAliases ▸ hinvariant.leaseConfigured lease hlease
    · exact hread.configuredAliases ▸ hinvariant.pinConfigured pin hpin
    · exact hread.configuredAliases ▸ hname
  refine (safe_writeJsonAtomicDurable hok).weaken ?_ ?_
  · exact fun _ _ _ hwritten => hstill.hostChanged.trans hwritten.hostChanged
  · rintro error after - (⟨-, hfailed⟩ | ⟨-, hwritten⟩)
    · exact (hstill.trans hfailed).hostChanged
    · exact hstill.hostChanged.trans hwritten.hostChanged

theorem safe_finalizeCapacityTransaction (hready : Ready context timestamp world) :
    Safe context (finalizeCapacityTransaction context.paths transaction timestamp)
      (fun _ after => Counted context after) (fun _ after => Counted context after) world := by
  unfold finalizeCapacityTransaction
  refine .seq (Safe.calm calm_writeCapacityTransaction)
    (fun _ _ _ h => h.toKept.counted hready.counted) fun _ committed hcommitted => ?_
  replace hready := hready.kept hcommitted.toKept
  refine .seq (safe_loadBrokerState hready.counted hready.loadOk) (fun _ _ _ h => h.2)
    fun state loaded hloaded => ?_
  refine (Safe.calm (.bind calm_writeCapacityTransaction fun _ =>
    calm_appendCapacityEvent rfl)).weaken ?_ ?_
  · exact fun _ _ _ h => h.toKept.counted hloaded.counted
  · exact fun _ _ _ h => h.toKept.counted hloaded.counted

theorem calm_requireCommittedRecovery :
    Calm (requireCommittedRecovery transaction timestamp : Broker α) :=
  .bind calm_writeCapacityTransaction fun _ => .bind (calm_appendCapacityEvent rfl)
    fun _ => .throw _

/-- Whatever is left to do keeps the counts. -/
theorem safe_calmCounted {body : Broker α} (hcalm : Calm body) (hcounted : Counted context world) :
    Safe context body (fun _ after => Counted context after)
      (fun _ after => Counted context after) world :=
  (Safe.calm hcalm).weaken (fun _ _ _ h => h.toKept.counted hcounted)
    fun _ _ _ h => h.toKept.counted hcounted

theorem safe_applyCapacityPlan {plan : CapacityPlan} (hready : Ready context timestamp world) :
    Safe context (applyCapacityPlan context.paths plan timestamp)
      (fun _ after => Counted context after) (fun _ after => Counted context after) world := by
  unfold applyCapacityPlan
  refine .seq (M := fun (transaction : CapacityTransaction) after => Still world after ∧
      transaction.additions = []) (E := fun _ after => Still world after) ?_
    (fun _ _ _ h => h.toKept.counted hready.counted) fun transaction drawn hdrawn => ?_
  · unfold createCapacityTransaction
    refine .seq (M := fun _ after => Still world after) ?_ (fun _ _ _ h => h)
      fun _ after hstill => .pure ⟨hstill, rfl⟩
    exact (Safe.quiet (.request rfl)).weaken (fun _ _ _ h => h) fun _ _ _ h => h
  obtain ⟨hstill, hempty⟩ := hdrawn
  refine .seq (Safe.calm calm_writeCapacityTransaction)
    (fun _ _ _ h => (hstill.trans h).toKept.counted hready.counted) fun _ journaled hjournaled => ?_
  replace hready := hready.kept (hstill.trans hjournaled).toKept
  refine .seq (safe_createAdditions plan.actions (.refl journaled) (by simp [hempty, RecordedDrawn]))
    (fun _ _ _ h => h.elim) fun progress created hcreated => ?_
  obtain ⟨hstill, hrecorded⟩ := hcreated
  replace hready := hready.kept hstill.toKept
  cases progress.error with
  | some error => exact safe_calmCounted calm_rollbackCapacityTransaction hready.counted
  | none =>
      refine .seq (M := fun _ after => HostChanged created after) (E := fun _ _ => False)
        (.attempt (safe_commitCapacityAdditions hrecorded)) (fun _ _ _ h => h.elim)
        fun outcome committed hcommitted => ?_
      replace hready := hcommitted.ready hready
      cases outcome with
      | error error =>
          dsimp only
          split
          · exact safe_calmCounted calm_requireCommittedRecovery hready.counted
          · exact safe_calmCounted calm_rollbackCapacityTransaction hready.counted
      | ok value =>
          exact .catch (safe_finalizeCapacityTransaction hready)
            fun _ _ hcounted => safe_calmCounted calm_requireCommittedRecovery hcounted

/-! ## Evaluation and plan -/

theorem safe_loadCapacityProject :
    Safe context loadCapacityProject (fun _ after => Still world after)
      (fun _ after => Still world after) world := by
  refine .quiet (.tryCatch (.bind (.request rfl) fun _ => .pure _) fun error => ?_)
  split
  · exact .pure _
  · exact .throw _

theorem safe_hostConfigReadable :
    Safe context hostConfigReadable (fun _ after => Still world after)
      (fun _ after => Still world after) world := by
  refine .catch (E := fun _ after => Still world after)
    (.seq safe_readHostConfigOrThrow (fun _ _ _ h => h) fun _ _ hread => .pure hread.2)
    fun error failed hfailed => ?_
  split
  · exact .pure hfailed
  · exact .throw hfailed

/-- The end of `buildCapacityEvaluation`, once the project and the time are known. -/
def evaluateLoadedProject (paths : BrokerPaths) (project : ProjectConfig) (now : Timestamp)
    (apply : Bool) : Broker CapacityEvaluation := do
  if ← hostConfigReadable then
    match ← readSimctlInventory.attempt with
    | .error _ => return { project := some project, hostConfigured := true }
    | .ok inventory =>
        let loader :=
          if apply then
            loadBrokerState paths { timestamp := now, inventory := some inventory }
          else readBrokerStateSnapshot now (some inventory)
        match ← loader.attempt with
        | .error error =>
            if isMissingHostConfig error then
              return { project := some project, inventory := some inventory }
            else throw error
        | .ok state =>
            return {
              project := some project, hostConfigured := true
              inventory := some inventory, state := some state }
  else
    return { project := some project }

theorem safe_evaluateLoadedProject {apply : Bool} (hready : Ready context timestamp world)
    (hnow : Ready context now world) :
    Safe context (evaluateLoadedProject context.paths project now apply)
      (fun _ after => Ready context timestamp after) (fun _ after => Counted context after)
      world := by
  unfold evaluateLoadedProject
  refine .seq safe_hostConfigReadable (fun _ _ _ h => h.toKept.counted hready.counted)
    fun readable configured hconfigured => ?_
  replace hready := hready.kept hconfigured.toKept
  replace hnow := hnow.kept hconfigured.toKept
  split
  · refine .seq (M := fun _ after => Still configured after) (E := fun _ _ => False)
      (.attempt (.quiet quiet_readSimctlInventory)) (fun _ _ _ h => h.elim)
      fun outcome listed hlisted => ?_
    replace hready := hready.kept hlisted.toKept
    replace hnow := hnow.kept hlisted.toKept
    cases outcome with
    | error error => exact .pure hready
    | ok inventory =>
        have hloader : Safe context
            (if apply = true then
              loadBrokerState context.paths { timestamp := now, inventory := some inventory }
            else readBrokerStateSnapshot now (some inventory))
            (fun _ after => Ready context timestamp after)
            (fun _ after => Ready context timestamp after) listed := by
          split
          · exact (safe_loadBrokerState hnow.counted hnow.loadOk).weaken
              (fun _ _ _ h => h.ready hready) fun _ _ _ h => hready.later h.1.later h.2
          · exact (safe_readBrokerStateSnapshot hnow.past).weaken
              (fun _ _ _ h => hready.kept h.1.toKept) fun _ _ _ h => hready.kept h.toKept
        dsimp only
        refine .seq (M := fun _ after => Ready context timestamp after)
          (E := fun _ _ => False) (.attempt hloader) (fun _ _ _ h => h.elim)
          fun outcome loaded hloaded => ?_
        cases outcome with
        | error error =>
            dsimp only
            split
            · exact .pure hloaded
            · exact .throw hloaded.counted
        | ok state => exact .pure hloaded
  · exact .pure hready

theorem safe_buildCapacityEvaluation {options : CapacityOptions} {apply : Bool}
    (hready : Ready context timestamp world) :
    Safe context (buildCapacityEvaluation context.paths options apply)
      (fun _ after => Ready context timestamp after) (fun _ after => Counted context after)
      world := by
  unfold buildCapacityEvaluation
  refine .seq (E := fun _ _ => False)
    (M := fun now after => Ready context timestamp after ∧ Ready context now after)
    ((safe_now hready).weaken (fun _ _ _ h => ⟨hready.kept h.1.toKept, h.2⟩) fun _ _ _ h => h)
    (fun _ _ _ h => h.elim) fun now started hstarted => ?_
  obtain ⟨hready, hnow⟩ := hstarted
  refine .seq safe_loadCapacityProject (fun _ _ _ h => h.toKept.counted hready.counted)
    fun project read hread => ?_
  replace hready := hready.kept hread.toKept
  replace hnow := hnow.kept hread.toKept
  cases project with
  | none =>
      refine .seq (safe_read rfl (by simp)) (fun _ _ _ h => h.1.toKept.counted hready.counted)
        fun hostConfigured exists' hexists => ?_
      exact .pure (hready.kept hexists.2.toKept)
  | some project =>
      dsimp only
      cases options.purposeId with
      | none => exact safe_evaluateLoadedProject hready hnow
      | some purposeId =>
          refine .seq (safe_getPurpose hready.counted) (fun _ _ _ h => h)
            fun purpose found hfound => ?_
          subst hfound
          exact safe_evaluateLoadedProject hready hnow

theorem safe_buildCapacityPlan {planner : CapacityPlanner} {options : CapacityOptions}
    {apply : Bool} (hready : Ready context timestamp world) :
    Safe context (buildCapacityPlan context.paths planner options apply)
      (fun _ after => Ready context timestamp after) (fun _ after => Counted context after)
      world := by
  unfold buildCapacityPlan
  exact .seq (safe_buildCapacityEvaluation hready) (fun _ _ _ h => h)
    fun _ _ hevaluated => .pure hevaluated

theorem safe_checkCapacityBroker {options : CapacityOptions}
    (hready : Ready context timestamp world) :
    Safe context (checkCapacityBroker context.paths options)
      (fun _ after => Counted context after) (fun _ after => Counted context after) world :=
  (safe_buildCapacityEvaluation hready).weaken (fun _ _ _ h => h.counted) fun _ _ _ h => h

/-! ## The command -/

theorem safe_admitCapacityPlan {options : CapacityOptions} {plan : CapacityPlan}
    (hready : Ready context timestamp world) :
    Safe context (admitCapacityPlan options plan timestamp)
      (fun _ after => Ready context timestamp after) (fun _ after => Counted context after)
      world := by
  unfold admitCapacityPlan
  cases validateCapacityPlan options plan with
  | ok value => exact .pure hready
  | error error =>
      refine .seq (Safe.calm calm_recordCapacityRejection)
        (fun _ _ _ h => h.toKept.counted hready.counted) fun _ recorded hrecorded => ?_
      exact .throw (hrecorded.toKept.counted hready.counted)

theorem safe_reconcileCapacity {planner : CapacityPlanner} {options : CapacityOptions}
    (hready : Ready context timestamp world) :
    Safe context (reconcileCapacity context.paths planner options timestamp)
      (fun _ after => Counted context after) (fun _ after => Counted context after) world := by
  unfold reconcileCapacity
  refine .seq (Safe.calm calm_recoverCapacityTransactions)
    (fun _ _ _ h => h.toKept.counted hready.counted) fun _ recovered hrecovered => ?_
  replace hready := hready.kept hrecovered.toKept
  refine .seq (safe_buildCapacityPlan hready) (fun _ _ _ h => h) fun plan planned hplanned => ?_
  refine .seq (safe_admitCapacityPlan hplanned) (fun _ _ _ h => h) fun _ admitted hadmitted => ?_
  split
  · refine safe_calmCounted ?_ hadmitted.counted
    exact .bind calm_createCapacityTransaction fun _ => .bind calm_writeCapacityTransaction
      fun _ => calm_appendCapacityEvent rfl
  · exact safe_applyCapacityPlan hadmitted

theorem safe_reconcileCapacityBroker {planner : CapacityPlanner} {options : CapacityOptions}
    (hready : Ready context timestamp world) :
    Safe context (reconcileCapacityBroker context.paths planner options timestamp)
      (fun _ after => Counted context after) (fun _ after => Counted context after) world := by
  unfold reconcileCapacityBroker
  cases validateCapacityApplyShape options with
  | error error =>
      refine .seq (E := fun _ _ => False) (M := fun _ after => Counted context after)
        (safe_ignoringErrors (safe_countedUnderLock hready.counted fun locked hlocked => ?_))
        (fun _ _ _ h => h.elim) fun _ recorded hrecorded => .throw hrecorded
      refine .seq (safe_buildCapacityPlan (hready.kept hlocked.toKept)) (fun _ _ _ h => h)
        fun plan planned hplanned => ?_
      exact safe_calmCounted calm_recordCapacityRejection hplanned.counted
  | ok value =>
      refine safe_countedUnderLock hready.counted fun locked hlocked => ?_
      refine .seq (safe_buildCapacityPlan (hready.kept hlocked.toKept)) (fun _ _ _ h => h)
        fun plan planned hplanned => ?_
      refine .seq (safe_admitCapacityPlan hplanned) (fun _ _ _ h => h) fun _ admitted hadmitted => ?_
      exact safe_countedUnderLock hadmitted.counted fun _ hlease =>
        safe_reconcileCapacity (hadmitted.kept hlease.toKept)

end SimulatorBroker.Safety
