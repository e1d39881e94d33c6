import SimulatorBroker.Persistence.Commands

/-!
# The registry writes of the capacity commands

Checks and applies write the registry in the loads of their plans and after a commit only.
-/

namespace SimulatorBroker.Persistence

open SimulatorBroker.Effects
open SimulatorBroker.State
open SimulatorBroker.Broker

variable {surroundings : Surroundings} {α : Type} {paths : BrokerPaths} {timestamp : Timestamp}

/-! ## Capacity -/

theorem silent_writeCapacityTransaction {transaction : CapacityTransaction} :
    Silent (writeCapacityTransaction transaction) :=
  silent_writeJsonAtomicRestricted rfl

theorem silent_appendCapacityEvent {type : EventType} :
    Silent (appendCapacityEvent type timestamp) :=
  .bind silent_appendEventRecord fun _ => .pure _

theorem silent_createCapacityTransaction : Silent (createCapacityTransaction timestamp) :=
  .bind (.request rfl) fun _ => .pure _

theorem silent_recordCapacityRejection : Silent (recordCapacityRejection timestamp) :=
  .bind silent_createCapacityTransaction fun _ => .bind silent_writeCapacityTransaction
    fun _ => silent_appendCapacityEvent

theorem free_buildCapacityEvaluation {options : CapacityOptions} {apply : Bool} :
    Free surroundings (buildCapacityEvaluation paths options apply) := by
  have hproject : Silent loadCapacityProject := by
    unfold loadCapacityProject
    refine .tryCatch (.bind (.request rfl) fun _ => .pure _) fun error => ?_
    split
    · exact .pure _
    · exact .throw _
  have hreadable : Silent hostConfigReadable := by
    unfold hostConfigReadable
    refine .tryCatch (.bind silent_readHostConfigOrThrow fun _ => .pure _) fun error => ?_
    split
    · exact .pure _
    · exact .throw _
  have hloader : ∀ {timestamp : Timestamp} {inventory : SimctlInventory}, Free surroundings
      (if apply then loadBrokerState paths { timestamp, inventory := some inventory }
        else readBrokerStateSnapshot timestamp (some inventory)) := by
    intro timestamp inventory
    split
    · exact free_loadBrokerState
    · exact .of_keeps (P := Ready) fun _ => keeps_readBrokerStateSnapshot
  unfold buildCapacityEvaluation
  refine .seq (.silent (.request rfl)) fun timestamp => .seq (.silent hproject) fun project => ?_
  split
  · exact .seq (.silent (.request rfl)) fun _ => .pure
  · dsimp only
    split
    on_goal 2 => refine .seq (.silent silent_getPurpose) fun _ => ?_
    all_goals
      refine .seq (.silent hreadable) fun readable => ?_
      split
      · refine .seq (.attempt (.silent silent_readSimctlInventory)) fun outcome => ?_
        cases outcome with
        | error error => exact .pure
        | ok inventory =>
            refine .seq (.attempt hloader) fun outcome => ?_
            cases outcome with
            | error error =>
                dsimp only
                split
                · exact .pure
                · exact .throw
            | ok state => exact .pure
      · exact .pure

theorem free_buildCapacityPlan {planner : CapacityPlanner} {options : CapacityOptions}
    {apply : Bool} : Free surroundings (buildCapacityPlan paths planner options apply) :=
  .seq free_buildCapacityEvaluation fun _ => .pure

theorem free_checkCapacityBroker {options : CapacityOptions} :
    Free surroundings (checkCapacityBroker paths options) :=
  free_buildCapacityEvaluation

theorem silent_admitCapacityPlan {options : CapacityOptions} {plan : CapacityPlan} :
    Silent (admitCapacityPlan options plan timestamp) := by
  unfold admitCapacityPlan
  split
  · exact .pure _
  · exact .bind silent_recordCapacityRejection fun _ => .throw _

theorem silent_resolvePlannedCapacityAdditions {transaction : CapacityTransaction} :
    Silent (resolvePlannedCapacityAdditions transaction) := by
  unfold resolvePlannedCapacityAdditions
  split
  · exact .bind silent_readSimctlInventory fun _ => .pure _
  · exact .pure _

theorem silent_deleteCapacityDevice {simulatorId : SimulatorId} :
    Silent (deleteCapacityDevice simulatorId) := by
  unfold deleteCapacityDevice
  refine .bind (.request rfl) fun _ => .bind silent_readSimctlInventory fun inventory => ?_
  split
  · exact .throw _
  · exact .pure _

/-- A journal is closed, then an error is thrown. -/
theorem silent_closeJournal {transaction : CapacityTransaction} {type : EventType}
    {error : BrokerError} : Silent (do
      writeCapacityTransaction transaction
      appendCapacityEvent type timestamp
      throw error : Broker α) :=
  .bind silent_writeCapacityTransaction fun _ => .bind silent_appendCapacityEvent
    fun _ => .throw _

theorem silent_rollbackCapacityTransaction {transaction : CapacityTransaction} :
    Silent (rollbackCapacityTransaction (α := α) transaction timestamp) := by
  unfold rollbackCapacityTransaction
  refine .bind silent_resolvePlannedCapacityAdditions fun resolution =>
    .bind (.foldlM (fun failed simulatorId => ?_) _ _) fun failed => ?_
  · unfold rollbackAddition
    exact .tryCatch (.bind silent_deleteCapacityDevice fun _ => .pure _) fun _ => .pure _
  · split
    · exact silent_closeJournal
    · exact silent_closeJournal

theorem silent_settleTransaction {hostConfig : Option HostConfig}
    {transaction : CapacityTransaction} :
    Silent (settleTransaction hostConfig timestamp transaction) := by
  have hsettle : ∀ {status : TransactionStatus} {type : EventType},
      Silent (settleRecovery transaction status type timestamp) :=
    .bind silent_writeCapacityTransaction fun _ => silent_appendCapacityEvent
  unfold settleTransaction
  dsimp only
  split
  · exact hsettle
  · split
    · exact silent_closeJournal
    · exact .bind (.tryCatch (.forM (fun _ => silent_deleteCapacityDevice) _)
        fun _ => silent_closeJournal) fun _ => hsettle

theorem silent_recoverCapacityTransactions : Silent recoverCapacityTransactions := by
  unfold recoverCapacityTransactions
  refine .bind (.request rfl) fun timestamp => .bind (.request rfl) fun transactions => ?_
  split
  · exact .pure _
  · have hrecover : ∀ (hostConfig : Option HostConfig),
        Silent (transactions.forM (recoverTransaction hostConfig timestamp)) := by
      intro hostConfig
      refine .forM (fun transaction => ?_) _
      unfold recoverTransaction
      split
      · exact .pure _
      · refine .bind silent_resolvePlannedCapacityAdditions fun resolution => ?_
        dsimp only
        split
        · refine .bind silent_writeCapacityTransaction fun _ => ?_
          split
          · exact silent_closeJournal
          · exact silent_settleTransaction
        · split
          · exact silent_closeJournal
          · exact silent_settleTransaction
    refine .bind (.request rfl) fun config => ?_
    cases config with
    | none => exact .bind (.pure _) hrecover
    | some config =>
        refine .bind (.map ?_) hrecover
        unfold validateHostConfig
        split
        · exact .pure _
        · exact .throw _

theorem silent_createAdditions (actions : List CapacityAction)
    (transaction : CapacityTransaction) :
    Silent (createAdditions timestamp actions transaction) := by
  induction actions generalizing transaction with
  | nil => exact .pure _
  | cons action rest ih =>
      unfold createAdditions
      refine .bind (.attempt (.bind silent_readSimctlInventory fun _ => .pure _))
        fun outcome => ?_
      cases outcome with
      | error error => exact .pure _
      | ok preCreateDeviceIds =>
          refine .bind (.attempt silent_writeCapacityTransaction) fun outcome => ?_
          cases outcome with
          | error error => exact .pure _
          | ok value =>
              refine .bind (.attempt (.request rfl)) fun outcome => ?_
              cases outcome with
              | error error => exact .pure _
              | ok simulatorId =>
                  refine .bind (.attempt silent_writeCapacityTransaction) fun outcome => ?_
                  cases outcome with
                  | error error => exact .pure _
                  | ok value => exact ih _

theorem free_applyCapacityPlan {plan : CapacityPlan} :
    Free surroundings (applyCapacityPlan paths plan timestamp) := by
  unfold applyCapacityPlan
  refine .seq (.silent silent_createCapacityTransaction) fun transaction =>
    .seq (.silent silent_writeCapacityTransaction) fun _ =>
      .seq (.silent (silent_createAdditions _ _)) fun progress => ?_
  split
  · exact .silent silent_rollbackCapacityTransaction
  · refine .seq (.attempt (.seq (.silent silent_readHostConfigOrThrow) fun current =>
      .registryless registryless_writeJsonAtomicDurable)) fun outcome => ?_
    cases outcome with
    | error error =>
        dsimp only
        split
        · exact .silent silent_closeJournal
        · exact .silent silent_rollbackCapacityTransaction
    | ok value =>
        refine .tryCatch ?_ fun _ => .silent silent_closeJournal
        unfold finalizeCapacityTransaction
        exact .seq (.silent silent_writeCapacityTransaction) fun _ => .seq free_loadBrokerState
          fun _ => .seq (.silent silent_writeCapacityTransaction) fun _ =>
            .silent silent_appendCapacityEvent

theorem free_reconcileCapacityBroker {planner : CapacityPlanner} {options : CapacityOptions} :
    Free surroundings (reconcileCapacityBroker paths planner options timestamp) := by
  unfold reconcileCapacityBroker
  split
  · refine .seq ?_ fun _ => .throw
    unfold recordShapeRejection
    exact .tryCatch (.withLock (.seq free_buildCapacityPlan fun _ =>
      .silent silent_recordCapacityRejection)) fun _ => .pure
  · refine .withLock (.seq free_buildCapacityPlan fun confirmed =>
      .seq (.silent silent_admitCapacityPlan) fun _ => .withLock ?_)
    unfold reconcileCapacity
    refine .seq (.silent silent_recoverCapacityTransactions) fun _ =>
      .seq free_buildCapacityPlan fun plan => .seq (.silent silent_admitCapacityPlan) fun _ => ?_
    split
    · unfold applyNoChangesPlan
      exact .silent (.bind silent_createCapacityTransaction fun _ =>
        .bind silent_writeCapacityTransaction fun _ => silent_appendCapacityEvent)
    · exact free_applyCapacityPlan

end SimulatorBroker.Persistence
