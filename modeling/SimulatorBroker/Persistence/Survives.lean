import SimulatorBroker.Persistence.Capacity
import SimulatorBroker.State.Truthful

/-!
# The registry survives its file

Every registry that a command writes comes back from the file: the entry of each alias of the host
config on disk, and both results.
-/

namespace SimulatorBroker.Persistence

open SimulatorBroker.Effects
open SimulatorBroker.State
open SimulatorBroker.Broker
open SimulatorBroker.Text

variable {surroundings : Surroundings} {paths : BrokerPaths} {timestamp : Timestamp}

/-! ## Every command -/

/-- The label that the caller of an idle reconcile gives is a string that is not empty. -/
def LabelsResult : Command → Prop
  | .reconcileIdle options => options.label.isLabel = true
  | _ => True

theorem free_body {command : Command} (hlabel : LabelsResult command) :
    Free surroundings (command.body paths timestamp) := by
  cases command with
  | acquire options => exact .of_keeps fun _ => keeps_acquireLeaseBroker
  | register options => exact .of_keeps fun _ => keeps_registerLeaseProcessBroker
  | contain reference reason => exact .of_keeps fun _ => keeps_containLeaseBroker
  | release reference => exact .of_keeps fun _ => keeps_releaseLeaseBroker
  | createPin options => exact .of_keeps fun _ => keeps_createPinBroker
  | clearPin name => exact .of_keeps fun _ => keeps_clearPinBroker
  | lifecycle action options => exact .of_keeps fun _ => keeps_lifecycleActionBroker
  | repairPurpose options => exact .of_keeps fun _ => keeps_repairPurposeSimulatorsBroker
  | deleteSimulator name => exact free_deleteSimulatorBroker
  | deletePurpose purposeId => exact free_deletePurposeSimulatorsBroker
  | hostStatus => exact .of_keeps (P := Ready) fun _ => keeps_loadUnderLock
  | doctor => exact .of_keeps fun _ => keeps_doctorBroker
  | explain purposeId explicitAlias => exact .of_keeps fun _ => keeps_explainLeaseBroker
  | validateProject =>
      exact .silent (silent_withLock (.bind (.request rfl) fun _ =>
        .bind silent_rememberKnownProjectFromDisk fun _ => .pure _))
  | forgetProject projectId => exact .of_keeps fun _ => keeps_forgetKnownProjectBroker
  | init options => exact free_initBroker
  | setup planner options => exact free_applySetupBroker
  | checkCapacity options => exact free_checkCapacityBroker
  | reconcileCapacity planner options => exact free_reconcileCapacityBroker
  | idleStatus => exact .of_keeps fun _ => keeps_idleStatusBroker
  | enableIdle actor graceSeconds => exact .silent silent_enableIdlePolicyBroker
  | disableIdle actor => exact .silent silent_disableIdlePolicyBroker
  | reconcileIdle options => exact .of_keeps fun _ => keeps_reconcileIdleBroker hlabel
  | previewIdleCleanup => exact .of_keeps fun _ => keeps_previewIdleCleanupBroker
  | applyIdleCleanup actor confirmPlanId persistNoChanges =>
      exact .of_keeps fun _ => keeps_applyIdleCleanupBroker
  | appSnapshot skipLeaseIds => exact .of_keeps fun _ => keeps_writeAppSnapshotArtifact

/-- The command, started in `first`, passes `content` to `writeRegistry` while `config` is the host
config on disk. -/
structure WritesRegistry (surroundings : Surroundings) (paths : BrokerPaths)
    (timestamp : Timestamp) (command : Command) (first : World) (config : HostConfig)
    (content : Registry) : Prop where
  performs : ∃ note world,
    Performs (brokerHandler surroundings) (command.body paths timestamp) first
      (.rename (.registry content note)) world ∧ world.store.hostConfig = some config

theorem WritesRegistry.accepts {command : Command} {first : World} {config : HostConfig}
    {content : Registry}
    (hwrites : WritesRegistry surroundings paths timestamp command first config content)
    (hlabel : LabelsResult command) : Accepts (some config.aliasNames) content := by
  obtain ⟨note, world, hperforms, hconfig⟩ := hwrites.performs
  have hguard := (free_body hlabel _ first rfl).guarded hperforms
  have hdisk : diskNames world = some config.aliasNames := by
    unfold diskNames
    rw [hconfig]
    rfl
  exact hdisk ▸ hguard

/-! ## What comes back -/

/-- The host config on disk of a host that has one. -/
def configured (world : World) : HostConfig :=
  world.store.hostConfig.getD { aliases := [], hostId := "" }

/-- One that is given no label, and takes its own. -/
abbrev labelled : Command := .reconcileIdle {}

end SimulatorBroker.Persistence
