import SimulatorBroker.Runs.System

/-!
# The repair latch

An alias that was persisted as unhealthy stays so, gets no lease and keeps its cause only
until a repair succeeds or the alias leaves the host config.
-/

namespace SimulatorBroker.Runs

open SimulatorBroker.Effects
open SimulatorBroker.State
open SimulatorBroker.Broker
open SimulatorBroker.Safety

/-- What is persisted of an alias that has not been repaired since, and of a cause. -/
structure LatchHolds (world : World) : Prop where
  unhealthy : ∀ name, world.ledger.latched name = true →
    ∃ entry, world.store.entry name = some entry ∧
      (entry.health = .repairNeeded ∨ entry.health = .repairing)
  cause : ∀ name entry code, world.store.entry name = some entry →
    entry.driftCauseCode = some code →
    world.ledger.cause name = some code ∧
      (entry.health = .repairNeeded ∨ entry.health = .repairing)

/-- A lease file is written for a lease that is there and keeps its alias, or for a new one on
an alias that is not latched. -/
def GrantsHealthy (world : World) : BrokerOp → Prop
  | .rename (.lease record) =>
      (∃ old ∈ world.store.leases, old.leaseId = record.leaseId ∧
        old.aliasName = record.aliasName) ∨
        world.ledger.latched record.aliasName = false
  | _ => True

/-- A simulator is deleted only for aliases with a recorded cause, and only these leave the
host config. -/
def DeletesCaused (world : World) : BrokerOp → Prop
  | .deleteDevice simulatorId .delete =>
      ∀ config, world.store.hostConfig = some config → ∀ hostAlias ∈ config.aliases,
        hostAlias.simulatorId = simulatorId → (world.ledger.cause hostAlias.aliasName).isSome
  | .rename (.hostConfig config) =>
      ∀ name ∈ world.store.configuredAliases, name ∉ config.aliasNames →
        (world.ledger.cause name).isSome
  | _ => True

variable {paths : BrokerPaths} {surroundings : Surroundings} {world middle : World}

theorem unhealthy_of_latched {health : Health} (hlatched : health.latched = true) :
    health = .repairNeeded ∨ health = .repairing := by
  cases health with
  | repairNeeded => exact .inl rfl
  | repairing => exact .inr rfl
  | healthy => cases hlatched
  | stateDrift => cases hlatched

theorem latchHolds_of_consistent (hconsistent : Consistent paths world) : LatchHolds world where
  unhealthy name hlatched := by
    obtain ⟨entry, hentry, hhealth⟩ := hconsistent.latched name hlatched
    exact ⟨entry, hentry, unhealthy_of_latched hhealth⟩
  cause name entry code hentry hcode := by
    obtain ⟨hcause, hhealth⟩ := hconsistent.cause name entry code hentry hcode
    exact ⟨hcause, unhealthy_of_latched hhealth⟩

theorem grantsHealthy_of_stepOk {context : Context} {op : BrokerOp}
    (hok : StepOk context op world) : GrantsHealthy world op := by
  cases op with
  | rename file =>
      cases file with
      | lease record =>
          have hok : LeaseWriteOk context world record := hok
          rcases hok.placed with ⟨old, hold, hrewrites⟩ | hplaces
          · exact .inl ⟨old, hold, hrewrites.leaseId, hrewrites.aliasName⟩
          · exact .inr hplaces.healthy
      | _ => trivial
  | _ => trivial

theorem deletesCaused_of_stepOk {context : Context} {op : BrokerOp}
    (hcause : context.causeOnly = true) (hok : StepOk context op world) :
    DeletesCaused world op := by
  cases op with
  | deleteDevice simulatorId site =>
      cases site with
      | delete =>
          intro config hconfig hostAlias hmem hbound
          exact (hok config hconfig hostAlias hmem hbound).2.2 hcause
      | _ => trivial
  | rename file =>
      cases file with
      | hostConfig config => exact HostWriteOk.caused hok hcause
      | _ => trivial
  | _ => trivial

/-- In every world of a run, and at every operation of the command that is running. -/
theorem repairLatch_of_run (hrun : Run paths .arbitrary world) :
    LatchHolds world ∧
      ∀ (surroundings : Surroundings) (command : Command) (timestamp : Timestamp) (op : BrokerOp)
        (middle : World), timestamp ≤ world.outside.clock →
        Performs (brokerHandler surroundings) (command.body paths timestamp) world op middle →
        LatchHolds middle ∧ GrantsHealthy middle op ∧
          (∀ purposeId, command = .deletePurpose purposeId → DeletesCaused middle op) := by
  refine ⟨latchHolds_of_consistent hrun.consistent, ?_⟩
  intro surroundings command timestamp op middle hpast hperforms
  obtain ⟨hok, hconsistent⟩ := (sound_body hrun.consistent hpast).guarded hperforms
  refine ⟨latchHolds_of_consistent hconsistent, grantsHealthy_of_stepOk hok, ?_⟩
  rintro purposeId rfl
  exact deletesCaused_of_stepOk rfl hok

/-! ## A missing simulator -/

/-- The simulator of the alias is gone. -/
def missingHost : World :=
  { singleHost with outside := { singleHost.outside with devices := [] } }

/-- A status load has found it missing. -/
def latchedWorld : World :=
  (((Command.hostStatus).body {} 0).run ({} : Script).respond 0 missingHost).2

theorem fresh_missingHost : Fresh missingHost where
  registry := rfl
  leases := rfl
  pins := rfl
  ledger := rfl
  devicesDrawn := by
    rintro device ⟨⟩
  boundDrawn := fresh_singleHost.boundDrawn

theorem repairLatch_latchedWorld :
    latchedWorld.ledger.latched "build-1" = true ∧ LatchHolds latchedWorld :=
  ⟨by decide +kernel, (repairLatch_of_run
    ((Run.fresh fresh_missingHost).script {} .hostStatus (Nat.zero_le _))).1⟩

end SimulatorBroker.Runs
