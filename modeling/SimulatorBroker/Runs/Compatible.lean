import SimulatorBroker.Runs.System

/-!
# Leases beside pins

Which leases and pins stand beside each other, in every world that is reached.
-/

namespace SimulatorBroker.Runs

open SimulatorBroker.Effects
open SimulatorBroker.State
open SimulatorBroker.Broker
open SimulatorBroker.Safety

/-- One pin for an alias, pins that admit the lease beside them, and no lease and no pin
on an alias that the host config does not name. -/
structure PinsAgree (store : Store) : Prop where
  single : (store.pins.map (·.aliasName)).Nodup
  admits : ∀ lease ∈ store.leases, ∀ pin ∈ store.pins, pin.aliasName = lease.aliasName →
    lease.projectId = pin.projectId ∧
      (pin.purposeId = none ∨ pin.purposeId = some lease.purposeId)
  pinned : ∀ pin ∈ store.pins, pin.aliasName ∈ store.configuredAliases
  leased : ∀ lease ∈ store.leases, lease.aliasName ∈ store.configuredAliases

theorem admits_of_leaseMatchesPin {projectId : ProjectId} {purposeId : PurposeId} {pin : Pin}
    (hmatches : leaseMatchesPin projectId purposeId pin = true) :
    projectId = pin.projectId ∧ (pin.purposeId = none ∨ pin.purposeId = some purposeId) := by
  obtain ⟨hproject, hpurpose⟩ := Bool.and_eq_true_iff.mp hmatches
  refine ⟨of_decide_eq_true hproject, ?_⟩
  cases hpinned : pin.purposeId with
  | none => exact .inl rfl
  | some pinned =>
      rw [hpinned] at hpurpose
      exact .inr (congrArg some (of_decide_eq_true hpurpose).symm)

variable {paths : BrokerPaths} {surroundings : Surroundings} {world : World}

/-- In every world that is reached. -/
theorem pinsAgree_of_run (hrun : Run paths surroundings world) : PinsAgree world.store := by
  have hconsistent := hrun.consistent
  constructor
  · exact hconsistent.pinAliases
  · intro lease hlease pin hpin halias
    exact admits_of_leaseMatchesPin (hconsistent.compatible lease hlease pin hpin halias)
  · exact hconsistent.pinConfigured
  · exact hconsistent.leaseConfigured

/-! ## A pinned lease -/

def pinScript : Script where
  project := buildProject
  samples := [{ pid := 100, pgid := some 100, elapsed := some "01:00", command := "node" }]

/-- A lease of the alias, then a pin beside it. -/
def pinnedWorld : World :=
  (((Command.createPin { aliasName := "build-1", purposeId := "tests" }).body {} 0).run
    pinScript.respond 0
    (((Command.acquire { purposeId := "tests", ownerPid := 100 }).body {} 0).run
      pinScript.respond 0 singleHost).2).2

theorem pinsAgree_pinnedWorld :
    pinnedWorld.store.leases.length = 1 ∧ pinnedWorld.store.pins.length = 1 ∧
      PinsAgree pinnedWorld.store := by
  refine ⟨by decide +kernel, by decide +kernel, ?_⟩
  exact pinsAgree_of_run (((Run.fresh fresh_singleHost).script pinScript _ (Nat.zero_le _)).script
    pinScript _ (Nat.zero_le _))

end SimulatorBroker.Runs
