import SimulatorBroker.Reading.Errors

/-!
# The two state readers

What the lock-free snapshot and the mutating load make of one store: the same
config, pins and health, and no lease in the load that the snapshot leaves out.
-/

namespace SimulatorBroker.Reading

open SimulatorBroker.Effects
open SimulatorBroker.State
open SimulatorBroker.Broker

variable {surroundings : Surroundings} {readout : Readout} {world : World}

/-! ## Reading the files -/

/-- The host config on disk, as a reader accepts it. -/
def AcceptedConfig (world : World) (config : HostConfig) : Prop :=
  ∃ raw, world.store.hostConfig = some raw ∧ raw.Valid ∧
    config = { raw with pendingRetirements := raw.pendingRetirements.dedup }

theorem AcceptedConfig.unique {left right : HostConfig} (hleft : AcceptedConfig world left)
    (hright : AcceptedConfig world right) : left = right := by
  obtain ⟨raw, hraw, -, rfl⟩ := hleft
  obtain ⟨other, hother, -, rfl⟩ := hright
  rw [hraw] at hother
  cases hother
  rfl

def ownerLive (readout : Readout) (timestamp : Timestamp) (lease : Lease) : Bool :=
  readout.processExists lease.ownerPid && lease.runtimeOwnerPid.isSome &&
    (!(lease.runtime.ownerRegisteredAt.isSome || lease.hasContainmentProcessMetadata) ||
      ownerPidValidated lease readout.sample timestamp)

/-- A sample taken before is the one of the readout. -/
def SampledFrom (readout : Readout) (sampled : Option (List ProcessRecord)) : Prop :=
  ∀ records, sampled = some records → records = readout.sample

/-- Entry by entry the two registries show the same of `key`. -/
def AgreeOn {κ : Type} (key : RegistryEntry → κ) (left right : Registry) : Prop :=
  ∀ name, (left.aliases name).map key = (right.aliases name).map key

/-- What a synchronization with the simulators looks at. -/
def condition (entry : RegistryEntry) : Health × Option String :=
  (entry.health, entry.driftReason)

/-- What makes a lease file a leftover. -/
def rollbackMark (entry : RegistryEntry) : (Health × Option String) × Option LeaseId :=
  (condition entry, entry.activeLeaseId)

section Scanned

variable {start registry other : Registry} {name : AliasName} {lease : Lease}

theorem AgreeOn.refl {κ : Type} {key : RegistryEntry → κ} : AgreeOn key registry registry :=
  fun _ => rfl

theorem AgreeOn.trans {κ : Type} {key : RegistryEntry → κ} (hfirst : AgreeOn key start registry)
    (hsecond : AgreeOn key registry other) : AgreeOn key start other :=
  fun name => (hfirst name).trans (hsecond name)

theorem AgreeOn.symm {κ : Type} {key : RegistryEntry → κ} (hagree : AgreeOn key start registry) :
    AgreeOn key registry start :=
  fun name => (hagree name).symm

theorem AgreeOn.modify {κ : Type} {key : RegistryEntry → κ} {mutate : RegistryEntry → RegistryEntry}
    (hkeeps : ∀ entry, key (mutate entry) = key entry) :
    AgreeOn key registry (registry.modify name mutate) := by
  intro which
  by_cases hname : which = name
  · rw [hname, Registry.modify_aliases_self, Option.map_map]
    congr 1
    funext entry
    exact (hkeeps entry).symm
  · rw [Registry.modify_aliases_of_ne registry mutate hname]

theorem AgreeOn.condition (hagree : AgreeOn rollbackMark start registry) :
    AgreeOn condition start registry := by
  intro which
  have hmarks := congrArg (Option.map Prod.fst) (hagree which)
  simpa [Option.map_map, Function.comp_def, rollbackMark] using hmarks

/-- The load forgets active leases as it goes, and nothing else a leftover is known by. -/
structure Aged (start registry : Registry) : Prop where
  same : AgreeOn condition start registry
  active : ∀ name old entry, start.aliases name = some old → registry.aliases name = some entry →
    entry.activeLeaseId = old.activeLeaseId ∨ entry.activeLeaseId = none

theorem Aged.refl : Aged start start where
  same := .refl
  active name old entry hold hentry := by
    rw [hold] at hentry
    cases hentry
    exact .inl rfl

theorem condition_released (timestamp : Timestamp) (entry : RegistryEntry) :
    condition (markAliasLeaseReleased timestamp entry) = condition entry :=
  rfl

/-- A lease of the alias ends. -/
theorem Aged.released (haged : Aged start registry) (name : AliasName) (timestamp : Timestamp) :
    Aged start (registry.modify name (markAliasLeaseReleased timestamp)) where
  same := haged.same.trans (.modify (condition_released timestamp))
  active which old entry hold hentry := by
    by_cases hname : which = name
    · rw [hname, Registry.modify_aliases_self] at hentry
      obtain ⟨before, -, rfl⟩ := Option.map_eq_some_iff.mp hentry
      exact .inr rfl
    · rw [Registry.modify_aliases_of_ne registry _ hname] at hentry
      exact haged.active which old entry hold hentry

theorem Aged.touched (haged : Aged start registry) (timestamp : Timestamp) :
    Aged start (registry.touch timestamp) :=
  ⟨haged.same, haged.active⟩

/-- What is a leftover at the start of a load is one throughout. -/
theorem Aged.leftover (haged : Aged start registry)
    (hleftover : isLeftoverAcquireRollbackLease lease start = true) :
    isLeftoverAcquireRollbackLease lease registry = true := by
  have hcondition := haged.same lease.aliasName
  unfold isLeftoverAcquireRollbackLease at hleftover ⊢
  cases hstart : start.aliases lease.aliasName with
  | none => simp [hstart] at hleftover
  | some old =>
      rw [hstart, Option.map_some] at hcondition
      obtain ⟨entry, hentry, hsame⟩ := Option.map_eq_some_iff.mp hcondition.symm
      simp only [condition, Prod.mk.injEq] at hsame
      simp only [hstart, Bool.and_eq_true, decide_eq_true_eq] at hleftover
      simp only [hentry, hsame, Bool.and_eq_true, decide_eq_true_eq]
      refine ⟨hleftover.1, ?_⟩
      rcases haged.active _ _ _ hstart hentry with hactive | hactive
      · rw [hactive]
        exact hleftover.2
      · rw [hactive]
        rintro ⟨⟩

end Scanned

/-- A reader that starts from `start` counts the lease file, whatever becomes of its processes. -/
def Counts (readout : Readout) (start : Registry) (timestamp : Timestamp) (lease : Lease) : Prop :=
  isLeftoverAcquireRollbackLease lease start = false ∧
    (ownerLive readout timestamp lease || lease.hasContainmentProcessMetadata) = true

/-! ## The snapshot -/

/-- What both readers make of the files: the config, the pins, and a registry that is
synchronized from the conditions on disk. -/
structure ReadState (readout : Readout) (first : World) (timestamp : Timestamp)
    (inventory : SimctlInventory) (state : BrokerState) : Prop where
  config : AcceptedConfig first state.hostConfig
  pins : state.pins = readout.pins
  pinsByAlias : state.pinsByAlias = indexPins readout.pins
  leasesByAlias : state.leasesByAlias = indexLeases state.leases
  registry : ∃ scanned,
    AgreeOn condition (normalizeRegistry first.store.registry state.hostConfig timestamp) scanned ∧
      state.registry = (syncRegistry state.hostConfig inventory
        (adoptHolders state.leasesByAlias state.pinsByAlias state.hostConfig timestamp
          scanned)).touch timestamp

/-- The snapshot leaves out no lease file that a reader counts. -/
structure SnapshotState (readout : Readout) (first : World) (timestamp : Timestamp)
    (inventory : SimctlInventory) (state : BrokerState) : Prop
    extends ReadState readout first timestamp inventory state where
  counted : ∀ lease ∈ readout.leases,
    Counts readout (normalizeRegistry first.store.registry state.hostConfig timestamp) timestamp
      lease → lease ∈ state.leases

theorem returns_nowIso {timestamp : Timestamp} :
    Returns surroundings readout (nowIso (some timestamp))
      (fun now after => now = timestamp ∧ after = world) (fun error _ => Unrelated error) world :=
  .pure ⟨rfl, rfl⟩

theorem aged_contained {start registry : Registry} (haged : Aged start registry)
    {paths : BrokerPaths} {lease : Lease} {timestamp : Timestamp} :
    Returns surroundings readout (removeLeaseAfterContainment paths registry lease timestamp)
      (fun marked _ => Aged start marked) (fun error _ => Unrelated error) world := by
  unfold removeLeaseAfterContainment
  refine .seq (mild_assertLeaseArtifactPathAllowed world) fun _ first _ => ?_
  cases registry.aliases lease.aliasName with
  | none => exact .seq (mild_removeLeaseRecordFiles first) fun _ _ _ => .pure haged
  | some entry =>
      refine .seq (mild_writeRegistry first) fun _ second _ => ?_
      exact .seq (mild_removeLeaseRecordFiles second) fun _ _ _ =>
        .pure ((haged.released _ _).touched timestamp)

/-- A containment leaves a registry that is only aged, or an observed lease. -/
def ContainedFrom (start : Registry) (lease : Lease) (timestamp : Timestamp) :
    ContainedRecord → Prop
  | .contained registry => Aged start registry
  | .notContained _ => True
  | .incomplete observed => ∃ observation, observed = observedLease lease observation timestamp

theorem returns_containLeaseRecord {start registry : Registry} (haged : Aged start registry)
    {paths : BrokerPaths} {lease : Lease} {reason : ContainmentReason} {timestamp : Timestamp} :
    Returns surroundings readout
      (containLeaseRecord paths registry lease reason (some timestamp))
      (fun record _ => ContainedFrom start lease timestamp record)
      (fun error _ => Unrelated error) world := by
  unfold containLeaseRecord
  refine .seq returns_nowIso ?_
  rintro now first ⟨rfl, rfl⟩
  refine .seq (mild_perform (.containLeaseProcesses lease reason) first) fun outcome second _ => ?_
  cases outcome with
  | notContained observation =>
      simp only
      refine .seq (mild_writeLeaseRecord second) fun _ _ _ => .pure trivial
  | contained result =>
      simp only
      split
      · refine .seq returns_nowIso ?_
        rintro releasedAt third ⟨rfl, rfl⟩
        refine .seq (aged_contained haged) fun released fourth hreleased => ?_
        refine .seq (mild_perform _ fourth) fun _ fifth _ => ?_
        exact .seq (mild_appendEventRecord fifth) fun _ _ _ => .pure hreleased
      · refine .seq (mild_perform _ second) fun _ third _ => ?_
        exact .seq (mild_writeLeaseRecord third) fun _ _ _ => .pure ⟨_, rfl⟩

/-- What the loop of the load keeps: a kept lease comes from a file a reader counts. -/
structure LoadLoop (readout : Readout) (start : Registry) (timestamp : Timestamp)
    (scan : LoadScan) : Prop where
  aged : Aged start scan.registry
  sampled : SampledFrom readout scan.sampled
  kept : ∀ lease ∈ scan.activeLeases, ∃ file ∈ readout.leases, file.leaseId = lease.leaseId ∧
    file.aliasName = lease.aliasName ∧ Counts readout start timestamp file

theorem LoadLoop.keep {start : Registry} {timestamp : Timestamp} {scan : LoadScan}
    {file lease : Lease} (hloop : LoadLoop readout start timestamp scan)
    (hfile : file ∈ readout.leases) (hid : file.leaseId = lease.leaseId)
    (halias : file.aliasName = lease.aliasName) (hcounts : Counts readout start timestamp file) :
    LoadLoop readout start timestamp (scan.keep lease) where
  aged := hloop.aged
  sampled := hloop.sampled
  kept other hmem := by
    rcases List.mem_append.mp hmem with hbefore | hlast
    · exact hloop.kept other hbefore
    · rw [List.mem_singleton.mp hlast]
      exact ⟨file, hfile, hid, halias, hcounts⟩

/-- Every lease the load counts is counted by a reader that leaves the files alone. -/
structure LoadState (readout : Readout) (first : World) (timestamp : Timestamp)
    (inventory : SimctlInventory) (state : BrokerState) : Prop
    extends ReadState readout first timestamp inventory state where
  kept : ∀ lease ∈ state.leases, ∃ file ∈ readout.leases, file.leaseId = lease.leaseId ∧
    file.aliasName = lease.aliasName ∧
      Counts readout (normalizeRegistry first.store.registry state.hostConfig timestamp) timestamp
        file

end SimulatorBroker.Reading
