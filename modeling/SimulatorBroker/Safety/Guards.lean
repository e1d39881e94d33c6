import SimulatorBroker.Broker.Commands
import SimulatorBroker.State.Surroundings

/-!
# Invariants and guards

What holds of the broker's world at every moment, and what each operation may do
for that to stay so.  A command is shown safe by showing that every operation it
performs is within its guard.
-/

namespace SimulatorBroker.Safety

open SimulatorBroker.Effects
open SimulatorBroker.State
open SimulatorBroker.Broker

/-! ## Leases on disk -/

/-- The registry on disk marks the lease file as left behind by an acquire. -/
def Leftover (world : World) (lease : Lease) : Prop :=
  ∃ registry, world.store.registry = some registry ∧
    isLeftoverAcquireRollbackLease lease registry = true

/-- The lease file is no leftover, and while its alias is being repaired the
registry names it. -/
structure Granted (world : World) (lease : Lease) : Prop where
  onDisk : lease ∈ world.store.leases
  notLeftover : ¬ Leftover world lease
  adopted : ∀ entry, world.store.entry lease.aliasName = some entry →
    entry.health = .repairing → entry.activeLeaseId = some lease.leaseId

/-- The acquire of that lease was rolled back: the registry does not name it and
its file, where it is still there, is a leftover. -/
structure RolledBack (world : World) (leaseId : LeaseId) : Prop where
  inactive : ∀ name entry, world.store.entry name = some entry →
    entry.activeLeaseId ≠ some leaseId
  leftover : ∀ lease ∈ world.store.leases, lease.leaseId = leaseId → Leftover world lease

/-- No file of a lease that a state load would count stands on the alias: each
is a leftover, or its owner is dead and there is nothing to contain. -/
def Inactive (ownerAlive : LeaseId → Prop) (world : World) (name : AliasName) : Prop :=
  ∀ lease ∈ world.store.leases, lease.aliasName = name →
    Leftover world lease ∨
      (lease.hasContainmentProcessMetadata = false ∧ ¬ ownerAlive lease.leaseId)

def Unpinned (world : World) (name : AliasName) : Prop :=
  ∀ pin ∈ world.store.pins, pin.aliasName ≠ name

/-- Two lease files share no artifact path. -/
def Apart (paths : BrokerPaths) (left right : Lease) : Prop :=
  ∀ path ∈ left.artifactPath, ∀ other ∈ right.artifactPath,
    paths.canonicalPathForComparison path ≠ paths.canonicalPathForComparison other

/-- A pin of the alias of the lease is for its project and its purpose. -/
def Compatible (lease : Lease) (pin : Pin) : Prop :=
  pin.aliasName = lease.aliasName → leaseMatchesPin lease.projectId lease.purposeId pin = true

/-- The record is the lease at a later time. -/
structure Rewrites (old record : Lease) : Prop where
  leaseId : old.leaseId = record.leaseId
  aliasName : old.aliasName = record.aliasName
  artifactPath : old.artifactPath = record.artifactPath
  projectId : old.projectId = record.projectId
  purposeId : old.purposeId = record.purposeId

theorem Rewrites.refl (lease : Lease) : Rewrites lease lease :=
  ⟨rfl, rfl, rfl, rfl, rfl⟩

theorem Rewrites.symm {old record : Lease} (hrewrites : Rewrites old record) :
    Rewrites record old :=
  ⟨hrewrites.leaseId.symm, hrewrites.aliasName.symm, hrewrites.artifactPath.symm,
    hrewrites.projectId.symm, hrewrites.purposeId.symm⟩

theorem Rewrites.apart {paths : BrokerPaths} {old record other : Lease}
    (hrewrites : Rewrites old record) (hapart : Apart paths old other) : Apart paths record other := by
  unfold Apart
  rw [← hrewrites.artifactPath]
  exact hapart

theorem Rewrites.compatible {old record : Lease} {pin : Pin} (hrewrites : Rewrites old record)
    (hcompatible : Compatible old pin) : Compatible record pin := by
  unfold Compatible
  rw [← hrewrites.aliasName, ← hrewrites.projectId, ← hrewrites.purposeId]
  exact hcompatible

theorem Apart.symm {paths : BrokerPaths} {left right : Lease} (hapart : Apart paths left right) :
    Apart paths right left :=
  fun path hpath other hother heq => hapart other hother path hpath heq.symm

/-- The lease a reference names. -/
def LeaseReference.Names (reference : LeaseReference) (world : World) (leaseId : LeaseId) : Prop :=
  reference.leaseId = some leaseId ∨
    reference.leaseId = none ∧ ∃ path record, reference.leaseFile = some path ∧
      world.store.artifacts path = some (.lease record) ∧ record.leaseId = leaseId

/-! ## The context of a command -/

/-- `spared` are leases the command must leave alone, `since` is the earliest
time it observes, `rolledBack` are leases whose acquire was rolled back.  Lease
ids from `drawnFrom` on are drawn by the command itself; `reference` is the lease
reference of its caller; with `causeOnly` it deletes only aliases with a recorded
cause.  What is `assumed` is a condition on every moment of the command. -/
structure Context where
  paths : BrokerPaths
  surroundings : Surroundings
  spared : LeaseId → Prop := fun _ => False
  since : Timestamp := 0
  rolledBack : LeaseId → Prop := fun _ => False
  drawnFrom : LeaseId := 0
  reference : LeaseReference := {}
  causeOnly : Bool := false
  assumed : World → Prop := fun _ => True

/-- What the command relies on about the leases it spares. -/
structure Spared (context : Context) (world : World) (lease : Lease) : Prop
    extends Granted world lease where
  alive : context.surroundings.ownerAlive lease.leaseId
  since : lease.ownerSince ≤ context.since

/-! ## The invariant -/

/-- What holds of the broker's files and of the ledger at every moment. -/
structure Consistent (paths : BrokerPaths) (world : World) : Prop where
  devicesDrawn : world.outside.DevicesDrawn
  boundDrawn : ∀ config, world.store.hostConfig = some config →
    ∀ simulatorId ∈ config.simulatorIds, simulatorId < world.outside.nextDevice
  leaseIds : (world.store.leases.map (·.leaseId)).Nodup
  leaseAliases : (world.store.leases.map (·.aliasName)).Nodup
  leaseDrawn : ∀ lease ∈ world.store.leases, lease.leaseId < world.outside.nextId
  leaseConfigured : ∀ lease ∈ world.store.leases, lease.aliasName ∈ world.store.configuredAliases
  leaseArtifacts : ∀ lease ∈ world.store.leases, lease.artifactPath.all paths.artifactPathAllowed
  leaseApart : ∀ lease ∈ world.store.leases, ∀ other ∈ world.store.leases,
    lease.leaseId ≠ other.leaseId → Apart paths lease other
  pinAliases : (world.store.pins.map (·.aliasName)).Nodup
  pinConfigured : ∀ pin ∈ world.store.pins, pin.aliasName ∈ world.store.configuredAliases
  compatible : ∀ lease ∈ world.store.leases, ∀ pin ∈ world.store.pins, Compatible lease pin
  ownerSince : ∀ lease ∈ world.store.leases, lease.ownerSince ≤ world.outside.clock
  owned : ∀ lease ∈ world.store.leases, lease.runtimeOwnerPid.isSome
  latched : ∀ name, world.ledger.latched name = true →
    ∃ entry, world.store.entry name = some entry ∧ entry.health.latched = true
  cause : ∀ name entry code, world.store.entry name = some entry →
    entry.driftCauseCode = some code →
    world.ledger.cause name = some code ∧ entry.health.latched = true

structure Invariant (context : Context) (world : World) : Prop
    extends Consistent context.paths world where
  spared : ∀ leaseId, context.spared leaseId →
    ∃ lease, lease.leaseId = leaseId ∧ Spared context world lease
  rolledBack : ∀ leaseId, context.rolledBack leaseId →
    leaseId < world.outside.nextId ∧ RolledBack world leaseId

/-- A moment of a command: the invariant, and what is assumed. -/
structure Moment (context : Context) (world : World) : Prop extends Invariant context world where
  assumed : context.assumed world

/-! ## Guards -/

/-- A registry may be written if it keeps the latch and the causes, and what it
says about spared and rolled-back leases. -/
structure RegistryWriteOk (context : Context) (world : World) (content : Registry)
    (note : RegistryNote) : Prop where
  latched : ∀ name ∈ world.store.configuredAliases, world.ledger.latched name = true →
    note.repaired = some name ∨
      ∃ entry, content.aliases name = some entry ∧ entry.health.latched = true
  cause : ∀ name entry code, content.aliases name = some entry →
    entry.driftCauseCode = some code →
    entry.health.latched = true ∧ (name ∈ note.failed ∨ world.ledger.cause name = some code)
  spared : ∀ lease, context.spared lease.leaseId → Spared context world lease →
    isLeftoverAcquireRollbackLease lease content = false ∧
      ∀ entry, content.aliases lease.aliasName = some entry →
        entry.health = .repairing → entry.activeLeaseId = some lease.leaseId
  inactive : ∀ leaseId, context.rolledBack leaseId → ∀ name entry,
    content.aliases name = some entry → entry.activeLeaseId ≠ some leaseId
  leftover : ∀ lease ∈ world.store.leases, context.rolledBack lease.leaseId →
    isLeftoverAcquireRollbackLease lease content = true

/-- A host config keeps the aliases of the leases and pins, and drops, where a command deletes
only for a cause, none without one. -/
structure HostWriteOk (context : Context) (world : World) (config : HostConfig) : Prop where
  drawn : ∀ simulatorId ∈ config.simulatorIds, simulatorId < world.outside.nextDevice
  leases : ∀ lease ∈ world.store.leases, lease.aliasName ∈ config.aliasNames
  pins : ∀ pin ∈ world.store.pins, pin.aliasName ∈ config.aliasNames
  caused : context.causeOnly = true → ∀ name ∈ world.store.configuredAliases,
    name ∉ config.aliasNames → (world.ledger.cause name).isSome

/-- A pin is written for a configured alias without one, beside the lease on it. -/
structure PinWriteOk (world : World) (record : Pin) : Prop where
  unpinned : Unpinned world record.aliasName
  configured : record.aliasName ∈ world.store.configuredAliases
  compatible : ∀ lease ∈ world.store.leases, Compatible lease record

/-- The lease is the first on a healthy alias, compatible with its pins. -/
structure Places (paths : BrokerPaths) (world : World) (record : Lease) : Prop where
  free : ∀ other ∈ world.store.leases, other.aliasName ≠ record.aliasName ∧
    other.leaseId ≠ record.leaseId
  configured : record.aliasName ∈ world.store.configuredAliases
  drawn : record.leaseId < world.outside.nextId
  healthy : world.ledger.latched record.aliasName = false
  apart : ∀ other ∈ world.store.leases, Apart paths record other
  compatible : ∀ pin ∈ world.store.pins, Compatible record pin

/-- A lease file is rewritten, or written for a new lease. -/
structure LeaseWriteOk (context : Context) (world : World) (record : Lease) : Prop where
  since : record.ownerSince ≤ world.outside.clock
  owned : record.runtimeOwnerPid.isSome
  artifact : record.artifactPath.all context.paths.artifactPathAllowed
  rolledBack : ¬ context.rolledBack record.leaseId
  spared : context.spared record.leaseId → record.ownerSince ≤ context.since
  placed : (∃ old ∈ world.store.leases, Rewrites old record) ∨ Places context.paths world record

/-- What the call site of a destructive `simctl` call is entitled to, for an
alias bound to the simulator. -/
def Permitted (context : Context) (world : World) (hostAlias : HostAlias) : DeviceSite → Prop
  | .slotReclaim | .idle =>
      Inactive context.surroundings.ownerAlive world hostAlias.aliasName ∧ Unpinned world hostAlias.aliasName
  | .delete =>
      Inactive context.surroundings.ownerAlive world hostAlias.aliasName ∧
        Unpinned world hostAlias.aliasName ∧
        (context.causeOnly = true → (world.ledger.cause hostAlias.aliasName).isSome)
  | .resetOnAcquire =>
      ∃ lease ∈ world.store.leases, lease.aliasName = hostAlias.aliasName ∧
        context.drawnFrom ≤ lease.leaseId
  | .lifecycle =>
      Inactive context.surroundings.ownerAlive world hostAlias.aliasName ∨
        ∃ lease ∈ world.store.leases, lease.aliasName = hostAlias.aliasName ∧
          LeaseReference.Names context.reference world lease.leaseId
  | .rollback => Inactive context.surroundings.ownerAlive world hostAlias.aliasName
  | .replacement | .retirement => False
  | .capacity => True

/-- Every alias the host config on disk binds to the simulator permits it. -/
def DestructiveOk (context : Context) (world : World) (simulatorId : SimulatorId)
    (site : DeviceSite) : Prop :=
  ∀ config, world.store.hostConfig = some config → ∀ hostAlias ∈ config.aliases,
    hostAlias.simulatorId = simulatorId → Permitted context world hostAlias site

/-- The event of a lease that a state load ended. -/
def EventOk (context : Context) (event : Event) : Prop :=
  event.type = .leaseReclaimed ∨ event.type = .leaseContained →
    ∀ leaseId, event.leaseId = some leaseId → ¬ context.spared leaseId

def StepOk (context : Context) (op : BrokerOp) (world : World) : Prop :=
  match op with
  | .rename (.registry content note) => RegistryWriteOk context world content note
  | .rename (.hostConfig config) => HostWriteOk context world config
  | .rename (.lease record) => LeaseWriteOk context world record
  | .rename (.pin record) => PinWriteOk world record
  | .unlinkLease leaseId _ => ¬ context.spared leaseId
  | .containLeaseProcesses record _ => ¬ context.spared record.leaseId
  | .appendEvent event => EventOk context event
  | .shutdownDevice simulatorId site | .eraseDevice simulatorId site
  | .deleteDevice simulatorId site => DestructiveOk context world simulatorId site
  | _ => True

/-! ## Moments that change nothing the invariant is about -/

/-- The host config, the registry, the lease files, the pins and the ledger are
as they were. -/
structure Kept (before after : World) : Prop where
  hostConfig : after.store.hostConfig = before.store.hostConfig
  registry : after.store.registry = before.store.registry
  leases : after.store.leases = before.store.leases
  pins : after.store.pins = before.store.pins
  ledger : after.ledger = before.ledger
  later : before.outside.Later after.outside

theorem Kept.refl (world : World) : Kept world world :=
  ⟨rfl, rfl, rfl, rfl, rfl, .refl _⟩

theorem Kept.trans {first middle last : World} (hfirst : Kept first middle)
    (hlast : Kept middle last) : Kept first last where
  hostConfig := hlast.hostConfig.trans hfirst.hostConfig
  registry := hlast.registry.trans hfirst.registry
  leases := hlast.leases.trans hfirst.leases
  pins := hlast.pins.trans hfirst.pins
  ledger := hlast.ledger.trans hfirst.ledger
  later := hfirst.later.trans hlast.later

theorem Kept.entry {before after : World} (hkept : Kept before after) :
    after.store.entry = before.store.entry := by
  funext name
  simp [Store.entry, hkept.registry]

theorem Kept.configuredAliases {before after : World} (hkept : Kept before after) :
    after.store.configuredAliases = before.store.configuredAliases := by
  simp [Store.configuredAliases, hkept.hostConfig]

theorem Kept.leftover {before after : World} (hkept : Kept before after) {lease : Lease} :
    Leftover after lease ↔ Leftover before lease := by
  simp [Leftover, hkept.registry]

theorem Kept.granted {before after : World} (hkept : Kept before after) {lease : Lease} :
    Granted after lease ↔ Granted before lease := by
  constructor
  · rintro ⟨hdisk, hnot, hadopted⟩
    exact ⟨hkept.leases ▸ hdisk, hkept.leftover.not.mp hnot, hkept.entry ▸ hadopted⟩
  · rintro ⟨hdisk, hnot, hadopted⟩
    exact ⟨hkept.leases ▸ hdisk, hkept.leftover.not.mpr hnot, hkept.entry ▸ hadopted⟩

theorem Kept.rolledBack {before after : World} (hkept : Kept before after) {leaseId : LeaseId}
    (hrolledBack : RolledBack before leaseId) : RolledBack after leaseId where
  inactive := hkept.entry ▸ hrolledBack.inactive
  leftover lease hlease hid := hkept.leftover.mpr
    (hrolledBack.leftover lease (hkept.leases ▸ hlease) hid)

theorem Kept.consistent {paths : BrokerPaths} {before after : World} (hkept : Kept before after)
    (hconsistent : Consistent paths before) : Consistent paths after where
  devicesDrawn := hkept.later.devicesDrawn hconsistent.devicesDrawn
  boundDrawn config hconfig simulatorId hbound :=
    (hconsistent.boundDrawn config (hkept.hostConfig ▸ hconfig) simulatorId hbound).trans_le
      hkept.later.nextDevice
  leaseIds := hkept.leases ▸ hconsistent.leaseIds
  leaseAliases := hkept.leases ▸ hconsistent.leaseAliases
  leaseDrawn lease hlease :=
    (hconsistent.leaseDrawn lease (hkept.leases ▸ hlease)).trans_le hkept.later.nextId
  leaseConfigured := by
    rw [hkept.leases, hkept.configuredAliases]
    exact hconsistent.leaseConfigured
  leaseArtifacts := hkept.leases ▸ hconsistent.leaseArtifacts
  leaseApart := hkept.leases ▸ hconsistent.leaseApart
  pinAliases := hkept.pins ▸ hconsistent.pinAliases
  pinConfigured := by
    rw [hkept.pins, hkept.configuredAliases]
    exact hconsistent.pinConfigured
  compatible := by
    rw [hkept.leases, hkept.pins]
    exact hconsistent.compatible
  ownerSince lease hlease :=
    (hconsistent.ownerSince lease (hkept.leases ▸ hlease)).trans hkept.later.clock
  owned := hkept.leases ▸ hconsistent.owned
  latched := by
    rw [hkept.ledger, hkept.entry]
    exact hconsistent.latched
  cause := by
    rw [hkept.ledger, hkept.entry]
    exact hconsistent.cause

theorem Kept.invariant {context : Context} {before after : World}
    (hkept : Kept before after) (hinvariant : Invariant context before) :
    Invariant context after where
  toConsistent := hkept.consistent hinvariant.toConsistent
  spared leaseId hspared := by
    obtain ⟨lease, hid, hlease⟩ := hinvariant.spared leaseId hspared
    exact ⟨lease, hid, ⟨hkept.granted.mpr hlease.toGranted, hlease.alive, hlease.since⟩⟩
  rolledBack leaseId hrolledBack := by
    obtain ⟨hdrawn, hlease⟩ := hinvariant.rolledBack leaseId hrolledBack
    exact ⟨hdrawn.trans_le hkept.later.nextId, hkept.rolledBack hlease⟩

end SimulatorBroker.Safety
