import Mathlib.Data.List.Perm.Basic
import SimulatorBroker.Effects.Weakest
import SimulatorBroker.State.HostSchema

/-!
# The broker's world

The files the broker owns, the simulators and the clock outside it, and the
operations a broker command performs on them.  Every file-system and `simctl`
call is one operation and may fail; a JSON file is replaced by a rename.
-/

namespace SimulatorBroker.State

open SimulatorBroker.Effects

/-! ## Files -/

/-- What stands at an artifact path: a lease record, or something else. -/
inductive ArtifactContent where
  | lease (record : Lease)
  | other (isJson : Bool) (content : String)
  deriving DecidableEq, Repr

/-- The broker's files under the state root, and the host config. -/
structure Store where
  hostConfig : Option HostConfig := none
  registry : Option Registry := none
  leases : List Lease := []
  artifacts : ArtifactPath → Option ArtifactContent := fun _ => none
  pins : List Pin := []
  knownProjects : List ProjectConfig := []
  idlePolicy : Option Nat := none
  transactions : List CapacityTransaction := []
  events : List Event := []

namespace Store

def lease? (store : Store) (leaseId : LeaseId) : Option Lease :=
  store.leases.find? fun lease => lease.leaseId = leaseId

def setLease (store : Store) (lease : Lease) : Store :=
  { store with leases := lease :: store.leases.filter fun other => other.leaseId ≠ lease.leaseId }

def dropLease (store : Store) (leaseId : LeaseId) : Store :=
  { store with leases := store.leases.filter fun other => other.leaseId ≠ leaseId }

def setArtifact (store : Store) (path : ArtifactPath) (content : Option ArtifactContent) : Store :=
  { store with artifacts := Function.update store.artifacts path content }

def setPin (store : Store) (pin : Pin) : Store :=
  { store with pins := pin :: store.pins.filter fun other => other.pinId ≠ pin.pinId }

def dropPin (store : Store) (pinId : PinId) : Store :=
  { store with pins := store.pins.filter fun other => other.pinId ≠ pinId }

def setTransaction (store : Store) (transaction : CapacityTransaction) : Store :=
  { store with
    transactions := transaction :: store.transactions.filter
      fun other => other.transactionId ≠ transaction.transactionId }

/-- The aliases of the host config on disk. -/
def configuredAliases (store : Store) : List AliasName :=
  (store.hostConfig.map (·.aliasNames)).getD []

/-- The registry entry on disk. -/
def entry (store : Store) (name : AliasName) : Option RegistryEntry :=
  store.registry.bind fun registry => registry.aliases name

end Store

/-- What a registry write records beside its content, for the ledger only: the
aliases whose erase it records, the aliases whose failed repair or delete it
records, the alias whose repair it completes. -/
structure RegistryNote where
  erased : List AliasName := []
  failed : List AliasName := []
  repaired : Option AliasName := none
  deriving DecidableEq, Repr

/-- A file the broker replaces as a whole, with its new content. -/
inductive FileWrite where
  | hostConfig (config : HostConfig)
  | registry (content : Registry) (note : RegistryNote)
  | lease (record : Lease)
  | artifact (path : ArtifactPath) (content : ArtifactContent)
  | pin (record : Pin)
  | knownProjects (projects : List ProjectConfig)
  | idlePolicy (graceSeconds : Nat)
  | transaction (record : CapacityTransaction)
  | appSnapshot
  | evidence

def FileWrite.commit : FileWrite → Store → Store
  | .hostConfig config, store => { store with hostConfig := some config }
  | .registry content _, store => { store with registry := some content }
  | .lease record, store => store.setLease record
  | .artifact path content, store => store.setArtifact path (some content)
  | .pin record, store => store.setPin record
  | .knownProjects projects, store => { store with knownProjects := projects }
  | .idlePolicy graceSeconds, store => { store with idlePolicy := some graceSeconds }
  | .transaction record, store => store.setTransaction record
  | .appSnapshot, store => store
  | .evidence, store => store

/-! ## Outside the broker -/

structure Outside where
  clock : Timestamp := 0
  nextId : Nat := 0
  nextDevice : SimulatorId := 0
  devices : List Device := []
  deviceTypes : List DeviceType := []
  runtimes : List Runtime := []

/-- Every device carries an identifier that was drawn. -/
def Outside.DevicesDrawn (outside : Outside) : Prop :=
  ∀ device ∈ outside.devices, device.udid < outside.nextDevice

/-- Time passes, identifiers are never drawn twice and no device appears with
one that was not drawn; whatever else happens outside is left to the
surroundings. -/
structure Outside.Later (before after : Outside) : Prop where
  clock : before.clock ≤ after.clock
  nextId : before.nextId ≤ after.nextId
  nextDevice : before.nextDevice ≤ after.nextDevice
  devicesDrawn : before.DevicesDrawn → after.DevicesDrawn

theorem Outside.Later.refl (outside : Outside) : outside.Later outside :=
  ⟨le_rfl, le_rfl, le_rfl, id⟩

theorem Outside.Later.trans {first middle last : Outside} (hfirst : first.Later middle)
    (hlast : middle.Later last) : first.Later last :=
  ⟨hfirst.clock.trans hlast.clock, hfirst.nextId.trans hlast.nextId,
    hfirst.nextDevice.trans hlast.nextDevice, hlast.devicesDrawn ∘ hfirst.devicesDrawn⟩

namespace Outside

def updateDevice (outside : Outside) (simulatorId : SimulatorId) (update : Device → Device) :
    Outside :=
  { outside with
    devices := outside.devices.map fun device =>
      if device.udid = simulatorId then update device else device }

def createDevice (outside : Outside) (name deviceTypeIdentifier runtimeIdentifier : String) :
    Outside :=
  { outside with
    nextDevice := outside.nextDevice + 1
    devices :=
      { udid := outside.nextDevice, name, deviceTypeIdentifier, runtimeIdentifier }
        :: outside.devices }

def deleteDevice (outside : Outside) (simulatorId : SimulatorId) : Outside :=
  { outside with devices := outside.devices.filter fun device => device.udid ≠ simulatorId }

end Outside

/-! ## The ledger -/

/-- Unhealthy until a repair. -/
def Health.latched : Health → Bool
  | .repairNeeded | .repairing => true
  | .healthy | .stateDrift => false

/-- What happened to each alias, recorded beside the run; no command reads it.
`endedSinceErase` counts the leases that ended since a registry write last
recorded an erase, `lastReleasedAt` is the release time that the latest one was given
by the operation that ended it, whenever its file was removed, `unwritten` says that
a stale lease file was removed and the registry not written since.
`latched` says that the alias was persisted as unhealthy and neither repaired
nor deleted from the host config since; `cause` is the code the latest failed
repair or delete recorded, while the alias has been unhealthy ever since. -/
structure Ledger where
  endedSinceErase : AliasName → Nat := fun _ => 0
  lastReleasedAt : AliasName → Option Timestamp := fun _ => none
  unwritten : Bool := false
  latched : AliasName → Bool := fun _ => false
  cause : AliasName → Option ReasonCode := fun _ => none

namespace Ledger

def ended (ledger : Ledger) (name : AliasName) (releasedAt : Timestamp) : Ledger :=
  { ledger with
    endedSinceErase :=
      Function.update ledger.endedSinceErase name (ledger.endedSinceErase name + 1)
    lastReleasedAt := Function.update ledger.lastReleasedAt name (some releasedAt) }

/-- The registry was written while `configured` were the aliases of the host
config.  An alias without an entry is forgotten. -/
def registryWritten (ledger : Ledger) (configured : List AliasName) (registry : Registry)
    (note : RegistryNote) : Ledger where
  endedSinceErase name :=
    if name ∈ note.erased ∨ registry.aliases name = none then 0 else ledger.endedSinceErase name
  lastReleasedAt name :=
    if registry.aliases name = none then none else ledger.lastReleasedAt name
  unwritten := false
  latched name :=
    decide (name ∈ configured) &&
      ((registry.aliases name).any (fun entry => entry.health.latched)
        || (ledger.latched name && decide (note.repaired ≠ some name)))
  cause name :=
    if name ∈ note.failed then (registry.aliases name).bind (·.driftCauseCode)
    else if (registry.aliases name).any (fun entry => entry.health.latched) then ledger.cause name
    else none

def hostConfigWritten (ledger : Ledger) (config : HostConfig) : Ledger :=
  { ledger with latched := fun name => ledger.latched name && decide (name ∈ config.aliasNames) }

end Ledger

structure World where
  store : Store := {}
  outside : Outside := {}
  ledger : Ledger := {}

/-! ## Operations -/

inductive LockName where
  | capacity
  | lease
  | reset
  deriving DecidableEq, Repr

/-- File-system calls around a rename; none changes a file of the store. -/
inductive FsCall where
  | ensureDir
  | openTemp
  | writeTemp
  | chmodTemp
  | syncTemp
  | closeTemp
  | removeTemp
  | chmodTarget
  | openDirectory
  | syncDirectory
  | evidence
  | recordAuditAppendFailure
  deriving DecidableEq, Repr

/-- The call site that removes a lease file; an ended lease carries the release
time the broker records for it. -/
inductive UnlinkSite where
  | leftover
  | stale (releasedAt : Timestamp)
  | contained (releasedAt : Timestamp)
  | released (releasedAt : Timestamp)
  | revoked (releasedAt : Timestamp)
  | rollback
  deriving DecidableEq, Repr

/-- The release time of a lease that ends, not of one whose acquire is rolled back. -/
def UnlinkSite.releasedAt : UnlinkSite → Option Timestamp
  | .stale releasedAt | .contained releasedAt | .released releasedAt | .revoked releasedAt =>
      some releasedAt
  | .leftover | .rollback => none

/-- A state load removes the lease of a dead owner and writes the registry later. -/
def UnlinkSite.isStale : UnlinkSite → Bool
  | .stale _ => true
  | _ => false

/-- The call site of a destructive `simctl` call. -/
inductive DeviceSite where
  | slotReclaim
  | resetOnAcquire
  | lifecycle
  | delete
  | idle
  | replacement
  | rollback
  | retirement
  | capacity
  deriving DecidableEq, Repr

inductive BrokerOp where
  | now
  | randomUuid
  | lock (name : LockName)
  | unlock (name : LockName)
  | fs (call : FsCall)
  | rename (file : FileWrite)
  | linkArtifact (path : ArtifactPath) (record : Lease)
  | unlinkLease (leaseId : LeaseId) (site : UnlinkSite)
  | unlinkArtifact (path : ArtifactPath)
  | unlinkPin (pinId : PinId)
  | unlinkIdlePolicy
  | readHostConfig
  | hostConfigExists
  | readRegistry
  | listLeases
  | readLease (leaseId : LeaseId)
  | readArtifact (path : ArtifactPath)
  | listPins
  | readKnownProjects
  | readProject
  | readIdlePolicy
  | listTransactions
  | readEvents
  | appendEvent (event : Event)
  | listDeviceTypes
  | listDevices
  | listRuntimes
  | createDevice (name deviceTypeIdentifier runtimeIdentifier : String)
  | renameDevice (simulatorId : SimulatorId) (name : String)
  | shutdownDevice (simulatorId : SimulatorId) (site : DeviceSite)
  | eraseDevice (simulatorId : SimulatorId) (site : DeviceSite)
  | deleteDevice (simulatorId : SimulatorId) (site : DeviceSite)
  | bootDevice (simulatorId : SimulatorId)
  | waitForBooted (simulatorId : SimulatorId)
  | measureDeviceDiskBytes (simulatorId : SimulatorId)
  | processExists (pid : Pid)
  | sampleProcesses
  | containLeaseProcesses (record : Lease) (reason : ContainmentReason)

namespace BrokerOp

abbrev Ret : BrokerOp → Type
  | .now => Timestamp
  | .randomUuid => Nat
  | .readHostConfig => Option HostConfig
  | .hostConfigExists => Bool
  | .readRegistry => Option Registry
  | .listLeases => List Lease
  | .readLease _ => Option Lease
  | .readArtifact _ => Option ArtifactContent
  | .listPins => List Pin
  | .readKnownProjects => List ProjectConfig
  | .readProject => ProjectConfig
  | .readIdlePolicy => Option Nat
  | .listTransactions => List CapacityTransaction
  | .readEvents => List Event
  | .listDeviceTypes => List DeviceType
  | .listDevices => List Device
  | .listRuntimes => List Runtime
  | .createDevice _ _ _ => SimulatorId
  | .measureDeviceDiskBytes _ => Option Nat
  | .processExists _ => Bool
  | .sampleProcesses => List ProcessRecord
  | .containLeaseProcesses _ _ => ContainmentOutcome
  | _ => Unit

/-- What the operation does to the world. -/
def effect : BrokerOp → World → World
  | .randomUuid, world =>
      { world with outside := { world.outside with nextId := world.outside.nextId + 1 } }
  | .rename (.registry content note), world =>
      { world with
        store := (FileWrite.registry content note).commit world.store
        ledger := world.ledger.registryWritten world.store.configuredAliases content note }
  | .rename (.hostConfig config), world =>
      { world with
        store := (FileWrite.hostConfig config).commit world.store
        ledger := world.ledger.hostConfigWritten config }
  | .rename file, world => { world with store := file.commit world.store }
  | .linkArtifact path record, world =>
      { world with store := world.store.setArtifact path (some (.lease record)) }
  | .unlinkLease leaseId site, world =>
      { world with
        store := world.store.dropLease leaseId
        ledger :=
          match world.store.lease? leaseId, site.releasedAt with
          | some lease, some releasedAt =>
              { world.ledger.ended lease.aliasName releasedAt with
                unwritten := world.ledger.unwritten || site.isStale }
          | _, _ => world.ledger }
  | .unlinkArtifact path, world => { world with store := world.store.setArtifact path none }
  | .unlinkPin pinId, world => { world with store := world.store.dropPin pinId }
  | .unlinkIdlePolicy, world => { world with store := { world.store with idlePolicy := none } }
  | .appendEvent event, world =>
      { world with store := { world.store with events := world.store.events ++ [event] } }
  | .createDevice name deviceTypeIdentifier runtimeIdentifier, world =>
      { world with
        outside := world.outside.createDevice name deviceTypeIdentifier runtimeIdentifier }
  | .renameDevice simulatorId name, world =>
      { world with
        outside := world.outside.updateDevice simulatorId fun device =>
          { device with name } }
  | .shutdownDevice simulatorId _, world =>
      { world with
        outside := world.outside.updateDevice simulatorId fun device =>
          { device with booted := false } }
  | .bootDevice simulatorId, world =>
      { world with
        outside := world.outside.updateDevice simulatorId fun device =>
          { device with booted := true } }
  | .deleteDevice simulatorId _, world =>
      { world with outside := world.outside.deleteDevice simulatorId }
  | _, world => world

/-- A failed call of these may already have had its effect. -/
def mayFailLate : BrokerOp → Bool
  | .appendEvent _ | .createDevice _ _ _ | .renameDevice _ _ | .shutdownDevice _ _
  | .eraseDevice _ _ | .deleteDevice _ _ | .bootDevice _ => true
  | _ => false

end BrokerOp

/-- The signature of a broker command. -/
def brokerSignature : Signature where
  Op := BrokerOp
  Ret := BrokerOp.Ret

abbrev Broker (α : Type) : Type := Program brokerSignature BrokerError α

def perform (op : BrokerOp) : Broker op.Ret := Program.request (σ := brokerSignature) op

end SimulatorBroker.State
